import Mathlib.Data.List.Rotate
import Mathlib.Data.List.TakeWhile
import Mathlib.Data.String.Basic
import LayerLint.Graph.Basic
import LayerLint.Graph.Rotation

/-!
# Arcs and directed cycles

A cycle is a list of modules, and its arcs are the pairs of a member and the
next one, the last member being followed by the first.  Rotating the list
rotates the arcs, so the canonical reading of a cycle has the arcs of every
other reading.

A graph has an arc where it stores an edge, whatever that edge says of its own
ends.  A closed walk is a cycle all of whose arcs are arcs of the graph; its
members may repeat, and a graph without closed walks has no directed cycle of
any kind.

## Main results

* `mem_arcs_canonical`: the canonical reading has the same arcs.
* `forall_mem_arcs_iff`: arcs are the links of the list and the one that closes it.
* `acyclic_of_wellFounded`: no closed walk can climb down for ever.
* `hasArc_cut_iff`: cutting takes away the given arcs and nothing else.
-/

namespace LayerLint

open Std (ExtTreeMap)

/-- Two modules, the first of which imports the second. -/
abbrev Arc := ModuleId × ModuleId

namespace Cycle

/-- Every member with the next one, and the last member with the first. -/
def arcs (c : Cycle) : List Arc := c.zip (c.rotate 1)

/-- The arc from the last member back to the first. -/
def closing? : Cycle → Option Arc
  | [] => none
  | first :: rest => some (rest.getLastD first, first)

/-! ## Rotations -/

theorem arcs_rotate (c : Cycle) (n : Nat) : arcs (c.rotate n) = (arcs c).rotate n := by
  unfold arcs
  rw [List.rotate_rotate, Nat.add_comm, ← List.rotate_rotate]
  exact (List.zipWith_rotate_distrib _ _ _ n (List.length_rotate c 1).symm).symm

theorem IsRotation.exists_rotate {c d : Cycle} (h : IsRotation c d) : ∃ n, d = c.rotate n := by
  obtain ⟨front, back, rfl, rfl⟩ := h
  exact ⟨front.length, (List.rotate_append_length_eq front back).symm⟩

theorem mem_arcs_canonical {c : Cycle} {a : Arc} : a ∈ arcs (canonical c) ↔ a ∈ arcs c := by
  obtain ⟨n, hn⟩ := (canonical_isRotation c).exists_rotate
  rw [hn, arcs_rotate, List.mem_rotate]

theorem canonical_perm (c : Cycle) : (canonical c).Perm c := by
  obtain ⟨n, hn⟩ := (canonical_isRotation c).exists_rotate
  rw [hn]
  exact List.rotate_perm c n

/-! ## The smallest member -/

theorem least_le (first : ModuleId) (rest : List ModuleId) :
    ∀ id ∈ first :: rest, least first rest ≤ id := by
  unfold least
  induction rest generalizing first with
  | nil =>
      intro id hid
      rw [List.mem_singleton.1 hid]
      exact le_refl first
  | cons next rest ih =>
      intro id hid
      rw [List.foldl_cons]
      have hNext := ih (if next < first then next else first)
      have hFirst := hNext _ List.mem_cons_self
      by_cases hlt : next < first
      · rw [if_pos hlt] at hNext hFirst ⊢
        rcases List.mem_cons.1 hid with rfl | hid
        · exact hFirst.trans hlt.le
        · exact hNext id hid
      · rw [if_neg hlt] at hNext hFirst ⊢
        rcases List.mem_cons.1 hid with rfl | hid
        · exact hFirst
        · rcases List.mem_cons.1 hid with rfl | hid
          · exact hFirst.trans (not_lt.1 hlt)
          · exact hNext id (List.mem_cons_of_mem _ hid)

theorem least_mem (first : ModuleId) (rest : List ModuleId) :
    least first rest ∈ first :: rest := by
  unfold least
  induction rest generalizing first with
  | nil => exact List.mem_singleton_self first
  | cons next rest ih =>
      rw [List.foldl_cons]
      have hmem := ih (if next < first then next else first)
      by_cases hlt : next < first
      · rw [if_pos hlt] at hmem ⊢
        exact List.mem_cons_of_mem first hmem
      · rw [if_neg hlt] at hmem ⊢
        rcases List.mem_cons.1 hmem with heq | hmem
        · rw [heq]
          exact List.mem_cons_self
        · exact List.mem_cons_of_mem first (List.mem_cons_of_mem next hmem)

/-- The canonical reading starts at the smallest member. -/
theorem head?_canonical (first : ModuleId) (rest : List ModuleId) :
    (canonical (first :: rest)).head? = some (least first rest) := by
  have hmem := least_mem first rest
  unfold canonical
  dsimp only
  generalize least first rest = m at hmem ⊢
  generalize first :: rest = c at hmem ⊢
  induction c with
  | nil => exact absurd hmem List.not_mem_nil
  | cons x c ih =>
      by_cases hx : x = m
      · simp [hx]
      · have hmem' : m ∈ c := (List.mem_cons.1 hmem).resolve_left (Ne.symm hx)
        have hdrop : c.dropWhile (· ≠ m) ≠ [] := by
          intro hnil
          rw [List.dropWhile_eq_nil_iff] at hnil
          simpa using hnil m hmem'
        have hhead := ih hmem'
        rw [List.head?_append_of_ne_nil _ hdrop] at hhead
        rw [List.dropWhile_cons_of_pos (by simpa using hx),
          List.head?_append_of_ne_nil _ hdrop, hhead]

theorem head?_canonical_le {c : Cycle} {first id : ModuleId}
    (hFirst : (canonical c).head? = some first) (hid : id ∈ canonical c) : first ≤ id := by
  cases c with
  | nil => exact absurd hid List.not_mem_nil
  | cons x rest =>
      rw [head?_canonical] at hFirst
      rw [← Option.some.inj hFirst]
      exact least_le x rest id ((canonical_perm _).mem_iff.1 hid)

/-! ## The arcs of a list -/

private theorem forall_mem_zip_concat_iff {P : Arc → Prop} (first last : ModuleId)
    (rest : List ModuleId) :
    (∀ a ∈ (first :: rest).zip (rest ++ [last]), P a) ↔
      (first :: rest).IsChain (fun x y => P (x, y)) ∧ P (rest.getLastD first, last) := by
  induction rest generalizing first with
  | nil => simp
  | cons next rest ih =>
      rw [List.cons_append, List.zip_cons_cons, List.forall_mem_cons, ih next,
        List.isChain_cons_cons, and_assoc, List.getLastD_cons]

/-- A property of all arcs is one of the links of the list and of the arc that closes
it. -/
theorem forall_mem_arcs_iff {P : Arc → Prop} {c : Cycle} {back : Arc}
    (hBack : closing? c = some back) :
    (∀ a ∈ arcs c, P a) ↔ c.IsChain (fun x y => P (x, y)) ∧ P back := by
  cases c with
  | nil => cases hBack
  | cons first rest =>
      rw [← Option.some.inj hBack, arcs, List.rotate_cons_succ, List.rotate_zero]
      exact forall_mem_zip_concat_iff first first rest

theorem mem_arcs_of_closing? {c : Cycle} {back : Arc} (hBack : closing? c = some back) :
    back ∈ arcs c := by
  by_contra hne
  have hall : ∀ a ∈ arcs c, a ≠ back := fun a ha heq => hne (heq ▸ ha)
  exact ((forall_mem_arcs_iff hBack).1 hall).2 rfl

theorem exists_mem_arcs {c : Cycle} {x : ModuleId} (hx : x ∈ c) :
    ∃ y ∈ c, (x, y) ∈ arcs c := by
  obtain ⟨i, hi, rfl⟩ := List.getElem_of_mem hx
  have hi' : i < (c.rotate 1).length := by rwa [List.length_rotate]
  refine ⟨(c.rotate 1)[i], List.mem_rotate.1 (List.getElem_mem hi'), ?_⟩
  rw [arcs, List.mem_iff_getElem]
  exact ⟨i, by simpa using hi, by simp⟩

/-- Only a single module follows itself in a cycle without repeats. -/
theorem eq_singleton_of_mem_arcs {c : Cycle} {v : ModuleId} (hNodup : c.Nodup)
    (hv : (v, v) ∈ arcs c) : c = [v] := by
  rw [arcs, List.mem_iff_getElem] at hv
  obtain ⟨i, hi, heq⟩ := hv
  rw [List.length_zip, List.length_rotate, Nat.min_self] at hi
  rw [List.getElem_zip, Prod.mk.injEq, List.getElem_rotate] at heq
  have hnext : (i + 1) % c.length = i :=
    (hNodup.getElem_inj_iff).1 (heq.2.trans heq.1.symm)
  have hlen : c.length = 1 := by
    by_contra hne
    by_cases hlast : i + 1 = c.length
    · rw [hlast, Nat.mod_self] at hnext
      omega
    · rw [Nat.mod_eq_of_lt (by omega)] at hnext
      omega
  obtain ⟨w, rfl⟩ := List.length_eq_one_iff.1 hlen
  have hw : w ∈ [w] := List.mem_singleton_self w
  have hv' : v ∈ [w] := heq.1 ▸ List.getElem_mem _
  rw [List.mem_singleton.1 hv']

end Cycle

namespace ModuleGraph

/-! ## The arcs of a graph -/

/-- The graph stores an edge from the one module to the other. -/
def HasArc (g : ModuleGraph) (a : Arc) : Prop := (g.edge? a.1 a.2).isSome

theorem mem_keys_neighbors {g : ModuleGraph} {source target : ModuleId} :
    target ∈ (g.neighbors source).keys ↔ g.HasArc (source, target) := by
  rw [ExtTreeMap.mem_keys, ExtTreeMap.mem_iff_isSome_getElem?]
  rfl

theorem contains_of_hasArc {g : ModuleGraph} {a : Arc} (h : g.HasArc a) :
    g.contains a.1 = true := by
  rw [HasArc, edge?_eq] at h
  rw [contains, ExtTreeMap.contains_eq_isSome_getElem?]
  cases hn : g.nodes[a.1]? with
  | none => simp [hn] at h
  | some n => exact Option.isSome_some

theorem HasArc.mem_mentioned {g : ModuleGraph} {a : Arc} (h : g.HasArc a) : a.2 ∈ g.mentioned :=
  mem_mentioned_iff.2 (Or.inr ⟨a.1, h⟩)

theorem mem_mentioned_of_contains {g : ModuleGraph} {id : ModuleId} (h : g.contains id = true) :
    id ∈ g.mentioned :=
  mem_mentioned_iff.2 (Or.inl h)

/-- The arcs of a graph, in the order of its edges. -/
def arcs (g : ModuleGraph) : List Arc :=
  g.nodes.toList.flatMap fun (source, n) => n.outgoing.keys.map (source, ·)

theorem length_arcs (g : ModuleGraph) : g.arcs.length = g.edgeCount := by
  simp [arcs, edgeCount, edges, List.length_flatMap]

theorem mem_arcs_iff {g : ModuleGraph} {a : Arc} : a ∈ g.arcs ↔ g.HasArc a := by
  obtain ⟨source, target⟩ := a
  simp only [arcs, List.mem_flatMap, List.mem_map, Prod.exists, Prod.mk.injEq,
    ExtTreeMap.mem_toList_iff_getElem?_eq_some, ExtTreeMap.mem_keys]
  rw [HasArc, edge?_eq]
  constructor
  · rintro ⟨s, n, hn, t, ht, rfl, rfl⟩
    simpa [hn, ← ExtTreeMap.mem_iff_isSome_getElem?] using ht
  · intro h
    cases hn : g.nodes[source]? with
    | none => simp [hn] at h
    | some n =>
        rw [hn, Option.bind_some, ← ExtTreeMap.mem_iff_isSome_getElem?] at h
        exact ⟨source, n, hn, target, h, rfl, rfl⟩

theorem nodup_arcs (g : ModuleGraph) : g.arcs.Nodup := by
  have hsources : g.nodes.toList.Pairwise fun x y => x.1 ≠ y.1 := by
    have hkeys : g.nodes.keys.Nodup := ExtTreeMap.nodup_keys
    rw [← ExtTreeMap.map_fst_toList_eq_keys] at hkeys
    exact List.pairwise_map.1 hkeys
  refine List.nodup_flatMap.2 ⟨fun (source, n) _ => ?_, hsources.imp ?_⟩
  · exact ExtTreeMap.nodup_keys.map (Prod.mk_right_injective source)
  · intro x y hne a hx hy
    obtain ⟨target, -, rfl⟩ := List.mem_map.1 hx
    obtain ⟨target', -, heq⟩ := List.mem_map.1 hy
    exact hne (congrArg Prod.fst heq).symm

/-! ## Closed walks -/

/-- All arcs of the cycle are arcs of the graph. -/
structure IsClosedWalk (g : ModuleGraph) (c : Cycle) : Prop where
  ne_nil : c ≠ []
  hasArc : ∀ a ∈ c.arcs, g.HasArc a

/-- A closed walk that comes to no module twice. -/
structure IsSimpleCycle (g : ModuleGraph) (c : Cycle) : Prop extends IsClosedWalk g c where
  nodup : c.Nodup

/-- There is no directed cycle, whether its members repeat or not. -/
def Acyclic (g : ModuleGraph) : Prop := ∀ c, ¬ g.IsClosedWalk c

/-- Going along arcs comes to an end from every module, so no walk closes. -/
theorem acyclic_of_wellFounded {g : ModuleGraph}
    (h : WellFounded fun target source => g.HasArc (source, target)) : g.Acyclic := by
  intro c hc
  have hnone : ∀ x, x ∉ c := by
    intro x
    induction x using h.induction with
    | h x ih =>
        intro hx
        obtain ⟨y, hy, harc⟩ := Cycle.exists_mem_arcs hx
        exact ih y (hc.hasArc _ harc) hy
  obtain ⟨x, hx⟩ := List.exists_mem_of_ne_nil c hc.ne_nil
  exact hnone x hx

/-! ## Cutting arcs -/

/-- The graph without the given arcs. -/
def cut (g : ModuleGraph) (removed : List Arc) : ModuleGraph :=
  ⟨g.nodes.map fun source n =>
    { n with outgoing := n.outgoing.filter fun target _ => (source, target) ∉ removed }⟩

theorem hasArc_cut_iff {g : ModuleGraph} {removed : List Arc} {a : Arc} :
    (g.cut removed).HasArc a ↔ g.HasArc a ∧ a ∉ removed := by
  obtain ⟨source, target⟩ := a
  unfold HasArc
  rw [edge?_eq, edge?_eq, cut, ExtTreeMap.getElem?_map]
  cases g.nodes[source]? with
  | none => simp
  | some n =>
      rw [Option.map_some, Option.bind_some, Option.bind_some, ExtTreeMap.getElem?_filter']
      cases n.outgoing[target]? <;> simp

end ModuleGraph

end LayerLint
