import Mathlib.Logic.Relation
import LayerLint.Graph.CycleSearch
import LayerLint.Proofs.Cycle.Arcs
import LayerLint.Proofs.Tables

/-!
# What a step of the search for cycles does

`Step` lists what one step of the search can do, guards included, and every
invariant of the search is proved along it, one case for each constructor.

`Layout` is the first of them.  It ties the parts of a state together: the path
lists the open modules, `position` says where each of them stands, and what is
pending in a frame are targets of the frame's module.  What the search finds out
about the graph is built on it, in a module of its own.

## Main results

* `run_of_step`: what every step keeps holds when the search ends.
* `run_eq_steps`: a run is a number of steps.
* `Layout.run`: the parts of the state fit together at the end.
* `visited_of_run`: by then every module of the graph was visited.
-/

namespace LayerLint

open Std (ExtTreeMap ExtTreeSet)

namespace CycleSearch

/-! ## What a step can do -/

/-- One step of the search, by what it does. -/
inductive Step (g : ModuleGraph) : CycleSearch → CycleSearch → Prop
  /-- A root that is no module, or was visited before, is passed over. -/
  | passRoot {s : CycleSearch} {root : ModuleId} {more : List ModuleId} (hf : s.frames = [])
      (hr : s.roots = root :: more) (hu : g.contains root = true → root ∉ s.unvisited) :
      Step g s { s with roots := more }
  | enterRoot {s : CycleSearch} {root : ModuleId} {more : List ModuleId} (hf : s.frames = [])
      (hr : s.roots = root :: more) (hu : root ∈ s.unvisited) (hg : g.contains root = true) :
      Step g s (enter g root { s with roots := more })
  | leave {s : CycleSearch} {node : ModuleId} {below : List Frame}
      (hf : s.frames = ⟨node, []⟩ :: below) : Step g s (leave node below s)
  | descend {s : CycleSearch} {node target : ModuleId} {pending : List ModuleId}
      {below : List Frame} (hf : s.frames = ⟨node, target :: pending⟩ :: below)
      (hu : target ∈ s.unvisited) :
      Step g s (enter g target { s with frames := ⟨node, pending⟩ :: below })
  | close {s : CycleSearch} {node target : ModuleId} {pending : List ModuleId}
      {below : List Frame} {i : Nat} (hf : s.frames = ⟨node, target :: pending⟩ :: below)
      (hp : s.position[target]? = some i) :
      Step g s { s with
        frames := ⟨node, pending⟩ :: below
        found := s.found.push (s.path.toList.drop i) }
  /-- A finished target is passed over. -/
  | skip {s : CycleSearch} {node target : ModuleId} {pending : List ModuleId}
      {below : List Frame} (hf : s.frames = ⟨node, target :: pending⟩ :: below)
      (hu : target ∉ s.unvisited) (hp : s.position[target]? = none) :
      Step g s { s with frames := ⟨node, pending⟩ :: below }

theorem Step.of_step {g : ModuleGraph} {s t : CycleSearch} (h : step g s = some t) :
    Step g s t := by
  unfold step at h
  split at h
  · next hf =>
    split at h
    · cases h
    · next root more hr =>
      dsimp only at h
      split at h
      · next hc =>
        rw [Bool.and_eq_true] at hc
        rw [← Option.some.inj h]
        exact .enterRoot hf hr (ExtTreeSet.contains_iff_mem.1 hc.2) hc.1
      · next hc =>
        rw [← Option.some.inj h]
        refine .passRoot hf hr fun hg hu => hc ?_
        rw [hg, ExtTreeSet.contains_iff_mem.2 hu]
        rfl
  · next node below hf =>
    rw [← Option.some.inj h]
    exact .leave hf
  · next node target pending below hf =>
    dsimp only at h
    split at h
    · next hu =>
      rw [← Option.some.inj h]
      exact .descend hf (ExtTreeSet.contains_iff_mem.1 hu)
    · next hu =>
      have hu' : target ∉ s.unvisited := fun hm => hu (ExtTreeSet.contains_iff_mem.2 hm)
      split at h
      · next i hp =>
        rw [← Option.some.inj h]
        exact .close hf hp
      · next hp =>
        rw [← Option.some.inj h]
        exact .skip hf hu' hp

/-- Whatever goes from a state to the next one holds at the end of a run. -/
theorem run_of_next {g : ModuleGraph} {P : CycleSearch → Prop}
    (hNext : ∀ s t, step g s = some t → P s → P t) (s : CycleSearch) (hs : P s) :
    P (run g s) := by
  rw [run_eq]
  cases h : step g s with
  | none => exact hs
  | some t => exact run_of_next hNext t (hNext s t h hs)
termination_by (s.unvisited.size, s.waiting)
decreasing_by exact size_lt_of_step h

/-- What every step keeps holds at the end of a run. -/
theorem run_of_step {g : ModuleGraph} {P : CycleSearch → Prop}
    (hStep : ∀ s t, Step g s t → P s → P t) (s : CycleSearch) (hs : P s) : P (run g s) :=
  run_of_next (fun s t hst => hStep s t (.of_step hst)) s hs

/-- The states that the search over a graph comes to. -/
def Reached (g : ModuleGraph) (roots : List ModuleId) : CycleSearch → Prop :=
  Relation.ReflTransGen (fun s t => step g s = some t) (start g roots)

/-- The state after so many steps, or after the last one. -/
def steps (g : ModuleGraph) : Nat → CycleSearch → CycleSearch
  | 0, s => s
  | n + 1, s =>
    match step g s with
    | none => s
    | some t => steps g n t

/-- A run is worked out by making steps until there is no further one. -/
theorem run_eq_steps {g : ModuleGraph} {n : Nat} {s : CycleSearch}
    (h : (step g (steps g n s)).isNone = true) : run g s = steps g n s := by
  induction n generalizing s with
  | zero =>
      have hend : step g s = none := Option.isNone_iff_eq_none.1 h
      rw [run_eq, hend]
      rfl
  | succ n ih =>
      rw [run_eq]
      rw [steps] at h ⊢
      cases hst : step g s with
      | none => rfl
      | some t =>
          rw [hst] at h
          exact ih h

/-- A run ends with nothing open and no root left. -/
theorem frames_roots_of_run (g : ModuleGraph) (s : CycleSearch) :
    (run g s).frames = [] ∧ (run g s).roots = [] := by
  have hend := step_run g s
  unfold step at hend
  split at hend
  · next hf =>
    split at hend
    · next hr => exact ⟨hf, hr⟩
    · dsimp only at hend
      split at hend <;> cases hend
  · cases hend
  · dsimp only at hend
    split at hend
    · cases hend
    · split at hend <;> cases hend

/-! ## The layout of a state -/

/-- The open modules, the innermost first. -/
def opened (s : CycleSearch) : List ModuleId := s.frames.map (·.node)

theorem opened_of_frames {s : CycleSearch} {f : Frame} {below : List Frame}
    (hf : s.frames = f :: below) : s.opened = f.node :: below.map (·.node) := by
  rw [opened, hf, List.map_cons]

/-- Looking at a target opens nothing. -/
theorem opened_look {s : CycleSearch} {node target : ModuleId} {pending : List ModuleId}
    {below : List Frame} (hf : s.frames = ⟨node, target :: pending⟩ :: below)
    (found : Array Cycle) :
    opened { s with frames := ⟨node, pending⟩ :: below, found := found } = s.opened := by
  rw [opened_of_frames hf]
  rfl

/-- How the parts of a state belong together. -/
structure Layout (g : ModuleGraph) (s : CycleSearch) : Prop where
  path : s.path.toList = s.opened.reverse
  nodup : s.opened.Nodup
  position : ∀ (id : ModuleId) (i : Nat), s.position[id]? = some i ↔ s.opened.reverse[i]? = some id
  visited : ∀ id ∈ s.opened, id ∉ s.unvisited
  pending : ∀ f ∈ s.frames, f.pending.Nodup ∧ ∀ target ∈ f.pending, g.HasArc (f.node, target)

theorem Layout.start (g : ModuleGraph) (roots : List ModuleId) : Layout g (start g roots) where
  path := rfl
  nodup := List.nodup_nil
  position := by simp [CycleSearch.start, opened]
  visited := by simp [CycleSearch.start, opened]
  pending := by simp [CycleSearch.start]

/-- What has a position is open. -/
theorem Layout.mem_opened {g : ModuleGraph} {s : CycleSearch} (h : Layout g s) {id : ModuleId}
    {i : Nat} (hp : s.position[id]? = some i) : id ∈ s.opened :=
  List.mem_reverse.1 (List.mem_of_getElem? ((h.position id i).1 hp))

private theorem getElem?_concat_eq_some_iff {xs : List ModuleId} {last x : ModuleId} {i : Nat} :
    (xs ++ [last])[i]? = some x ↔ xs[i]? = some x ∨ (i = xs.length ∧ last = x) := by
  rw [List.getElem?_append]
  by_cases hi : i < xs.length
  · rw [if_pos hi]
    constructor
    · exact Or.inl
    · rintro (h | ⟨h, -⟩)
      · exact h
      · omega
  · have hnone : xs[i]? = none := List.getElem?_eq_none (Nat.le_of_not_lt hi)
    rw [if_neg hi, List.getElem?_singleton, hnone]
    by_cases hz : i = xs.length
    · simp [hz]
    · simp [hz, show i - xs.length ≠ 0 by omega]

/-- Entering an unvisited module keeps the layout. -/
theorem Layout.enter {g : ModuleGraph} {s : CycleSearch} (h : Layout g s) {id : ModuleId}
    (hu : id ∈ s.unvisited) : Layout g (enter g id s) := by
  have hnew : id ∉ s.opened := fun ho => h.visited id ho hu
  have hsize : s.path.size = s.opened.reverse.length := by
    rw [← h.path, Array.length_toList]
  refine
    { path := ?_
      nodup := List.nodup_cons.2 ⟨hnew, h.nodup⟩
      position := ?_
      visited := ?_
      pending := ?_ }
  · simp [CycleSearch.enter, opened, h.path]
  · intro x i
    have hrev : (CycleSearch.enter g id s).opened.reverse = s.opened.reverse ++ [id] := by
      simp [CycleSearch.enter, opened]
    rw [hrev, getElem?_concat_eq_some_iff, CycleSearch.enter]
    dsimp only
    rw [Tables.getElem?_insert, hsize]
    by_cases hx : id = x
    · subst hx
      have hnone : s.opened.reverse[i]? ≠ some id := fun hi =>
        hnew (List.mem_reverse.1 (List.mem_of_getElem? hi))
      rw [if_pos rfl, Option.some.injEq]
      constructor
      · intro hi
        exact Or.inr ⟨hi.symm, rfl⟩
      · rintro (hi | ⟨hi, -⟩)
        · exact absurd hi hnone
        · exact hi.symm
    · rw [if_neg hx, h.position]
      constructor
      · exact Or.inl
      · rintro (hi | ⟨-, hid⟩)
        · exact hi
        · exact absurd hid hx
  · intro x hx hmem
    rw [CycleSearch.enter, ExtTreeSet.mem_erase] at hmem
    rcases List.mem_cons.1 hx with rfl | hx
    · exact hmem.1 Std.ReflCmp.compare_self
    · exact h.visited x hx hmem.2
  · intro f hf
    rcases List.mem_cons.1 hf with rfl | hf
    · exact ⟨ExtTreeMap.nodup_keys, fun target => ModuleGraph.mem_keys_neighbors.1⟩
    · exact h.pending f hf

/-- Having looked at the first pending target keeps the layout. -/
theorem Layout.look {g : ModuleGraph} {s : CycleSearch} (h : Layout g s)
    {node target : ModuleId} {pending : List ModuleId} {below : List Frame}
    (hf : s.frames = ⟨node, target :: pending⟩ :: below) (found : Array Cycle) :
    Layout g { s with frames := ⟨node, pending⟩ :: below, found := found } := by
  have hopen := opened_look hf found
  refine
    { path := by rw [hopen]; exact h.path
      nodup := by rw [hopen]; exact h.nodup
      position := by rw [hopen]; exact h.position
      visited := by rw [hopen]; exact h.visited
      pending := ?_ }
  intro f hmem
  rcases List.mem_cons.1 hmem with rfl | hmem
  · have hold := h.pending ⟨node, target :: pending⟩ (hf ▸ List.mem_cons_self)
    exact ⟨(List.nodup_cons.1 hold.1).2, fun x hx => hold.2 x (List.mem_cons_of_mem target hx)⟩
  · exact h.pending f (hf ▸ List.mem_cons_of_mem _ hmem)

/-- Finishing the end of the path keeps the layout. -/
theorem Layout.leave {g : ModuleGraph} {s : CycleSearch} (h : Layout g s) {node : ModuleId}
    {below : List Frame} (hf : s.frames = ⟨node, []⟩ :: below) :
    Layout g (leave node below s) := by
  have hopen : s.opened = node :: below.map (·.node) := opened_of_frames hf
  have hnodup := h.nodup
  rw [hopen, List.nodup_cons] at hnodup
  refine
    { path := ?_
      nodup := hnodup.2
      position := ?_
      visited := fun x hx => h.visited x (hopen ▸ List.mem_cons_of_mem node hx)
      pending := fun f hmem => h.pending f (hf ▸ List.mem_cons_of_mem _ hmem) }
  · have hpath := h.path
    rw [hopen, List.reverse_cons] at hpath
    simp [CycleSearch.leave, opened, hpath]
  · intro x i
    have hpos := h.position x i
    rw [hopen, List.reverse_cons, getElem?_concat_eq_some_iff] at hpos
    rw [CycleSearch.leave, opened]
    dsimp only
    rw [Tables.getElem?_erase]
    by_cases hx : node = x
    · subst hx
      rw [if_pos rfl]
      constructor
      · intro hnone
        cases hnone
      · intro hi
        exact absurd (List.mem_reverse.1 (List.mem_of_getElem? hi)) hnodup.1
    · rw [if_neg hx, hpos]
      constructor
      · rintro (hi | ⟨-, hid⟩)
        · exact hi
        · exact absurd hid hx
      · exact Or.inl

theorem Layout.step {g : ModuleGraph} {s t : CycleSearch} (hst : Step g s t)
    (h : Layout g s) : Layout g t := by
  cases hst with
  | passRoot hf hr hu => exact { h with }
  | @enterRoot root more hf hr hu _ =>
      have hrest : Layout g { s with roots := more } := { h with }
      exact hrest.enter hu
  | leave hf => exact h.leave hf
  | descend hf hu => exact (h.look hf s.found).enter hu
  | close hf hp => exact h.look hf _
  | skip hf hu hp => exact h.look hf s.found

theorem Layout.run {g : ModuleGraph} {s : CycleSearch} (h : Layout g s) : Layout g (run g s) :=
  run_of_step (fun _ _ => Layout.step) s h

/-- In a state whose parts fit together, what a step can do is what it does. -/
theorem Layout.step_eq {g : ModuleGraph} {s t : CycleSearch} (h : Layout g s) (hst : Step g s t) :
    CycleSearch.step g s = some t := by
  cases hst with
  | @passRoot root more hf hr hu =>
      have hpass : ¬ (g.contains root && s.unvisited.contains root) = true := by
        rw [Bool.and_eq_true, ExtTreeSet.contains_iff_mem]
        exact fun ⟨hc, hm⟩ => hu hc hm
      simp only [CycleSearch.step, hf, hr, if_neg hpass]
  | enterRoot hf hr hu hg =>
      simp [CycleSearch.step, hf, hr, hg, hu]
  | leave hf => simp only [CycleSearch.step, hf]
  | descend hf hu => simp [CycleSearch.step, hf, hu]
  | @close node target pending below i hf hp =>
      simp [CycleSearch.step, hf, h.visited target (h.mem_opened hp), hp]
  | skip hf hu hp => simp [CycleSearch.step, hf, hu, hp]

/-! ## No module is forgotten -/

/-- The modules that are still unvisited are among the roots that are left. -/
def Covered (g : ModuleGraph) (s : CycleSearch) : Prop :=
  ∀ id ∈ s.unvisited, g.contains id = true → id ∈ s.roots

theorem Covered.start (g : ModuleGraph) (roots : List ModuleId) : Covered g (start g roots) := by
  intro id _ hg
  have hid : id ∈ g.ids := ExtTreeMap.mem_keys.2 (ExtTreeMap.contains_iff_mem.1 hg)
  exact List.mem_append_right roots hid

theorem Covered.step {g : ModuleGraph} {s t : CycleSearch} (hst : Step g s t)
    (h : Covered g s) : Covered g t := by
  intro id hid hg
  cases hst with
  | passRoot hf hr hu =>
      have hmem := h id hid hg
      rw [hr] at hmem
      rcases List.mem_cons.1 hmem with rfl | hmem
      · exact absurd hid (hu hg)
      · exact hmem
  | enterRoot hf hr hu =>
      obtain ⟨hne, hid⟩ := ExtTreeSet.mem_erase.1 hid
      have hmem := h id hid hg
      rw [hr] at hmem
      rcases List.mem_cons.1 hmem with rfl | hmem
      · exact absurd Std.ReflCmp.compare_self hne
      · exact hmem
  | leave hf => exact h id hid hg
  | descend hf hu => exact h id (ExtTreeSet.mem_of_mem_erase hid) hg
  | close hf hp => exact h id hid hg
  | skip hf hu hp => exact h id hid hg

/-- Every module of the graph was visited when the search ends. -/
theorem visited_of_run {g : ModuleGraph} {roots : List ModuleId} {id : ModuleId}
    (hg : g.contains id = true) : id ∉ (run g (start g roots)).unvisited := by
  intro hid
  have hcov : Covered g (run g (start g roots)) :=
    run_of_step (fun _ _ => Covered.step) _ (Covered.start g roots)
  have hmem := hcov id hid hg
  rw [(frames_roots_of_run g _).2] at hmem
  exact List.not_mem_nil hmem

end CycleSearch

end LayerLint
