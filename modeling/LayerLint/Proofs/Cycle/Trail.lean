import Mathlib.Data.List.Chain
import LayerLint.Proofs.Cycle.Search

/-!
# What the search for cycles has found out

An arc is *awaited* until the search looks at it, and *seen* from then on.  A
seen arc either closed a cycle or was *walked*: it led to a module that was
entered then, or that was finished already.

`Trail` is the invariant.  The links of the path and of every cycle found are
walked arcs, so a closing arc is a link of no cycle and tells its own cycle
from all others.  From a finished module, going along arcs that closed no
cycle comes to an end; this is what makes the graph acyclic once the closing
arcs are cut.

## Main results

* `Trail.step`: every step keeps the trail.
* `trail_of_run`: the trail holds when the search ends.
* `wellFounded_of_run`: then no walk over uncut arcs goes on for ever.
-/

namespace LayerLint

open Std (ExtTreeMap ExtTreeSet)

namespace CycleSearch

/-! ## Seen and walked arcs -/

/-- The search has still to look at the arc. -/
def Awaits (s : CycleSearch) (a : Arc) : Prop :=
  a.1 ∈ s.unvisited ∨ ∃ f ∈ s.frames, f.node = a.1 ∧ a.2 ∈ f.pending

/-- The arcs that closed the cycles found, in the order of the cycles. -/
def closings (s : CycleSearch) : List Arc := s.found.toList.filterMap Cycle.closing?

/-- The search has looked at the arc. -/
def Seen (g : ModuleGraph) (s : CycleSearch) (a : Arc) : Prop := g.HasArc a ∧ ¬ Awaits s a

/-- The search has looked at the arc, and it closed no cycle. -/
def Walked (g : ModuleGraph) (s : CycleSearch) (a : Arc) : Prop := Seen g s a ∧ a ∉ s.closings

/-- The module was visited and is open no more. -/
def Finished (s : CycleSearch) (id : ModuleId) : Prop := id ∉ s.unvisited ∧ id ∉ s.opened

/-- One module leads to another by an arc that closed no cycle. -/
def Uncut (g : ModuleGraph) (s : CycleSearch) (target source : ModuleId) : Prop :=
  g.HasArc (source, target) ∧ (source, target) ∉ s.closings

section Entering

variable {g : ModuleGraph} {s : CycleSearch} {id : ModuleId}

theorem awaits_enter_iff (hu : id ∈ s.unvisited) {a : Arc} (harc : g.HasArc a) :
    Awaits (enter g id s) a ↔ Awaits s a := by
  unfold Awaits enter
  simp only [ExtTreeSet.mem_erase, List.mem_cons, exists_eq_or_imp]
  constructor
  · rintro (⟨-, ha⟩ | ⟨rfl, -⟩ | hf)
    · exact Or.inl ha
    · exact Or.inl hu
    · exact Or.inr hf
  · rintro (ha | hf)
    · by_cases hid : id = a.1
      · exact Or.inr (Or.inl ⟨hid, hid ▸ ModuleGraph.mem_keys_neighbors.2 harc⟩)
      · exact Or.inl ⟨by simpa using hid, ha⟩
    · exact Or.inr (Or.inr hf)

theorem seen_enter_iff (hu : id ∈ s.unvisited) {a : Arc} :
    Seen g (enter g id s) a ↔ Seen g s a :=
  and_congr_right fun harc => not_congr (awaits_enter_iff hu harc)

theorem walked_enter_iff (hu : id ∈ s.unvisited) {a : Arc} :
    Walked g (enter g id s) a ↔ Walked g s a :=
  and_congr_left fun _ => seen_enter_iff hu

theorem finished_enter_iff (hu : id ∈ s.unvisited) {x : ModuleId} :
    Finished (enter g id s) x ↔ Finished s x := by
  unfold Finished enter opened
  simp only [ExtTreeSet.mem_erase, List.map_cons, List.mem_cons, not_or]
  by_cases hx : x = id
  · subst hx
    simp [hu]
  · simp [hx, Ne.symm hx]

end Entering

section Looking

variable {g : ModuleGraph} {s : CycleSearch} {node target : ModuleId} {pending : List ModuleId}
  {below : List Frame}

theorem awaits_of_pending (hf : s.frames = ⟨node, target :: pending⟩ :: below) :
    Awaits s (node, target) :=
  Or.inr ⟨_, hf ▸ List.mem_cons_self, rfl, List.mem_cons_self⟩

theorem awaits_look_iff (h : Layout g s) (hf : s.frames = ⟨node, target :: pending⟩ :: below)
    (found : Array Cycle) {a : Arc} :
    Awaits { s with frames := ⟨node, pending⟩ :: below, found := found } a ↔
      Awaits s a ∧ a ≠ (node, target) := by
  have hframe := (h.pending ⟨node, target :: pending⟩ (hf ▸ List.mem_cons_self)).1
  have hopen : s.opened = node :: below.map (·.node) := opened_of_frames hf
  have hnodup := h.nodup
  rw [hopen, List.nodup_cons] at hnodup
  unfold Awaits
  rw [hf]
  constructor
  · rintro (ha | ⟨f, hmem, hnode, htarget⟩)
    · refine ⟨Or.inl ha, ?_⟩
      rintro rfl
      exact h.visited node (hopen ▸ List.mem_cons_self) ha
    · rcases List.mem_cons.1 hmem with rfl | hmem
      · refine ⟨Or.inr ⟨_, List.mem_cons_self, hnode, List.mem_cons_of_mem target htarget⟩, ?_⟩
        rintro rfl
        exact (List.nodup_cons.1 hframe).1 htarget
      · refine ⟨Or.inr ⟨f, List.mem_cons_of_mem _ hmem, hnode, htarget⟩, ?_⟩
        rintro rfl
        exact hnodup.1 (List.mem_map.2 ⟨f, hmem, hnode⟩)
  · rintro ⟨ha | ⟨f, hmem, hnode, htarget⟩, hne⟩
    · exact Or.inl ha
    · rcases List.mem_cons.1 hmem with rfl | hmem
      · refine Or.inr ⟨_, List.mem_cons_self, hnode, ?_⟩
        refine (List.mem_cons.1 htarget).resolve_left fun heq => hne ?_
        exact Prod.ext hnode.symm heq
      · exact Or.inr ⟨f, List.mem_cons_of_mem _ hmem, hnode, htarget⟩

theorem seen_look_iff (h : Layout g s) (hf : s.frames = ⟨node, target :: pending⟩ :: below)
    (found : Array Cycle) {a : Arc} :
    Seen g { s with frames := ⟨node, pending⟩ :: below, found := found } a ↔
      Seen g s a ∨ a = (node, target) := by
  have harc : g.HasArc (node, target) :=
    (h.pending _ (hf ▸ List.mem_cons_self)).2 target List.mem_cons_self
  unfold Seen
  rw [awaits_look_iff h hf found]
  by_cases ha : a = (node, target)
  · simp [ha, harc]
  · simp [ha]

end Looking

theorem awaits_leave_iff {s : CycleSearch} {node : ModuleId} {below : List Frame}
    (hf : s.frames = ⟨node, []⟩ :: below) {a : Arc} :
    Awaits (leave node below s) a ↔ Awaits s a := by
  unfold Awaits leave
  simp [hf]

theorem seen_leave_iff {g : ModuleGraph} {s : CycleSearch} {node : ModuleId} {below : List Frame}
    (hf : s.frames = ⟨node, []⟩ :: below) {a : Arc} :
    Seen g (leave node below s) a ↔ Seen g s a :=
  and_congr_right fun _ => not_congr (awaits_leave_iff hf)

/-! ## The trail -/

/-- A cycle of distinct modules, linked by walked arcs and closed by a seen one. -/
structure Traced (g : ModuleGraph) (s : CycleSearch) (c : Cycle) : Prop where
  nodup : c.Nodup
  links : c.IsChain fun x y => Walked g s (x, y)
  closed : ∃ back, Cycle.closing? c = some back ∧ Seen g s back

theorem Traced.mono {g : ModuleGraph} {s t : CycleSearch} {c : Cycle}
    (hSeen : ∀ a, Seen g s a → Seen g t a) (hWalked : ∀ a, Walked g s a → Walked g t a)
    (h : Traced g s c) : Traced g t c := by
  obtain ⟨back, hBack, hs⟩ := h.closed
  exact ⟨h.nodup, h.links.imp fun _ _ => hWalked _, back, hBack, hSeen back hs⟩

/-- What the search has found out about the arcs it has seen. -/
structure Trail (g : ModuleGraph) (s : CycleSearch) : Prop where
  links : s.opened.IsChain fun inner outer => Walked g s (outer, inner)
  found : ∀ c ∈ s.found.toList, Traced g s c
  closings : s.closings.Nodup
  /-- A walked arc leads to a finished module or one step further on the path. -/
  explored : ∀ a : Arc, a.1 ∈ s.opened → Walked g s a →
    Finished s a.2 ∨ [a.2, a.1] <:+: s.opened
  settled : ∀ id, Finished s id → Acc (Uncut g s) id

theorem Trail.seen_of_mem_closings {g : ModuleGraph} {s : CycleSearch} (h : Trail g s) {a : Arc}
    (ha : a ∈ s.closings) : Seen g s a := by
  obtain ⟨c, hc, hBack⟩ := List.mem_filterMap.1 ha
  obtain ⟨back, hBack', hSeen⟩ := (h.found c hc).closed
  rw [Option.some.inj (hBack.symm.trans hBack')]
  exact hSeen

theorem Trail.start (g : ModuleGraph) (roots : List ModuleId) : Trail g (start g roots) where
  links := List.isChain_nil
  found := by simp [CycleSearch.start]
  closings := List.nodup_nil
  explored := by simp [CycleSearch.start, opened]
  settled := by
    -- What is finished from the start is a node of no edge's source.
    intro id hid
    refine Acc.intro id fun target htarget => absurd ?_ hid.1
    exact ModuleGraph.mem_mentioned_iff.2 (Or.inl (ModuleGraph.contains_of_hasArc htarget.1))

/-- The trail does not depend on the roots that are left. -/
theorem Trail.setRoots {g : ModuleGraph} {s : CycleSearch} (h : Trail g s)
    (roots : List ModuleId) : Trail g { s with roots := roots } where
  links := h.links
  found := by
    intro c hc
    have hSeen : ∀ a, Seen g s a → Seen g { s with roots := roots } a := fun _ hs => hs
    have hWalked : ∀ a, Walked g s a → Walked g { s with roots := roots } a := fun _ hw => hw
    exact (h.found c hc).mono hSeen hWalked
  closings := h.closings
  explored := h.explored
  settled := h.settled

/-- Entering a module keeps the trail, when the arc that leads there is walked. -/
theorem Trail.enter {g : ModuleGraph} {s : CycleSearch} {id : ModuleId}
    (hu : id ∈ s.unvisited)
    (hLinks : (id :: s.opened).IsChain fun inner outer => Walked g s (outer, inner))
    (hFound : ∀ c ∈ s.found.toList, Traced g s c) (hClosings : s.closings.Nodup)
    (hExplored : ∀ a : Arc, a.1 ∈ s.opened → Walked g s a →
      Finished s a.2 ∨ [a.2, a.1] <:+: id :: s.opened)
    (hSettled : ∀ id, Finished s id → Acc (Uncut g s) id) : Trail g (enter g id s) where
  links := hLinks.imp fun _ _ => (walked_enter_iff hu).2
  found := fun c hc =>
    (hFound c hc).mono (fun _ => (seen_enter_iff hu).2) (fun _ => (walked_enter_iff hu).2)
  closings := hClosings
  explored := by
    intro a ha hw
    rw [walked_enter_iff hu] at hw
    rw [finished_enter_iff hu]
    rcases List.mem_cons.1 ha with ha | ha
    · -- All arcs of the module itself are awaited.
      exact absurd (Or.inl (ha ▸ hu)) hw.1.2
    · exact hExplored a ha hw
  settled := fun x hx => hSettled x ((finished_enter_iff hu).1 hx)

/-- Looking at an arc that closes no cycle adds it to the walked ones. -/
theorem Trail.walked_look_iff {g : ModuleGraph} {s : CycleSearch} (h : Trail g s)
    (hl : Layout g s) {node target : ModuleId} {pending : List ModuleId} {below : List Frame}
    (hf : s.frames = ⟨node, target :: pending⟩ :: below) {a : Arc} :
    Walked g { s with frames := ⟨node, pending⟩ :: below } a ↔
      Walked g s a ∨ a = (node, target) := by
  have hnew : (node, target) ∉ s.closings := fun hmem =>
    (h.seen_of_mem_closings hmem).2 (awaits_of_pending hf)
  unfold Walked
  rw [seen_look_iff hl hf s.found]
  constructor
  · rintro ⟨hs | heq, hc⟩
    · exact Or.inl ⟨hs, hc⟩
    · exact Or.inr heq
  · rintro (⟨hs, hc⟩ | rfl)
    · exact ⟨Or.inl hs, hc⟩
    · exact ⟨Or.inr rfl, hnew⟩

/-- Looking at an arc that closes no cycle leaves the cycles found traced. -/
theorem Trail.traced_look {g : ModuleGraph} {s : CycleSearch} (h : Trail g s)
    (hl : Layout g s) {node target : ModuleId} {pending : List ModuleId} {below : List Frame}
    (hf : s.frames = ⟨node, target :: pending⟩ :: below) :
    ∀ c ∈ s.found.toList, Traced g { s with frames := ⟨node, pending⟩ :: below } c := by
  intro c hc
  refine (h.found c hc).mono ?_ ?_
  · intro a hs
    exact (seen_look_iff hl hf s.found).2 (Or.inl hs)
  · intro a hw
    exact (h.walked_look_iff hl hf).2 (Or.inl hw)

theorem Trail.descend {g : ModuleGraph} {s : CycleSearch} (h : Trail g s) (hl : Layout g s)
    {node target : ModuleId} {pending : List ModuleId} {below : List Frame}
    (hf : s.frames = ⟨node, target :: pending⟩ :: below) (hu : target ∈ s.unvisited) :
    Trail g (CycleSearch.enter g target { s with frames := ⟨node, pending⟩ :: below }) := by
  have hopen : opened { s with frames := ⟨node, pending⟩ :: below } = s.opened :=
    opened_look hf s.found
  have htop : s.opened = node :: below.map (·.node) := opened_of_frames hf
  have hwalked := fun a => h.walked_look_iff hl hf (a := a)
  refine Trail.enter hu ?_ (h.traced_look hl hf) h.closings ?_ ?_
  · rw [hopen, htop, List.isChain_cons_cons, ← htop]
    exact ⟨(hwalked _).2 (Or.inr rfl), h.links.imp fun _ _ hw => (hwalked _).2 (Or.inl hw)⟩
  · intro a ha hw
    rw [hopen] at ha ⊢
    rcases (hwalked a).1 hw with hw | rfl
    · rcases h.explored a ha hw with hfin | hlink
      · exact Or.inl ⟨hfin.1, hopen ▸ hfin.2⟩
      · exact Or.inr (List.infix_cons hlink)
    · rw [htop]
      exact Or.inr ⟨[], below.map (·.node), rfl⟩
  · intro id hid
    exact h.settled id ⟨hid.1, hopen ▸ hid.2⟩

theorem Trail.skip {g : ModuleGraph} {s : CycleSearch} (h : Trail g s) (hl : Layout g s)
    {node target : ModuleId} {pending : List ModuleId} {below : List Frame}
    (hf : s.frames = ⟨node, target :: pending⟩ :: below) (hfin : Finished s target) :
    Trail g { s with frames := ⟨node, pending⟩ :: below } := by
  have hopen : opened { s with frames := ⟨node, pending⟩ :: below } = s.opened :=
    opened_look hf s.found
  have hwalked := fun a => h.walked_look_iff hl hf (a := a)
  refine
    { links := ?_
      found := h.traced_look hl hf
      closings := h.closings
      explored := ?_
      settled := fun id hid => h.settled id ⟨hid.1, hopen ▸ hid.2⟩ }
  · rw [hopen]
    exact h.links.imp fun _ _ hw => (hwalked _).2 (Or.inl hw)
  · intro a ha hw
    rw [Finished, hopen]
    rcases (hwalked a).1 hw with hw | rfl
    · exact h.explored a (hopen ▸ ha) hw
    · exact Or.inl hfin

/-- A walk from an open module onwards to the end of the path is closed by the arc back.
-/
private theorem closing?_drop {path : List ModuleId} {node target : ModuleId} {i : Nat}
    (hLast : path.getLast? = some node) (hi : path[i]? = some target) :
    Cycle.closing? (path.drop i) = some (node, target) := by
  obtain ⟨hlt, hget⟩ := List.getElem?_eq_some_iff.1 hi
  have hend := List.getLast?_drop (i := i) (l := path)
  rw [if_neg (Nat.not_le_of_lt hlt), hLast, List.drop_eq_getElem_cons hlt, hget,
    List.getLast?_cons] at hend
  rw [List.drop_eq_getElem_cons hlt, hget, Cycle.closing?, List.getLastD_eq_getLast?,
    Option.some.inj hend]

theorem Trail.close {g : ModuleGraph} {s : CycleSearch} (h : Trail g s) (hl : Layout g s)
    {node target : ModuleId} {pending : List ModuleId} {below : List Frame} {i : Nat}
    (hf : s.frames = ⟨node, target :: pending⟩ :: below) (hp : s.position[target]? = some i) :
    Trail g { s with
      frames := ⟨node, pending⟩ :: below
      found := s.found.push (s.path.toList.drop i) } := by
  have htop : s.opened = node :: below.map (·.node) := opened_of_frames hf
  have hBack : Cycle.closing? (s.path.toList.drop i) = some (node, target) := by
    rw [hl.path]
    refine closing?_drop ?_ ((hl.position target i).1 hp)
    rw [List.getLast?_reverse, htop, List.head?_cons]
  generalize ht : ({ s with
    frames := ⟨node, pending⟩ :: below
    found := s.found.push (s.path.toList.drop i) } : CycleSearch) = t
  have hopen : t.opened = s.opened := by
    rw [← ht]
    exact opened_look hf _
  have hclosings : t.closings = s.closings ++ [(node, target)] := by
    simp [← ht, CycleSearch.closings, hBack]
  have hseen : ∀ a, Seen g t a ↔ Seen g s a ∨ a = (node, target) := by
    intro a
    rw [← ht]
    exact seen_look_iff hl hf _
  have hwaits : ∀ a, Seen g s a → a ≠ (node, target) := by
    rintro a hs rfl
    exact hs.2 (awaits_of_pending hf)
  -- The arc is cut as soon as it is seen, so nothing is walked that was not before.
  have hwalked : ∀ a, Walked g t a ↔ Walked g s a := by
    intro a
    rw [Walked, hseen, hclosings, List.mem_append, List.mem_singleton, not_or]
    constructor
    · rintro ⟨hs | heq, hc, hne⟩
      · exact ⟨hs, hc⟩
      · exact absurd heq hne
    · rintro ⟨hs, hc⟩
      exact ⟨Or.inl hs, hc, hwaits a hs⟩
  have hfinished : ∀ id, Finished t id ↔ Finished s id := by
    intro id
    rw [Finished, hopen, ← ht]
    rfl
  refine
    { links := ?_
      found := ?_
      closings := ?_
      explored := ?_
      settled := ?_ }
  · rw [hopen]
    exact h.links.imp fun _ _ => (hwalked _).2
  · intro c hc
    rw [← ht, Array.toList_push, List.mem_append, List.mem_singleton] at hc
    rcases hc with hc | rfl
    · exact (h.found c hc).mono (fun a hs => (hseen a).2 (Or.inl hs)) (fun a => (hwalked a).2)
    · refine ⟨?_, ?_, (node, target), hBack, (hseen _).2 (Or.inr rfl)⟩
      · rw [hl.path]
        exact (List.nodup_reverse.2 hl.nodup).sublist (List.drop_sublist i _)
      · rw [hl.path]
        exact (List.isChain_reverse.2 (h.links.imp fun _ _ => (hwalked _).2)).drop i
  · rw [hclosings, List.nodup_append]
    refine ⟨h.closings, List.nodup_singleton _, ?_⟩
    intro a ha b hb
    rw [List.mem_singleton.1 hb]
    exact hwaits a (h.seen_of_mem_closings ha)
  · intro a ha hw
    rw [hfinished, hopen]
    exact h.explored a (hopen ▸ ha) ((hwalked a).1 hw)
  · intro id hid
    refine Subrelation.accessible ?_ (h.settled id ((hfinished id).1 hid))
    rintro target source ⟨harc, hcut⟩
    rw [hclosings, List.mem_append, not_or] at hcut
    exact ⟨harc, hcut.1⟩

theorem Trail.leave {g : ModuleGraph} {s : CycleSearch} (h : Trail g s) (hl : Layout g s)
    {node : ModuleId} {below : List Frame} (hf : s.frames = ⟨node, []⟩ :: below) :
    Trail g (leave node below s) := by
  have htop : s.opened = node :: below.map (·.node) := opened_of_frames hf
  have hnodup := hl.nodup
  rw [htop, List.nodup_cons] at hnodup
  have hvisited : node ∉ s.unvisited := hl.visited node (htop ▸ List.mem_cons_self)
  have hwalked : ∀ a, Walked g (CycleSearch.leave node below s) a ↔ Walked g s a :=
    fun a => and_congr_left fun _ => seen_leave_iff hf
  -- Nothing is awaited from the module any more: every arc was cut, or leads to a finished one.
  have hsettled : Acc (Uncut g s) node := by
    refine Acc.intro node fun target htarget => ?_
    have hseen : ¬ Awaits s (node, target) := by
      rintro (hu | ⟨f, hmem, hnode, hpending⟩)
      · exact hvisited hu
      · rw [hf] at hmem
        rcases List.mem_cons.1 hmem with rfl | hmem
        · exact List.not_mem_nil hpending
        · exact hnodup.1 (List.mem_map.2 ⟨f, hmem, hnode⟩)
    have hopen : node ∈ s.opened := htop ▸ List.mem_cons_self
    rcases h.explored (node, target) hopen ⟨⟨htarget.1, hseen⟩, htarget.2⟩ with hfin | hlink
    · exact h.settled target hfin
    · rw [htop, List.infix_cons_iff] at hlink
      rcases hlink with hlink | hlink
      · have hmem := (List.cons_prefix_cons.1 hlink).2.subset (List.mem_singleton_self node)
        exact absurd hmem hnodup.1
      · have hmem := hlink.subset (List.mem_cons_of_mem target (List.mem_singleton_self node))
        exact absurd hmem hnodup.1
  refine
    { links := ?_
      found := ?_
      closings := h.closings
      explored := ?_
      settled := ?_ }
  · have hlinks := h.links
    rw [htop] at hlinks
    exact hlinks.tail.imp fun _ _ => (hwalked _).2
  · intro c hc
    exact (h.found c hc).mono (fun _ => (seen_leave_iff hf).2) (fun a => (hwalked a).2)
  · intro a ha hw
    have hmem : a.1 ∈ s.opened := htop ▸ List.mem_cons_of_mem node ha
    rcases h.explored a hmem ((hwalked a).1 hw) with hfin | hlink
    · exact Or.inl ⟨hfin.1, fun ho => hfin.2 (htop ▸ List.mem_cons_of_mem node ho)⟩
    · rw [htop, List.infix_cons_iff] at hlink
      rcases hlink with hlink | hlink
      · rw [(List.cons_prefix_cons.1 hlink).1]
        exact Or.inl ⟨hvisited, hnodup.1⟩
      · exact Or.inr hlink
  · intro id hid
    by_cases hnode : id = node
    · rw [hnode]
      exact hsettled
    · refine h.settled id ⟨hid.1, fun ho => ?_⟩
      rw [htop] at ho
      exact hid.2 ((List.mem_cons.1 ho).resolve_left hnode)

/-- Every step keeps the trail. -/
theorem Trail.step {g : ModuleGraph} {s t : CycleSearch} (hst : Step g s t) (hl : Layout g s)
    (h : Trail g s) : Trail g t := by
  cases hst with
  | passRoot hf hr hu => exact h.setRoots _
  | @enterRoot root more hf hr hu =>
      have hopen : s.opened = [] := by
        rw [opened, hf]
        rfl
      have hrest : opened { s with roots := more } = [] := hopen
      have hr := h.setRoots more
      refine Trail.enter hu ?_ hr.found hr.closings ?_ hr.settled
      · rw [hrest]
        exact List.isChain_singleton root
      · intro a ha
        exact absurd (hopen ▸ ha) List.not_mem_nil
  | leave hf => exact h.leave hl hf
  | descend hf hu => exact h.descend hl hf hu
  | close hf hp => exact h.close hl hf hp
  | skip hf hu hp =>
      refine h.skip hl hf ⟨hu, fun ho => ?_⟩
      obtain ⟨i, hi⟩ := List.mem_iff_getElem?.1 (List.mem_reverse.2 ho)
      rw [(hl.position _ i).2 hi] at hp
      cases hp

/-! ## When the search ends -/

theorem trail_of_run (g : ModuleGraph) (roots : List ModuleId) :
    Trail g (run g (start g roots)) := by
  have hstep : ∀ s t, Step g s t → Layout g s ∧ Trail g s → Layout g t ∧ Trail g t :=
    fun _ _ hst h => ⟨h.1.step hst, h.2.step hst h.1⟩
  exact (run_of_step hstep (start g roots) ⟨Layout.start g roots, Trail.start g roots⟩).2

/-- Once the search is over, going along uncut arcs comes to an end from everywhere. -/
theorem wellFounded_of_run (g : ModuleGraph) (roots : List ModuleId) :
    WellFounded (Uncut g (run g (start g roots))) := by
  refine ⟨fun id => Acc.intro id fun target htarget => ?_⟩
  -- A module with an arc is a node of the graph, so it was visited and left.
  have hfin : Finished (run g (start g roots)) id := by
    refine ⟨visited_of_run (ModuleGraph.contains_of_hasArc htarget.1), ?_⟩
    rw [opened, (frames_roots_of_run g _).1]
    exact List.not_mem_nil
  exact ((trail_of_run g roots).settled id hfin).inv htarget

end CycleSearch

end LayerLint
