import LayerLint.Proofs.Cycle.Reports

/-!
# Searching a graph without some of its arcs

Cutting arcs out of a graph changes the search for its cycles in two ways.  A
cut arc that only leads back, or to a finished module, is not looked at any
more, and a cycle that it closed is not found; all else goes on as before.  A
cut arc that the search would have entered a module by makes it enter that
module later and from elsewhere, and then other arcs may lead back.

So as long as no arc is cut that the search enters a module by, the search of
the cut graph goes along with that of the graph, and what it finds is among
what is found there.

## Main results

* `IsSimpleCycle.of_cut`: a cycle of the cut graph is one of the graph.
* `CycleSearch.thinned_run`: the search of the cut graph goes along.
* `mem_findCycles_of_cut`: then it finds nothing new.
-/

namespace LayerLint

open Std (ExtTreeMap ExtTreeSet)

namespace ModuleGraph

variable {g : ModuleGraph} {removed : List Arc} {c : Cycle} {source target id : ModuleId}

/-! ## What a cut leaves as it is -/

@[simp] theorem ids_cut : (g.cut removed).ids = g.ids := ExtTreeMap.keys_map

@[simp] theorem contains_cut : (g.cut removed).contains id = g.contains id := by
  simp [contains, cut]

@[simp] theorem module?_cut : (g.cut removed).module? id = g.module? id := by
  rw [module?, module?, cut, ExtTreeMap.getElem?_map, Option.map_map]
  rfl

@[simp] theorem layerOf_cut : (g.cut removed).layerOf = g.layerOf := by
  funext id
  rw [layerOf, layerOf, module?_cut]

theorem edge?_cut :
    (g.cut removed).edge? source target =
      if (source, target) ∈ removed then none else g.edge? source target := by
  rw [edge?_eq, edge?_eq, cut, ExtTreeMap.getElem?_map]
  cases g.nodes[source]? with
  | none => simp
  | some n =>
      rw [Option.map_some, Option.bind_some, Option.bind_some, ExtTreeMap.getElem?_filter']
      cases n.outgoing[target]? <;> simp [Option.filter]

theorem edge?_of_cut {e : Edge} (h : (g.cut removed).edge? source target = some e) :
    g.edge? source target = some e := by
  rw [edge?_cut] at h
  split at h
  · cases h
  · exact h

theorem mem_edges_of_cut {e : Edge} (h : e ∈ (g.cut removed).edges) : e ∈ g.edges := by
  obtain ⟨source, target, he⟩ := mem_edges_iff.1 h
  exact mem_edges_iff.2 ⟨source, target, edge?_of_cut he⟩

theorem keys_neighbors_cut :
    ((g.cut removed).neighbors id).keys =
      (g.neighbors id).keys.filter fun target => !removed.contains (id, target) := by
  rw [neighbors, neighbors, cut, ExtTreeMap.getElem?_map]
  cases g.nodes[id]? with
  | none =>
      have hnone : (∅ : EdgeMap).keys = [] := ExtTreeMap.keys_eq_nil_iff.2 rfl
      simp [hnone]
  | some n => simpa using ExtTreeMap.keys_filter_key

/-- A cycle of the cut graph is one of the graph that goes along no cut arc. -/
theorem IsSimpleCycle.of_cut (h : (g.cut removed).IsSimpleCycle c) :
    g.IsSimpleCycle c ∧ ∀ a ∈ c.arcs, a ∉ removed :=
  ⟨⟨⟨h.ne_nil, fun a ha => (hasArc_cut_iff.1 (h.hasArc a ha)).1⟩, h.nodup⟩,
    fun a ha => (hasArc_cut_iff.1 (h.hasArc a ha)).2⟩

/-- A cycle of the cut graph is reported as it is reported of the graph. -/
theorem IsClosedWalk.violation?_cut (h : (g.cut removed).IsClosedWalk c) (severity : Severity) :
    Cycle.violation? (g.cut removed) severity c = Cycle.violation? g severity c := by
  cases c with
  | nil => exact absurd rfl h.ne_nil
  | cons first rest =>
      have harc := h.hasArc (rest.getLastD first, first) (Cycle.mem_arcs_of_closing? rfl)
      have hlayers : Cycle.knownLayers (g.cut removed) (first :: rest) =
          Cycle.knownLayers g (first :: rest) := by
        rw [Cycle.knownLayers, Cycle.knownLayers, layerOf_cut]
      have hsuggestion : Cycle.suggestion (g.cut removed) (first :: rest) =
          Cycle.suggestion g (first :: rest) := by
        rw [Cycle.suggestion, Cycle.suggestion, hlayers]
      simp only [Cycle.violation?, edge?_cut, if_neg (hasArc_cut_iff.1 harc).2, hsuggestion]

end ModuleGraph

namespace CycleSearch

variable {g : ModuleGraph} {removed : List Arc} {roots : List ModuleId}
  {s s' t : CycleSearch} {id : ModuleId}

/-! ## Two searches side by side -/

/-- The next step enters an unvisited module by this arc. -/
def Discovers (s : CycleSearch) (a : Arc) : Prop :=
  a.2 ∈ s.unvisited ∧ ∃ pending below, s.frames = ⟨a.1, a.2 :: pending⟩ :: below

/-- The frame without the targets of cut arcs. -/
def thin (removed : List Arc) (f : Frame) : Frame :=
  ⟨f.node, f.pending.filter fun target => !removed.contains (f.node, target)⟩

theorem thin_cons_of_mem {node target : ModuleId} {pending : List ModuleId}
    (h : (node, target) ∈ removed) :
    thin removed ⟨node, target :: pending⟩ = thin removed ⟨node, pending⟩ := by
  simp [thin, h]

theorem thin_cons_of_not_mem {node target : ModuleId} {pending : List ModuleId}
    (h : (node, target) ∉ removed) :
    thin removed ⟨node, target :: pending⟩ =
      ⟨node, target :: (thin removed ⟨node, pending⟩).pending⟩ := by
  simp [thin, h]

/-- The second search stands where the first one does, looks at no cut arc, and has found
nothing else. -/
structure Thinned (removed : List Arc) (s t : CycleSearch) : Prop where
  unvisited : t.unvisited = s.unvisited
  roots : t.roots = s.roots
  frames : t.frames = s.frames.map (thin removed)
  path : t.path = s.path
  position : t.position = s.position
  found : t.found.toList ⊆ s.found.toList

/-- When all targets are modules, a search starts with just the modules of the graph. -/
theorem mem_unvisited_start (hg : ∀ a, g.HasArc a → g.contains a.2 = true) :
    id ∈ (start g roots).unvisited ↔ g.contains id = true := by
  rw [start, ModuleGraph.mem_mentioned_iff]
  constructor
  · rintro (hid | ⟨source, harc⟩)
    · exact hid
    · exact hg (source, id) harc
  · exact Or.inl

theorem Thinned.start (hg : ∀ a, g.HasArc a → g.contains a.2 = true) :
    Thinned removed (start g roots) (start (g.cut removed) roots) where
  unvisited := by
    have hcut : ∀ a, (g.cut removed).HasArc a → (g.cut removed).contains a.2 = true :=
      fun a ha => ModuleGraph.contains_cut.trans (hg a (ModuleGraph.hasArc_cut_iff.1 ha).1)
    refine ExtTreeSet.ext_mem fun id => ?_
    rw [mem_unvisited_start hcut, mem_unvisited_start hg, ModuleGraph.contains_cut]
  roots := by simp [CycleSearch.start]
  frames := rfl
  path := rfl
  position := rfl
  found := List.Subset.refl _

theorem Thinned.enter (h : Thinned removed s t) (id : ModuleId) :
    Thinned removed (enter g id s) (enter (g.cut removed) id t) where
  unvisited := by rw [CycleSearch.enter, CycleSearch.enter, h.unvisited]
  roots := h.roots
  frames := by
    simp only [CycleSearch.enter, h.frames, List.map_cons, thin, ModuleGraph.keys_neighbors_cut]
  path := by rw [CycleSearch.enter, CycleSearch.enter, h.path]
  position := by rw [CycleSearch.enter, CycleSearch.enter, h.path, h.position]
  found := h.found

theorem Thinned.leave (h : Thinned removed s t) {node : ModuleId} {below : List Frame} :
    Thinned removed (leave node below s) (leave node (below.map (thin removed)) t) where
  unvisited := h.unvisited
  roots := h.roots
  frames := rfl
  path := by rw [CycleSearch.leave, CycleSearch.leave, h.path]
  position := by rw [CycleSearch.leave, CycleSearch.leave, h.position]
  found := h.found

/-- Having looked at the same target. -/
theorem Thinned.look (h : Thinned removed s t) {node : ModuleId} {pending : List ModuleId}
    {below : List Frame} {found found' : Array Cycle} (hfound : found'.toList ⊆ found.toList) :
    Thinned removed { s with frames := ⟨node, pending⟩ :: below, found := found }
      { t with
        frames := ⟨node, (thin removed ⟨node, pending⟩).pending⟩ :: below.map (thin removed)
        found := found' } where
  unvisited := h.unvisited
  roots := h.roots
  frames := rfl
  path := h.path
  position := h.position
  found := hfound

/-- Unless a cut arc would be entered by, the second search stands still or goes along. -/
theorem Thinned.step (h : Thinned removed s t) (hst : Step g s s')
    (hkept : ∀ a ∈ removed, ¬ s.Discovers a) :
    Thinned removed s' t ∨ ∃ t', Step (g.cut removed) t t' ∧ Thinned removed s' t' := by
  cases hst with
  | @passRoot root more hf hr hu =>
      refine Or.inr ⟨{ t with roots := more }, .passRoot ?_ (h.roots.trans hr) ?_, ?_⟩
      · rw [h.frames, hf, List.map_nil]
      · rw [ModuleGraph.contains_cut, h.unvisited]
        exact hu
      · exact { h with roots := rfl }
  | @enterRoot root more hf hr hu hg =>
      have hrest : Thinned removed { s with roots := more } { t with roots := more } :=
        { h with roots := rfl }
      refine Or.inr ⟨_, .enterRoot ?_ (h.roots.trans hr) (h.unvisited ▸ hu) ?_, hrest.enter root⟩
      · rw [h.frames, hf, List.map_nil]
      · rw [ModuleGraph.contains_cut, hg]
  | @leave node below hf =>
      refine Or.inr ⟨_, .leave ?_, h.leave⟩
      · rw [h.frames, hf, List.map_cons]
        rfl
  | @descend node target pending below hf hu =>
      have harc : (node, target) ∉ removed := fun hmem =>
        hkept _ hmem ⟨hu, pending, below, hf⟩
      refine Or.inr ⟨_, .descend ?_ (h.unvisited ▸ hu), (h.look h.found).enter target⟩
      rw [h.frames, hf, List.map_cons, thin_cons_of_not_mem harc]
  | @close node target pending below i hf hp =>
      by_cases harc : (node, target) ∈ removed
      · refine Or.inl { h with frames := ?_, found := fun c hc => ?_ }
        · rw [h.frames, hf, List.map_cons, List.map_cons, thin_cons_of_mem harc]
        · rw [Array.toList_push]
          exact List.mem_append_left _ (h.found hc)
      · refine Or.inr ⟨_, .close ?_ (h.position ▸ hp), h.look ?_⟩
        · rw [h.frames, hf, List.map_cons, thin_cons_of_not_mem harc]
        · rw [Array.toList_push, Array.toList_push, h.path]
          exact List.append_subset.2 ⟨List.subset_append_of_subset_left _ h.found,
            List.subset_append_right _ _⟩
  | @skip node target pending below hf hu hp =>
      by_cases harc : (node, target) ∈ removed
      · refine Or.inl { h with frames := ?_ }
        rw [h.frames, hf, List.map_cons, List.map_cons, thin_cons_of_mem harc]
      · refine Or.inr ⟨_, .skip ?_ (h.unvisited ▸ hu) (h.position ▸ hp), h.look h.found⟩
        rw [h.frames, hf, List.map_cons, thin_cons_of_not_mem harc]

/-- The search of the cut graph passes through a state that stands where the search of
the graph does. -/
def GoesAlong (g : ModuleGraph) (removed : List Arc) (roots : List ModuleId) (s : CycleSearch) :
    Prop :=
  ∃ t, Thinned removed s t ∧ Layout (g.cut removed) t ∧
    run (g.cut removed) t = run (g.cut removed) (start (g.cut removed) roots)

theorem GoesAlong.start (hg : ∀ a, g.HasArc a → g.contains a.2 = true) :
    GoesAlong g removed roots (start g roots) :=
  ⟨_, Thinned.start hg, Layout.start (g.cut removed) roots, rfl⟩

theorem GoesAlong.next (h : GoesAlong g removed roots s) (hst : CycleSearch.step g s = some s')
    (hkept : ∀ a ∈ removed, ¬ s.Discovers a) : GoesAlong g removed roots s' := by
  obtain ⟨t, hthin, hlayout, hrun⟩ := h
  rcases hthin.step (.of_step hst) hkept with hstill | ⟨t', hst', hthin'⟩
  · exact ⟨t, hstill, hlayout, hrun⟩
  · refine ⟨t', hthin', hlayout.step hst', ?_⟩
    rw [← hrun, run_eq (g.cut removed) t, hlayout.step_eq hst']

/-- A search that enters no module by a cut arc ends where that of the cut graph does. -/
theorem thinned_run (hg : ∀ a, g.HasArc a → g.contains a.2 = true)
    (hkept : ∀ a ∈ removed, ∀ s, Reached g roots s → ¬ s.Discovers a) :
    Thinned removed (run g (start g roots))
      (run (g.cut removed) (start (g.cut removed) roots)) := by
  have hnext : ∀ s s', step g s = some s' → Reached g roots s ∧ GoesAlong g removed roots s →
      Reached g roots s' ∧ GoesAlong g removed roots s' :=
    fun s s' hst ⟨hreached, h⟩ =>
      ⟨hreached.tail hst, h.next hst fun a ha => hkept a ha s hreached⟩
  obtain ⟨-, t, hthin, -, hrun⟩ := run_of_next hnext _ ⟨.refl, .start hg⟩
  obtain ⟨hframes, hroots⟩ := frames_roots_of_run g (start g roots)
  have hend : step (g.cut removed) t = none := by
    simp only [step, hthin.frames, hframes, List.map_nil, hthin.roots, hroots]
  rw [← hrun, run_eq (g.cut removed) t, hend]
  exact hthin

end CycleSearch

/-- A graph without arcs that its search enters no module by has no other cycles to
find. -/
theorem ModuleGraph.mem_findCycles_of_cut {g : ModuleGraph} {removed : List Arc}
    {roots : List ModuleId} {c : Cycle} (hg : ∀ a, g.HasArc a → g.contains a.2 = true)
    (hkept : ∀ a ∈ removed, ∀ s, CycleSearch.Reached g roots s → ¬ s.Discovers a)
    (hc : c ∈ (g.cut removed).findCycles roots) : c ∈ g.findCycles roots := by
  obtain ⟨raw, hraw, rfl⟩ := List.mem_map.1 (Cycle.mem_firsts_iff.1 hc).1
  have hfound := (CycleSearch.thinned_run hg hkept).found hraw
  exact Cycle.mem_firsts_iff.2 ⟨List.mem_map_of_mem hfound, ExtTreeSet.not_mem_empty⟩

end LayerLint
