import Mathlib.Data.List.Perm.Subperm
import LayerLint.Graph.CycleReport
import LayerLint.Proofs.Cycle.Trail
import LayerLint.Proofs.Fallible

/-!
# The cycles that are reported

The search reports one cycle for every arc back to an open module.  Read in
its canonical form such a cycle has one arc among those that closed a cycle,
namely its own, since all its other arcs were walked.  So no two cycles found
are readings of each other, and leaving out repeated readings loses nothing:
the arcs that closed a cycle, one on each reported cycle, are all that has to
be cut to make the graph acyclic.

## Main results

* `findCycles_simple`: every reported cycle is a simple cycle, read from its
  smallest member, and its violation stands at the arc that closes it.
* `findCycles_cut_acyclic`: one arc of every reported cycle, no arc twice,
  is enough to cut for the graph to become acyclic.
-/

namespace LayerLint

open Std (ExtTreeSet)

/-! ## Each cycle once -/

namespace Cycle

theorem mem_firsts_iff {seen : ExtTreeSet Cycle} {cs : List Cycle} {c : Cycle} :
    c ∈ firsts seen cs ↔ c ∈ cs ∧ c ∉ seen := by
  induction cs generalizing seen with
  | nil => simp [firsts]
  | cons d rest ih =>
      rw [firsts]
      by_cases hd : d ∈ seen
      · rw [if_pos (ExtTreeSet.contains_iff_mem.2 hd), ih, List.mem_cons]
        constructor
        · rintro ⟨hmem, hnew⟩
          exact ⟨Or.inr hmem, hnew⟩
        · rintro ⟨rfl | hmem, hnew⟩
          · exact absurd hd hnew
          · exact ⟨hmem, hnew⟩
      · rw [if_neg (fun hc => hd (ExtTreeSet.contains_iff_mem.1 hc)), List.mem_cons, ih,
          List.mem_cons, ExtTreeSet.mem_insert, Std.LawfulEqCmp.compare_eq_iff_eq]
        by_cases hc : c = d
        · simp [hc, hd]
        · simp [hc, Ne.symm hc]

theorem nodup_firsts (seen : ExtTreeSet Cycle) (cs : List Cycle) : (firsts seen cs).Nodup := by
  induction cs generalizing seen with
  | nil => exact List.nodup_nil
  | cons d rest ih =>
      rw [firsts]
      by_cases hd : seen.contains d = true
      · rw [if_pos hd]
        exact ih seen
      · rw [if_neg hd, List.nodup_cons]
        refine ⟨fun hmem => ?_, ih _⟩
        exact (mem_firsts_iff.1 hmem).2 ExtTreeSet.mem_insert_self

end Cycle

namespace CycleSearch

/-! ## The closing arc of a cycle -/

theorem Trail.seen_of_mem_arcs {g : ModuleGraph} {s : CycleSearch} (h : Trail g s) {c : Cycle}
    {back : Arc} (hc : c ∈ s.found.toList) (hBack : Cycle.closing? c = some back) :
    ∀ a ∈ c.arcs, Seen g s a ∧ (a ∈ s.closings → a = back) := by
  obtain ⟨back', hBack', hSeen⟩ := (h.found c hc).closed
  obtain rfl := Option.some.inj (hBack.symm.trans hBack')
  refine (Cycle.forall_mem_arcs_iff hBack).2 ⟨?_, hSeen, fun _ => rfl⟩
  exact (h.found c hc).links.imp fun _ _ hw => ⟨hw.1, fun hmem => absurd hmem hw.2⟩

/-- Cycles that are closed by the same arc are the same. -/
theorem Trail.eq_of_closing? {g : ModuleGraph} {s : CycleSearch} (h : Trail g s) {c d : Cycle}
    {back : Arc} (hc : c ∈ s.found.toList) (hd : d ∈ s.found.toList)
    (hcBack : Cycle.closing? c = some back) (hdBack : Cycle.closing? d = some back) : c = d := by
  have hpair := List.pairwise_filterMap.1 h.closings
  have hsymm : Std.Symm fun c d : Cycle =>
      ∀ b, Cycle.closing? c = some b → ∀ b', Cycle.closing? d = some b' → b ≠ b' :=
    ⟨fun c d hcd b hb b' hb' heq => hcd b' hb' b hb heq.symm⟩
  by_contra hne
  exact hpair.forall hc hd hne back hcBack back hdBack rfl

end CycleSearch

namespace ModuleGraph

/-! ## The cycles of a graph -/

/-- The arcs back to an open module that the search comes across, in order. -/
def backArcs (g : ModuleGraph) (roots : List ModuleId) : List Arc :=
  ((CycleSearch.start g roots).run g).closings

section Reported

variable {g : ModuleGraph} {roots : List ModuleId} {c d : Cycle} {a : Arc}

/-- A reported cycle is a reading of one that the search has closed. -/
theorem exists_of_mem_findCycles (hc : c ∈ g.findCycles roots) :
    ∃ raw ∈ ((CycleSearch.start g roots).run g).found.toList, ∃ back,
      Cycle.closing? raw = some back ∧ raw.canonical = c := by
  obtain ⟨raw, hraw, hcanon⟩ := List.mem_map.1 (Cycle.mem_firsts_iff.1 hc).1
  obtain ⟨back, hBack, -⟩ := ((CycleSearch.trail_of_run g roots).found raw hraw).closed
  exact ⟨raw, hraw, back, hBack, hcanon⟩

theorem isSimpleCycle_of_mem_findCycles (hc : c ∈ g.findCycles roots) : g.IsSimpleCycle c := by
  obtain ⟨raw, hraw, back, hBack, rfl⟩ := exists_of_mem_findCycles hc
  have htrail := CycleSearch.trail_of_run g roots
  refine
    { ne_nil := ?_
      hasArc := ?_
      nodup := (Cycle.canonical_perm raw).nodup_iff.2 (htrail.found raw hraw).nodup }
  · intro hnil
    have hraw' : raw = [] := List.perm_nil.1 (hnil ▸ (Cycle.canonical_perm raw).symm)
    rw [hraw'] at hBack
    cases hBack
  · intro a ha
    exact (htrail.seen_of_mem_arcs hraw hBack a (Cycle.mem_arcs_canonical.1 ha)).1.1

/-- A reported cycle has exactly one arc that closed a cycle. -/
theorem exists_backArc (hc : c ∈ g.findCycles roots) :
    ∃ a, (a ∈ c.arcs ∧ a ∈ g.backArcs roots) ∧
      ∀ b ∈ c.arcs, b ∈ g.backArcs roots → b = a := by
  obtain ⟨raw, hraw, back, hBack, rfl⟩ := exists_of_mem_findCycles hc
  refine ⟨back, ⟨?_, List.mem_filterMap.2 ⟨raw, hraw, hBack⟩⟩, ?_⟩
  · exact Cycle.mem_arcs_canonical.2 (Cycle.mem_arcs_of_closing? hBack)
  · intro b hb
    exact ((CycleSearch.trail_of_run g roots).seen_of_mem_arcs hraw hBack b
      (Cycle.mem_arcs_canonical.1 hb)).2

/-- The arc that closed it tells a reported cycle from all others. -/
theorem eq_of_mem_backArcs (hc : c ∈ g.findCycles roots) (hd : d ∈ g.findCycles roots)
    (ha : a ∈ g.backArcs roots) (hac : a ∈ c.arcs) (had : a ∈ d.arcs) : c = d := by
  have htrail := CycleSearch.trail_of_run g roots
  obtain ⟨raw, hraw, back, hBack, rfl⟩ := exists_of_mem_findCycles hc
  obtain ⟨raw', hraw', back', hBack', rfl⟩ := exists_of_mem_findCycles hd
  have heq := (htrail.seen_of_mem_arcs hraw hBack a (Cycle.mem_arcs_canonical.1 hac)).2 ha
  have heq' := (htrail.seen_of_mem_arcs hraw' hBack' a (Cycle.mem_arcs_canonical.1 had)).2 ha
  subst heq
  subst heq'
  rw [htrail.eq_of_closing? hraw hraw' hBack hBack']

/-- Every arc that closed a cycle lies on a reported one. -/
theorem exists_mem_findCycles (ha : a ∈ g.backArcs roots) :
    ∃ c ∈ g.findCycles roots, a ∈ c.arcs := by
  obtain ⟨raw, hraw, hBack⟩ := List.mem_filterMap.1 ha
  refine ⟨raw.canonical, ?_, Cycle.mem_arcs_canonical.2 (Cycle.mem_arcs_of_closing? hBack)⟩
  exact Cycle.mem_firsts_iff.2 ⟨List.mem_map_of_mem hraw, ExtTreeSet.not_mem_empty⟩

/-- Whatever holds all the arcs that closed a cycle is enough to cut. -/
theorem acyclic_cut_of_subset {removed : List Arc} (h : g.backArcs roots ⊆ removed) :
    (g.cut removed).Acyclic := by
  refine acyclic_of_wellFounded ?_
  refine Subrelation.wf ?_ (CycleSearch.wellFounded_of_run g roots)
  intro target source harc
  obtain ⟨harc, hkept⟩ := hasArc_cut_iff.1 harc
  exact ⟨harc, fun hmem => hkept (h hmem)⟩

/-- A closed walk cannot avoid all the arcs that closed a cycle. -/
theorem IsClosedWalk.exists_shared_arc (hc : g.IsClosedWalk c) (roots : List ModuleId) :
    ∃ d ∈ g.findCycles roots, ∃ a ∈ c.arcs, a ∈ d.arcs := by
  by_contra hnone
  refine acyclic_cut_of_subset (List.Subset.refl (g.backArcs roots)) c ⟨hc.ne_nil, ?_⟩
  intro a ha
  refine hasArc_cut_iff.2 ⟨hc.hasArc a ha, fun hmem => hnone ?_⟩
  obtain ⟨d, hd, had⟩ := exists_mem_findCycles hmem
  exact ⟨d, hd, a, ha, had⟩

/-- The arcs that closed the reported cycles, one on each, no arc for two of them, and
all of them. -/
theorem exists_backs (g : ModuleGraph) (roots : List ModuleId) : ∃ back : Cycle → Arc,
    (∀ c ∈ g.findCycles roots, back c ∈ c.arcs ∧ g.HasArc (back c)) ∧
    (∀ c ∈ g.findCycles roots, ∀ d ∈ g.findCycles roots, back c = back d → c = d) ∧
    g.backArcs roots ⊆ (g.findCycles roots).map back := by
  have hchoice : ∀ c, ∃ a, c ∈ g.findCycles roots → (a ∈ c.arcs ∧ a ∈ g.backArcs roots) ∧
      ∀ b ∈ c.arcs, b ∈ g.backArcs roots → b = a := by
    intro c
    by_cases hc : c ∈ g.findCycles roots
    · obtain ⟨a, ha⟩ := exists_backArc hc
      exact ⟨a, fun _ => ha⟩
    · exact ⟨("", ""), fun h => absurd h hc⟩
  choose back hback using hchoice
  refine ⟨back, ?_, ?_, ?_⟩
  · intro c hc
    have hmem := (hback c hc).1.1
    exact ⟨hmem, (isSimpleCycle_of_mem_findCycles hc).hasArc _ hmem⟩
  · intro c hc d hd heq
    exact eq_of_mem_backArcs hc hd (hback c hc).1.2 (hback c hc).1.1 (heq ▸ (hback d hd).1.1)
  · intro a ha
    obtain ⟨c, hc, hac⟩ := exists_mem_findCycles ha
    exact List.mem_map.2 ⟨c, hc, ((hback c hc).2 a hac ha).symm⟩

theorem findCycles_eq_nil_iff : g.findCycles roots = [] ↔ g.Acyclic := by
  constructor
  · intro hnil c hc
    obtain ⟨d, hd, -⟩ := hc.exists_shared_arc roots
    rw [hnil] at hd
    exact List.not_mem_nil hd
  · intro hacyclic
    refine List.eq_nil_iff_forall_not_mem.2 fun c hc => ?_
    exact hacyclic c (isSimpleCycle_of_mem_findCycles hc).toIsClosedWalk

/-- A module that imports itself is a cycle of its own. -/
theorem singleton_mem_findCycles {id : ModuleId} (hid : g.HasArc (id, id)) :
    [id] ∈ g.findCycles roots := by
  have hwalk : g.IsClosedWalk [id] := ⟨List.cons_ne_nil id [], by simpa [Cycle.arcs] using hid⟩
  obtain ⟨d, hd, a, ha, had⟩ := hwalk.exists_shared_arc roots
  have hself : a = (id, id) := by simpa [Cycle.arcs] using ha
  rw [hself] at had
  rwa [← Cycle.eq_singleton_of_mem_arcs (isSimpleCycle_of_mem_findCycles hd).nodup had]

theorem length_findCycles_le (g : ModuleGraph) (roots : List ModuleId) :
    (g.findCycles roots).length ≤ g.edgeCount := by
  obtain ⟨back, hback, hinj, -⟩ := g.exists_backs roots
  have hnodup : ((g.findCycles roots).map back).Nodup :=
    List.Nodup.map_on (fun c hc d hd => hinj c hc d hd) (Cycle.nodup_firsts _ _)
  have hsub : (g.findCycles roots).map back ⊆ g.arcs := by
    intro a ha
    obtain ⟨c, hc, rfl⟩ := List.mem_map.1 ha
    exact mem_arcs_iff.2 (hback c hc).2
  have hle := (hnodup.subperm hsub).length_le
  rwa [List.length_map, length_arcs] at hle

end Reported

/-! ## The two theorems -/

/-- The violation reports this cycle, at the arc that leads from its last member to its
first. -/
structure Reports (g : ModuleGraph) (severity : Severity) (c : Cycle) (v : Violation) : Prop where
  kind : v.kind = .cycle
  modules : v.modules = c
  severity : v.severity = severity
  anchored : ∃ last first closing, c.getLast? = some last ∧ c.head? = some first ∧
    g.edge? last first = some closing ∧ v.location = closing.location

theorem exists_violation? {g : ModuleGraph} (severity : Severity) {c : Cycle}
    (hc : g.IsClosedWalk c) :
    ∃ v, Cycle.violation? g severity c = .ok v ∧ Reports g severity c v := by
  cases c with
  | nil => exact absurd rfl hc.ne_nil
  | cons first rest =>
      have harc := hc.hasArc (rest.getLastD first, first) (Cycle.mem_arcs_of_closing? rfl)
      obtain ⟨closing, hclosing⟩ := Option.isSome_iff_exists.1 harc
      dsimp only at hclosing
      rw [Cycle.violation?, hclosing]
      refine ⟨_, rfl, rfl, rfl, rfl, rest.getLastD first, first, closing, ?_, rfl, hclosing, rfl⟩
      rw [List.getLast?_cons, List.getLastD_eq_getLast?]

/-- **Every reported cycle is real, and its violation stands where it closes.**
From whatever roots the search starts, no cycle is reported twice, and each is
a simple cycle of the graph that starts at its smallest member.  Reporting them
does not fail, and yields one violation for each cycle, in the same order. -/
theorem findCycles_simple (g : ModuleGraph) (roots : List ModuleId) (severity : Severity) :
    (g.findCycles roots).Nodup ∧
    (∀ c ∈ g.findCycles roots, g.IsSimpleCycle c ∧
      ∀ first ∈ c.head?, ∀ id ∈ c, first ≤ id) ∧
    ∃ violations, g.cycleViolations severity = .ok violations ∧
      List.Forall₂ (g.Reports severity) (g.findCycles []) violations := by
  refine ⟨Cycle.nodup_firsts _ _, ?_, ?_⟩
  · intro c hc
    refine ⟨isSimpleCycle_of_mem_findCycles hc, ?_⟩
    obtain ⟨raw, -, -, -, rfl⟩ := exists_of_mem_findCycles hc
    intro first hFirst id hid
    exact Cycle.head?_canonical_le hFirst hid
  · exact exists_mapM_eq_ok fun c hc =>
      exists_violation? severity (isSimpleCycle_of_mem_findCycles hc).toIsClosedWalk

/-- **No cycle escapes the search.**  From whatever roots it starts, one arc can
be chosen on every reported cycle, no arc for two of them, so that the graph
without these arcs has no directed cycle.  So cycles are reported unless there
are none, every closed walk shares an arc with a reported cycle, every
self-import is reported as such, and there are at most as many reported cycles
as there are edges. -/
theorem findCycles_cut_acyclic (g : ModuleGraph) (roots : List ModuleId) :
    (∃ back : Cycle → Arc,
      (∀ c ∈ g.findCycles roots, back c ∈ c.arcs ∧ g.HasArc (back c)) ∧
      (∀ c ∈ g.findCycles roots, ∀ d ∈ g.findCycles roots, back c = back d → c = d) ∧
      (g.cut ((g.findCycles roots).map back)).Acyclic) ∧
    (g.findCycles roots = [] ↔ g.Acyclic) ∧
    (∀ c, g.IsClosedWalk c → ∃ d ∈ g.findCycles roots, ∃ a ∈ c.arcs, a ∈ d.arcs) ∧
    (∀ id, g.HasArc (id, id) → [id] ∈ g.findCycles roots) ∧
    (g.findCycles roots).length ≤ g.edgeCount := by
  obtain ⟨back, hback, hinj, hsub⟩ := g.exists_backs roots
  refine ⟨⟨back, hback, hinj, acyclic_cut_of_subset hsub⟩, findCycles_eq_nil_iff, ?_, ?_, ?_⟩
  · intro c hc
    exact hc.exists_shared_arc roots
  · intro id hid
    exact singleton_mem_findCycles hid
  · exact g.length_findCycles_le roots

end ModuleGraph

end LayerLint
