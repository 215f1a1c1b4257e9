import LayerLint.Proofs.Cycle.Deletion
import LayerLint.Proofs.Engine.Selection

/-!
# Deleting an import

What is wrong with an edge is a matter of this edge and of the modules at its
ends.  So deleting an import takes the violations of its own edge away and leaves
those of the others as they are.

With cycles it is not so.  The search reports one cycle for every import back to
an open module, and which imports these are depends on the order in which it
enters the modules.  Without an import that it enters a module by, it may come to
a cycle that was there before and passed over.  Such a cycle shares an import
with one that was reported, so a graph without reported cycles stays without; and
an import that the search enters no module by can be deleted without any new
cycle coming to light.

## Main results

* `report_cut`: what can be in the report after the deletion of an import.
* `exists_new_key_of_three_files`: a new key can be in it.
-/

namespace LayerLint

namespace ModuleGraph

variable {g : ModuleGraph} {removed : List Arc}

theorem Closed.cut (h : g.Closed) : (g.cut removed).Closed := by
  intro e he
  rw [contains_cut, contains_cut]
  exact h e (mem_edges_of_cut he)

theorem Labelled.cut (h : g.Labelled) : (g.cut removed).Labelled :=
  fun source target e he => h source target e (edge?_of_cut he)

theorem Joins.of_cut {e : Edge} {source target : Module}
    (h : (g.cut removed).Joins e source target) : g.Joins e source target where
  mem := mem_edges_of_cut h.mem
  source := module?_cut.symm.trans h.source
  target := module?_cut.symm.trans h.target

end ModuleGraph

namespace Analysis

variable {a : Analysis} {g : ModuleGraph} {removed : List Arc} {v : Violation}

/-- A violation of kind cycle is that of a cycle which the search finds. -/
theorem Finds.of_cycle (h : a.Finds g v) (hkind : v.kind = .cycle) :
    .cycles ∈ a.checks ∧ v.modules ∈ g.findCycles [] ∧
      Cycle.violation? g a.cycleSeverity v.modules = .ok v := by
  rcases h with ⟨hmade, c, hc, hcycle⟩ | ⟨-, e, source, target, -, hv⟩
  · obtain rfl := ModuleGraph.modules_of_violation? hcycle
    exact ⟨hmade, hc, hcycle⟩
  · have hrule := (Boundary.Rules.mem_violationsOf_iff.1 hv).2
    exact absurd hkind (Boundary.Rules.kind_ne_cycle hrule)

/-- The cycles of a report are those that the search finds, unless they are switched
off. -/
theorem exists_cycle_iff (hclosed : g.Closed) (hlabelled : g.Labelled)
    {violations : List Violation} (h : a.report g = .ok violations) {c : Cycle} :
    (∃ v ∈ violations, v.kind = .cycle ∧ v.modules = c) ↔
      .cycles ∈ a.checks ∧ a.cycleSeverity ≠ .none ∧ c ∈ g.findCycles [] := by
  constructor
  · rintro ⟨v, hv, hkind, rfl⟩
    obtain ⟨hfinds, hseverity⟩ := (mem_report_iff hclosed hlabelled h).1 hv
    obtain ⟨hmade, hc, hcycle⟩ := hfinds.of_cycle hkind
    rw [(ModuleGraph.of_violation? hcycle).2] at hseverity
    exact ⟨hmade, hseverity, hc⟩
  · rintro ⟨hmade, hseverity, hc⟩
    obtain ⟨v, hv, hreports⟩ := ModuleGraph.exists_violation? a.cycleSeverity
      (ModuleGraph.isSimpleCycle_of_mem_findCycles hc).toIsClosedWalk
    refine ⟨v, (mem_report_iff hclosed hlabelled h).2 ⟨Or.inl ⟨hmade, c, hc, hv⟩, ?_⟩,
      hreports.kind, hreports.modules⟩
    rwa [hreports.severity]

/-- What is found of an edge that stays was found before. -/
theorem Finds.of_cut (h : a.Finds (g.cut removed) v) (hkind : v.kind ≠ .cycle) :
    a.Finds g v := by
  rcases h with ⟨-, c, -, hcycle⟩ | ⟨hmade, e, source, target, hjoins, hv⟩
  · exact absurd (ModuleGraph.of_violation? hcycle).1 hkind
  · exact Or.inr ⟨hmade, e, source, target, hjoins.of_cut, hv⟩

/-- What is found of a cycle was found before if the search finds the cycle in the
graph. -/
theorem Finds.of_cut_of_mem (h : a.Finds (g.cut removed) v) (hkind : v.kind = .cycle)
    (hmem : v.modules ∈ g.findCycles []) : a.Finds g v := by
  obtain ⟨hmade, hc, hcycle⟩ := h.of_cycle hkind
  have hwalk := (ModuleGraph.isSimpleCycle_of_mem_findCycles hc).toIsClosedWalk
  rw [hwalk.violation?_cut] at hcycle
  exact Or.inl ⟨hmade, v.modules, hmem, hcycle⟩

/-- A cycle that is found shares an arc with one that was found before. -/
theorem Finds.exists_shared_arc (h : a.Finds (g.cut removed) v) (hkind : v.kind = .cycle) :
    ∃ w, a.Finds g w ∧ w.kind = .cycle ∧ w.severity = v.severity ∧
      ∃ shared ∈ Cycle.arcs v.modules, shared ∈ Cycle.arcs w.modules := by
  obtain ⟨hmade, hc, hcycle⟩ := h.of_cycle hkind
  obtain ⟨hsimple, -⟩ := (ModuleGraph.isSimpleCycle_of_mem_findCycles hc).of_cut
  obtain ⟨d, hd, shared, hv, hw⟩ := hsimple.exists_shared_arc []
  obtain ⟨w, hviolation, hreports⟩ := ModuleGraph.exists_violation? a.cycleSeverity
    (ModuleGraph.isSimpleCycle_of_mem_findCycles hd).toIsClosedWalk
  refine ⟨w, Or.inl ⟨hmade, d, hd, hviolation⟩, hreports.kind, ?_, shared, hv, ?_⟩
  · rw [hreports.severity, (ModuleGraph.of_violation? hcycle).2]
  · rwa [hreports.modules]

/-- **What deleting an import can bring to light.**  Delete an import from a graph that
is built, and leave its modules as they are.  Every violation of an edge that is
reported afterwards was reported before.  Every cycle that is reported afterwards is one
that was there before and does not go along the deleted import, and it shares an import
with a cycle that was reported before.  When the search enters no module by the
deleted import, everything that is reported afterwards was reported before. -/
theorem report_cut (a : Analysis) (b : Builder) (ss : List Submission) (arc : Arc) :
    let g := b.build ss
    ∃ before after, a.report g = .ok before ∧ a.report (g.cut [arc]) = .ok after ∧
      (∀ v ∈ after, v.kind ≠ .cycle → v ∈ before) ∧
      (∀ v ∈ after, v.kind = .cycle →
        g.IsSimpleCycle v.modules ∧ arc ∉ Cycle.arcs v.modules ∧
          ∃ w ∈ before, w.kind = .cycle ∧
            ∃ shared ∈ Cycle.arcs v.modules, shared ∈ Cycle.arcs w.modules) ∧
      ((∀ s, CycleSearch.Reached g [] s → ¬ s.Discovers arc) → ∀ v ∈ after, v ∈ before) := by
  intro g
  have hdepicts : Builder.Depicts b (.ofSubmissions ss) g := Builder.depicts_build b ss
  have hclosed := hdepicts.closed
  have hlabelled := hdepicts.labelled
  obtain ⟨before, hbefore⟩ := a.exists_report hclosed
  have hclosed' : (g.cut [arc]).Closed := hclosed.cut
  obtain ⟨after, hafter⟩ := a.exists_report hclosed'
  have hmem : ∀ {v}, v ∈ before ↔ a.Finds g v ∧ v.severity ≠ .none :=
    mem_report_iff hclosed hlabelled hbefore
  have hmem' : ∀ {v}, v ∈ after ↔ a.Finds (g.cut [arc]) v ∧ v.severity ≠ .none :=
    mem_report_iff hclosed' hlabelled.cut hafter
  have hedges : ∀ v ∈ after, v.kind ≠ .cycle → v ∈ before := by
    intro v hv hkind
    obtain ⟨hfinds, hseverity⟩ := hmem'.1 hv
    exact hmem.2 ⟨hfinds.of_cut hkind, hseverity⟩
  refine ⟨before, after, hbefore, hafter, hedges, ?_, ?_⟩
  · intro v hv hkind
    obtain ⟨hfinds, hseverity⟩ := hmem'.1 hv
    obtain ⟨hsimple, hkept⟩ :=
      (ModuleGraph.isSimpleCycle_of_mem_findCycles (hfinds.of_cycle hkind).2.1).of_cut
    obtain ⟨w, hw, hwkind, hwseverity, hshared⟩ := hfinds.exists_shared_arc hkind
    exact ⟨hsimple, fun harc => hkept arc harc (List.mem_singleton.2 rfl), w,
      hmem.2 ⟨hw, hwseverity ▸ hseverity⟩, hwkind, hshared⟩
  · intro hkept v hv
    by_cases hkind : v.kind = .cycle
    · obtain ⟨hfinds, hseverity⟩ := hmem'.1 hv
      have hfound : v.modules ∈ g.findCycles [] :=
        ModuleGraph.mem_findCycles_of_cut (fun _ => hclosed.contains_of_hasArc hlabelled)
          (List.forall_mem_singleton.2 hkept) (hfinds.of_cycle hkind).2.1
      exact hmem.2 ⟨hfinds.of_cut_of_mem hkind hfound, hseverity⟩
    · exact hedges v hv hkind

/-- Three files in a circle, the first of which imports the last one as well.  The
search reports the circle; without the import from the first file to the second it
reports the shorter way round. -/
theorem exists_new_key_of_three_files :
    let a := standard .default
    let file (path : String) (targets : List String) : Submission :=
      .descriptor ⟨.str path,
        .items (targets.map fun target => .record (.str target) (.at { file := path })), .null⟩
    let g := a.builder.build
      [file "a.py" ["./b.py", "./c.py"], file "b.py" ["./c.py"], file "c.py" ["./a.py"]]
    ofConfig .default {} = .ok a ∧
    ∃ e ∈ g.edges, ∃ before after, a.report g = .ok before ∧
      a.report (g.cut [(e.source, e.target)]) = .ok after ∧
      ∃ v ∈ after, v.key ∉ before.map Violation.key := by
  intro a file g
  let e : Edge := ⟨"a.py", "b.py", { file := "a.py" }, "./b.py"⟩
  have hconfig := ofConfig_default none
  rw [Option.getD_none] at hconfig
  have he : e ∈ g.edges := by
    refine ModuleGraph.mem_edges_iff.2 ⟨"a.py", "b.py", ?_⟩
    decide +kernel
  have hdepicts : Builder.Depicts a.builder _ g := Builder.depicts_build a.builder _
  have hclosed := hdepicts.closed
  have hlabelled := hdepicts.labelled
  have hclosed' : (g.cut [(e.source, e.target)]).Closed := hclosed.cut
  have hcycles : g.findCycles [] = [["a.py", "b.py", "c.py"]] := by
    rw [ModuleGraph.findCycles, CycleSearch.run_eq_steps (n := 30) (by decide +kernel)]
    decide +kernel
  have hcycles' : (g.cut [(e.source, e.target)]).findCycles [] = [["a.py", "c.py"]] := by
    rw [ModuleGraph.findCycles, CycleSearch.run_eq_steps (n := 30) (by decide +kernel)]
    decide +kernel
  obtain ⟨before, hbefore⟩ := a.exists_report hclosed
  obtain ⟨after, hafter⟩ := a.exists_report hclosed'
  obtain ⟨v, hv, hkind, hmodules⟩ := (exists_cycle_iff hclosed' hlabelled.cut hafter).2
    ⟨by decide, by decide, hcycles' ▸ List.mem_singleton.2 rfl⟩
  refine ⟨hconfig, e, he, before, after, hbefore, hafter, v, hv, fun hkey => ?_⟩
  obtain ⟨w, hw, hkey⟩ := List.mem_map.1 hkey
  rw [Violation.key, Violation.key, Violation.Key.mk.injEq, hkind, hmodules] at hkey
  obtain ⟨-, -, hold⟩ := (exists_cycle_iff hclosed hlabelled hbefore).1
    ⟨w, hw, hkey.1, hkey.2.1⟩
  rw [hcycles] at hold
  revert hold
  decide

end Analysis

end LayerLint
