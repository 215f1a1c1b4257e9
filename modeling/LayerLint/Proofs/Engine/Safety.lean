import LayerLint.Proofs.Cycle.Colours
import LayerLint.Proofs.Engine.Hosted

/-!
# Runs that fail

A run looks at nothing that is handed over before it has a path, and at nothing
twice.  So there is little that can stop it: what names no file and cannot be
shown in the message about it, what names a file and has no layer or imports to
be asked for, a layer that cannot be written, imports that break while they are
gone through, and workers that never get anything done.

Nothing else does.  There are three places where something is looked up on the
way that has to be there: the modules at both ends of an edge, the position of
the open module that an import leads back to, and the edge that closes a cycle.
Each of them is there for a reason of its own, the first because every import of
a built graph leads to a module of it, the second because the open modules are
those on the path, the third because a cycle that was found is a cycle of the
graph.

## Main results

* `run_has_result_unless_stopped`: when a run has a result, and that nothing it
  looks up is missing.
* `exists_failing_runs`: each of the obstacles is one.
-/

namespace LayerLint.HostedEngine

open Offer (NeverEnds stop?)

/-- **Runs that fail.**  Whatever the engine is and whatever is handed over, one of
three things happens.  The workers are waited for in vain; or the first fault of
showing, or else of reading, what was handed over is the answer and the engine is as it
was; or the run has a result, and the engine remembers it with the first offer of every
file.

The graph of the result is that of the descriptors in the offers, and on it no look-up
fails.  Both ends of every edge are modules.  In every state of a search for its cycles
the colours that were set are those of the state, the modules that were painted as open
are those of the frames, and each of them has its position on the path; this goes for
all states up to the last one, where all modules are finished.  Every cycle that is
found can be reported. -/
theorem run_has_result_unless_stopped (h : HostedEngine) (offers : List Offer) :
    ∃ r : Result,
      h.run offers =
        (if NeverEnds h.workers offers then none
        else some (match stop? offers with
          | some f => (.error f, h)
          | none => (.ok r, { h with known := Offer.firsts ∅ offers, last := some r }))) ∧
      r.graph = h.analysis.builder.build (offers.map Offer.plain) ∧
      (∀ edge ∈ r.graph.edges, ∃ source target,
        r.graph.module? edge.source = some source ∧ r.graph.module? edge.target = some target) ∧
      (∀ roots s paint, CycleSearch.Painted r.graph roots s paint →
        ∀ id, r.graph.contains id = true → s.colour id = paint id ∧
          (paint id = .opened ↔ id ∈ s.opened) ∧
          (paint id = .opened → ∃ i, s.position[id]? = some i ∧ s.path[i]? = some id)) ∧
      (∀ roots, ∃ paint,
        CycleSearch.Painted r.graph roots (.run r.graph (.start r.graph roots)) paint ∧
          ∀ id, r.graph.contains id = true → paint id = .finished) ∧
      (∀ roots severity, ∀ c ∈ r.graph.findCycles roots, ∃ v,
        Cycle.violation? r.graph severity c = .ok v) := by
  obtain ⟨r, hrun, -, hgraph⟩ := h.exists_run offers
  have hdepicts := Builder.depicts_build h.analysis.builder (offers.map Offer.plain)
  rw [← hgraph] at hdepicts
  refine ⟨r, hrun, hgraph, ?_, ?_, CycleSearch.exists_painted_run r.graph, ?_⟩
  · intro edge hedge
    obtain ⟨source, target, -, hsource, htarget⟩ :=
      Boundary.Rules.exists_ends hdepicts.closed hedge
    exact ⟨source, target, hsource, htarget⟩
  · intro roots s paint hpainted id hid
    exact ⟨hpainted.colour_eq (ModuleGraph.mem_mentioned_of_contains hid),
      hpainted.agrees.opened id, hpainted.exists_position⟩
  · intro roots severity c hc
    have hcycle := ModuleGraph.isSimpleCycle_of_mem_findCycles hc
    obtain ⟨v, hv, -⟩ := ModuleGraph.exists_violation? severity hcycle.toIsClosedWalk
    exact ⟨v, hv⟩

/-- A location is handed over, which has a path and no layer; a descriptor whose imports
look as if they could be gone through, and cannot; a descriptor with a layer of too many
digits; and a file for each of so many that idle workers are waited for. -/
theorem exists_failing_runs :
    let engine : HostedEngine :=
      { analysis := ⟨Check.all, ⟨Classifier.default.classify, []⟩, .default .default, .error⟩
        workers := .alone }
    let location : Offer := .thing
      { kind := "SourceSpan"
        path := some (.str "a.py")
        shown := .ok (Location.spelled { file := "a.py" }) }
    let endless : Offer := .thing
      { kind := "ModuleDescriptor"
        path := some (.str "a.py")
        layer := some .null
        imports := some (.broken (.notIterable "type"))
        shown := .ok "ModuleDescriptor(path='a.py', imports=<class 'list'>, layer=None)" }
    let layered : Offer := .submission (.descriptor
      { path := .str "a.py"
        layer := .int (Nat.pow 10 Text.maxDigits) })
    let files : List Offer := (List.range Workers.manyFiles).map fun i =>
      .submission (.descriptor { path := .str (toString i ++ ".py") })
    engine.run [location] = some (.error (.noOperation "SourceSpan" "layer"), engine) ∧
      engine.run [endless] = some (.error (.notIterable "type"), engine) ∧
      engine.run [layered] = some (.error .tooLongToShow, engine) ∧
      { engine with workers := .idle : HostedEngine }.run files = none := by
  intro engine location endless layered files
  have hstopped : ∀ {o : Offer} {f : Fault}, o.id? = some "a.py" → o.readingFault? = some f →
      engine.run [o] = some (.error f, engine) := by
    intro o f hid hf
    obtain ⟨r, hrun, -⟩ := engine.exists_run [o]
    have hends : ¬NeverEnds engine.workers [o] := fun hnever => nomatch hnever.eq_idle.1
    rw [hrun, if_neg hends, Offer.stop?_singleton hid, hf]
  have hdigits : Nat.pow 10 Text.maxDigits ≤ (Nat.pow 10 Text.maxDigits : Int).natAbs :=
    Nat.le_of_eq (Int.natAbs_natCast _).symm
  have hlong := Value.unshowable?_int hdigits
  refine ⟨hstopped (by decide +kernel) rfl, hstopped (by decide +kernel) rfl,
    hstopped (by decide +kernel) hlong, ?_⟩
  obtain ⟨r, hrun, -⟩ := exists_run { engine with workers := .idle } files
  have hnever : NeverEnds .idle files := by decide +kernel
  rw [hrun, if_pos hnever]

end LayerLint.HostedEngine
