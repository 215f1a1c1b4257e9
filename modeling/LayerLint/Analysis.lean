import LayerLint.Config.Basic
import LayerLint.Graph.CycleReport
import LayerLint.Graph.Incremental
import LayerLint.Report

/-!
# Analysis

An analysis is set up once from a configuration and then applied to graphs.
The enabled checks run in their order on one graph; layering and boundary
share one pass over the edges, so whichever of them comes first stands for
both.  What they find is merged into one report.

A result keeps the graph and the report together with what was left out, and
knows which of its violations fail a run.
-/

namespace LayerLint

/-- Everything that an analysis needs besides a graph. -/
structure Analysis where
  checks : List Check
  builder : Builder
  rules : Boundary.Rules
  cycleSeverity : Severity

namespace Analysis

/-- What may stand in the place of a configuration's own parts. -/
structure Overrides where
  checks : Option (List Check) := none
  policy : Option LayerPolicy := none
  classifier : Option Classifier := none

private def either {α : Type} (given : Option α) (derived : Except Fault α) : Except Fault α :=
  match given with
  | some a => .ok a
  | none => derived

/-- The analysis that a configuration describes. -/
def ofConfig (c : Config) (o : Overrides) : Except Fault Analysis := do
  let checks ← either o.checks c.checks
  let policy ← either o.policy c.policy
  let classifier ← either o.classifier c.classifier
  let layerSeverity ← c.severityFor .layer
  let leakageSeverity ← c.severityFor .boundary
  let names ← c.boundaryNames
  let cycleSeverity ← c.severityFor .cycle
  return {
    checks := checks
    builder := ⟨classifier.classify, c.packageNames⟩
    rules := .make policy names (checks.contains .layering) (checks.contains .boundary)
      layerSeverity leakageSeverity
    cycleSeverity := cycleSeverity }

/-- What the checks find, list by list; the edges are gone through once. -/
def outputs (a : Analysis) (g : ModuleGraph) (edgesChecked : Bool) :
    List Check → Except Fault (List (List Violation))
  | [] => .ok []
  | .cycles :: rest => do
    let found ← g.cycleViolations a.cycleSeverity
    return found :: (← outputs a g edgesChecked rest)
  | _ :: rest => do
    if edgesChecked then outputs a g true rest
    else
      let found ← a.rules.check g
      return found :: (← outputs a g true rest)

/-- The report on a graph. -/
def report (a : Analysis) (g : ModuleGraph) : Except Fault (List Violation) := do
  return Report.merge (← a.outputs g false a.checks)

/-- What the checks note about their work. -/
def log (a : Analysis) (g : ModuleGraph) (edgesChecked : Bool) : List Check → Log
  | [] => []
  | .cycles :: rest => ModuleGraph.cycleLog (g.findCycles []).length ++ log a g edgesChecked rest
  | _ :: rest => (if edgesChecked then [] else a.rules.log g) ++ log a g true rest

end Analysis

/-! ## Results -/

structure Result where
  graph : ModuleGraph
  violations : List Violation
  /-- What was left out of the graph, in words. -/
  skipped : List String
  checks : List Check

namespace Result

def statsTable (r : Result) : Table :=
  r.graph.stats.toTable ++
    [("violations", .int r.violations.length), ("skipped", .int r.skipped.length)]

def hasCycles (r : Result) : Bool := r.violations.any (·.kind = .cycle)

/-- The violations that fail a run; mere information never does. -/
def failing (r : Result) (cyclesOnly : Bool) : List Violation :=
  r.violations.filter fun v => v.severity ≠ .info && (!cyclesOnly || v.kind = .cycle)

end Result

end LayerLint
