import LayerLint.Analysis
import LayerLint.Output.Printout

/-!
# Overviews

A result for people at a terminal: how much was looked at, how many
violations of each kind there are, a table of them, and what could be done
about them.
-/

namespace LayerLint.Overview

open Terminal (Column Grid)

/-- How much a graph holds, behind its heading. -/
def statsLine (heading : String) (s : ModuleGraph.Stats) : String :=
  heading ++ "  " ++ toString s.modules ++ " modules, " ++ toString s.edges ++ " edges, " ++
    toString s.external ++ " external"

/-- The kinds that were found, each with its number. -/
def countsText (vs : List Violation) : String :=
  let found := (Report.counts vs).filter fun (_, n) => n ≠ 0
  ", ".intercalate (found.map fun (kind, n) => toString n ++ " " ++ kind.label)

def severityText : Severity → String
  | .error => "error"
  | .warning => "warning"
  | .info | .none => "info"

def columns : List Column :=
  [{ heading := "Severity" }, { heading := "Kind" }, { heading := "Location", breaks := false },
    { heading := "Message" }]

def row (v : Violation) : List String :=
  [severityText v.severity, v.kind.label, Terminal.shown v.location.text, Terminal.shown v.message]

/-- The suggestions, each once, at its first place. -/
def suggestions (vs : List Violation) : List String :=
  ((vs.map (·.suggestion)).filter (· ≠ "")).eraseDups

/-- How much was looked at, and how much of it was of no use. -/
def headLines (r : Result) : List String :=
  let skipped := r.skipped.length
  [statsLine "layerguard" r.graph.stats] ++
    if skipped = 0 then [] else [toString skipped ++ " malformed records skipped"]

/-- What there is to say about violations. -/
def violationPrintout (vs : List Violation) : Printout :=
  .ofLines [toString vs.length ++ " violations (" ++ countsText vs ++ ")", ""] ++
    .ofTable (Grid.mk columns (vs.map row)).lines? ++
    .ofLines (["", "Suggestions:"] ++ (suggestions vs).flatMap (Terminal.message "  • "))

def printout (r : Result) : Printout :=
  .ofLines (headLines r) ++
    if r.violations.isEmpty then .ofLines ["No architecture violations found"]
    else violationPrintout r.violations

end LayerLint.Overview
