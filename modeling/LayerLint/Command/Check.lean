import LayerLint.Command.Call
import LayerLint.Command.Outcome
import LayerLint.Run

/-!
# Checking a document

The configuration, the document and the analysis are set up in this order,
and the first one with a fault ends the call.  Otherwise the result is
printed, and whether it fails the run depends on the result and the
configuration alone.
-/

namespace LayerLint.Command

/-- No output format has this name. -/
def unknownFormat (name : String) (formats : List OutputFormat) : Outcome :=
  .ofProblem [] "Error: " ("unknown format " ++ Text.quote name ++ "; choose from " ++
    ", ".intercalate (formats.map OutputFormat.name))

/-- What flags and options say about fields. -/
def flagOverride (name : String) (given : Bool) : Table :=
  if given then [(name, .bool true)] else []

namespace CheckCall

def overrides (c : CheckCall) : Table :=
  flagOverride Config.Field.failOnCycleOnly.name c.cyclesOnly ++
    (c.workers.map fun n => (Config.Field.workers.name, Value.int n)).toList ++
    flagOverride "verbose" c.verbose ++ flagOverride "quiet" c.quiet

end CheckCall

/-- Whether a result fails a run. -/
def verdict (cyclesOnly : Bool) (r : Result) : ExitStatus :=
  if (r.failing cyclesOnly).isEmpty then .passed else .failed

/-- What is noted about a result that cycles alone could have failed. -/
def verdictLog (cyclesOnly : Bool) (r : Result) : Log :=
  if cyclesOnly && !r.violations.isEmpty && !r.hasCycles then
    [⟨.info, "No circular dependencies; other violations do not fail this run"⟩]
  else []

/-- Runs an analysis once and prints its result. -/
def conclude (config : Config) (analysis : Analysis) (format : OutputFormat)
    (submissions : List Submission) (log : Log) : Outcome :=
  let log := log ++ Engine.runLog analysis submissions
  match (({ analysis := analysis } : Engine).run submissions).1 with
  | .error f => .ofFault log f
  | .ok r =>
    .ofPrintout log (verdict config.failsOnCycleOnly r) (verdictLog config.failsOnCycleOnly r)
      (format.printout r)

/-- Everything that `check` does in a format that there is. -/
def runCheck (w : Workplace) (c : CheckCall) (format : OutputFormat) : Outcome :=
  match Config.discover w c.config c.overrides with
  | .error f => .ofFault [] f
  | .ok config =>
    match (Subject.file (Path.shown c.descriptors)).load w.files with
    | .error f => .ofFault [] f
    | .ok (submissions, log) =>
      match Analysis.ofConfig config {} with
      | .error f => .ofFault log f
      | .ok analysis => conclude config analysis format submissions log

def check (w : Workplace) (c : CheckCall) : Outcome :=
  match OutputFormat.ofName? c.format with
  | none => unknownFormat c.format OutputFormat.all
  | some format => (runCheck w c format).atLevel (logLevel c.verbose c.quiet)

end LayerLint.Command
