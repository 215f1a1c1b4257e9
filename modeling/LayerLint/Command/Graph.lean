import LayerLint.Command.Check
import LayerLint.Output.GraphView

/-!
# Showing a graph

The graph that the checks would run on, without running them.  Here the
analysis is set up before the document is read.
-/

namespace LayerLint.Command

namespace GraphCall

def overrides (c : GraphCall) : Table :=
  flagOverride "verbose" c.verbose ++ flagOverride "quiet" c.quiet

/-- The formats that a graph can be shown in. -/
def formats : List OutputFormat := [.overview, .document]

end GraphCall

/-- What is printed of a graph. -/
def graphPrintout (c : GraphCall) (format : OutputFormat) (g : ModuleGraph) : Printout :=
  match format with
  | .document => .ofText (OutputFormat.endLine g.document)
  | _ => g.overview c.verbose

/-- Everything that `graph` does in a format that there is. -/
def runGraph (w : Workplace) (c : GraphCall) (format : OutputFormat) : Outcome :=
  match (Config.discover w c.config c.overrides).bind (Analysis.ofConfig · {}) with
  | .error f => .ofFault [] f
  | .ok analysis =>
    match (Subject.file (Path.shown c.descriptors)).load w.files with
    | .error f => .ofFault [] f
    | .ok (submissions, log) =>
      let survey := analysis.builder.surveyAll submissions
      .ofPrintout (log ++ survey.log) .passed [] (graphPrintout c format survey.graph)

def graph (w : Workplace) (c : GraphCall) : Outcome :=
  match GraphCall.formats.find? (·.name == c.format) with
  | none => unknownFormat c.format GraphCall.formats
  | some format => (runGraph w c format).atLevel (logLevel c.verbose c.quiet)

end LayerLint.Command
