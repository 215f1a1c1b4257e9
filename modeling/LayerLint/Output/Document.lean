import LayerLint.Analysis
import LayerLint.Json.Printer

/-!
# Results as documents

A result written for other programs: what was looked at, what was found, and
what was left out.  Members stand in a fixed order, so equal results give
equal texts.
-/

namespace LayerLint

namespace Result

/-- How much was looked at and found. -/
def summaryTable (r : Result) : Table :=
  r.statsTable ++
    [("by_kind", .dict (Report.countsTable r.violations)),
      ("checks", .list (r.checks.map fun c => .str c.name))]

def toValue (r : Result) : Value :=
  .dict [
    ("summary", .dict r.summaryTable),
    ("violations", .list (r.violations.map Violation.toValue)),
    ("skipped", .list (r.skipped.map .str))]

/-- The text of the document; characters outside of ASCII are written as they are. -/
def document (r : Result) : String := Json.pretty false r.toValue

end Result

end LayerLint
