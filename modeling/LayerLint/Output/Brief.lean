import LayerLint.Analysis

/-!
# Brief lists

Only where violations are, and of which kind.
-/

namespace LayerLint.Brief

def line (v : Violation) : String := v.location.text ++ " " ++ v.kind.name

/-- A line for each violation, with line ends between them. -/
def text (vs : List Violation) : String := "\n".intercalate (vs.map line)

end LayerLint.Brief
