import LayerLint.Violation

/-!
# Reports

The violations that independent checks found are merged into one list: those
whose kind is switched off are left out, of several with one key the first
one counts, and the rest is put in order.  The order depends on the
violations alone, so two runs over one input read the same.
-/

namespace LayerLint

namespace Report

/-- The lists merged into one report. -/
def merge (lists : List (List Violation)) : List Violation :=
  (Violation.firsts [] (lists.flatten.filter (·.severity ≠ .none))).mergeSort
    fun v w => (v.order w).isLE

/-- How many violations of each kind there are. -/
def counts (violations : List Violation) : List (ViolationKind × Nat) :=
  ViolationKind.all.map fun kind => (kind, violations.countP (·.kind = kind))

def countsTable (violations : List Violation) : Table :=
  (counts violations).map fun (kind, n) => (kind.name, .int n)

end Report

end LayerLint
