/-!
# Tables of character ranges

A property of characters is a table of closed ranges of code points, in
increasing order.  The tables of this library are data of the Unicode
standard; the one question asked of them is membership.
-/

namespace LayerLint.Text

/-- Closed ranges of code points, in increasing order. -/
abbrev RangeTable := List (Nat × Nat)

/-- Some range of the table holds the character. -/
def RangeTable.holds (table : RangeTable) (c : Char) : Bool :=
  table.any fun (first, last) => first ≤ c.toNat && c.toNat ≤ last

end LayerLint.Text
