import LayerLint.Value

/-!
# Source locations

Where an import statement stands.  Lines and columns count from one; the end
is often not known.  Locations are compared field by field.  A number may be of
any size, and it is written in full.
-/

namespace LayerLint

structure Location where
  file : String
  line : Int := 1
  column : Int := 1
  endLine : Option Int := none
  endColumn : Option Int := none
  deriving DecidableEq, Repr

namespace Location

/-- The start of the location, as reports write it. -/
def text (l : Location) : String :=
  l.file ++ ":" ++ toString l.line ++ ":" ++ toString l.column

/-- The location as a document: an end that is not known is left out. -/
def toValue (l : Location) : Value :=
  .dict <|
    [("path", .str l.file), ("line", .int l.line), ("column", .int l.column)] ++
    (l.endLine.map fun i => ("end_line", .int i)).toList ++
    (l.endColumn.map fun i => ("end_column", .int i)).toList

/-- Two ends in order; a known and an unknown end have no order. -/
def compareEnds? : Option Int → Option Int → Option Ordering
  | none, none => some .eq
  | some a, some b => some (compare a b)
  | _, _ => none

/-- The order of locations, field by field; undefined when the first
difference is between a known and an unknown end. -/
def compare? (a b : Location) : Option Ordering :=
  let start := (compare a.file b.file).then <|
    (compare a.line b.line).then (compare a.column b.column)
  if start ≠ .eq then some start
  else
    match compareEnds? a.endLine b.endLine with
    | some .eq => compareEnds? a.endColumn b.endColumn
    | other => other

/-! ## How locations are shown -/

private def ofBound : Option Int → Value
  | none => .null
  | some i => .int i

/-- The fields with their names. -/
def fields (l : Location) : Table :=
  [("path", .str l.file), ("line", .int l.line), ("column", .int l.column),
    ("end_line", ofBound l.endLine), ("end_column", ofBound l.endColumn)]

/-- All fields, as messages about unusable input write them. -/
def spelled (l : Location) : String :=
  "SourceSpan(" ++
    ", ".intercalate (l.fields.map fun (name, v) => name ++ "=" ++ v.spelled) ++ ")"

end Location

end LayerLint
