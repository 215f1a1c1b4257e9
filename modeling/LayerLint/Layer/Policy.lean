import Std.Data.ExtTreeMap
import Std.Data.ExtTreeSet
import LayerLint.Fault.Showing
import LayerLint.Layer

/-!
# Layer policies

A policy says which layer may import which.  Its table lists pairs of layers
that are allowed or forbidden; a pair that is not listed is allowed.  A layer
may always import itself, and an import that touches an exempt layer is never
judged, because nothing is known about outside packages and modules that no
layer claims.

Later rows for a pair replace earlier ones, so merging two policies lays the
rows of the second over those of the first.
-/

namespace LayerLint

open Std (ExtTreeMap ExtTreeSet)

/-- A row of a policy: may modules of `source` import modules of `target`? -/
structure PolicyRow where
  source : String
  target : String
  allowed : Bool
  deriving DecidableEq, Repr

/-- Pairs of layers in the order of reports. -/
def layerPairOrder : LayerName × LayerName → LayerName × LayerName → Ordering :=
  compareLex (compareOn Prod.fst) (compareOn Prod.snd)

instance : Std.TransCmp layerPairOrder :=
  inferInstanceAs (Std.TransCmp (compareLex (compareOn Prod.fst) (compareOn Prod.snd)))

instance : Std.LawfulEqCmp layerPairOrder where
  eq_of_compare {a b} h := by
    obtain ⟨a₁, a₂⟩ := a
    obtain ⟨b₁, b₂⟩ := b
    simp only [layerPairOrder, compareLex, compareOn, Ordering.then_eq_eq,
      Std.compare_eq_iff_eq] at h
    rw [h.1, h.2]

structure LayerPolicy where
  rows : ExtTreeMap (LayerName × LayerName) Bool layerPairOrder
  exempt : ExtTreeSet LayerName

namespace LayerPolicy

/-- The layers that are exempt unless a policy says otherwise. -/
def defaultExempt : List String := [Layer.external, Layer.unknown]

/-- The policy with one row added or replaced. -/
def withRow (p : LayerPolicy) (row : PolicyRow) : LayerPolicy :=
  let key := (Layer.normalize row.source, Layer.normalize row.target)
  { p with rows := p.rows.insert key row.allowed }

/-- The policy of a list of rows, of which the last one for a pair counts. -/
def ofRows (rows : List PolicyRow) (exempt : List String) : LayerPolicy :=
  rows.foldl withRow ⟨∅, ExtTreeSet.ofList (exempt.map Layer.normalize)⟩

/-- The rows by layer names. -/
def toRows (p : LayerPolicy) : List PolicyRow :=
  p.rows.toList.map fun ((source, target), allowed) => ⟨source, target, allowed⟩

/-- The layers that the table mentions. -/
def layers (p : LayerPolicy) : List LayerName :=
  (ExtTreeSet.ofList (p.rows.keys.flatMap fun (source, target) => [source, target])).toList

def isExempt (p : LayerPolicy) (layer : String) : Bool := p.exempt.contains (Layer.normalize layer)

/-- May a module of the first layer import a module of the second? -/
def allows (p : LayerPolicy) (source target : String) : Bool :=
  let source := Layer.normalize source
  let target := Layer.normalize target
  source == target || p.exempt.contains source || p.exempt.contains target ||
    p.rows.getD (source, target) true

/-- The rows of `other` laid over those of `p`. -/
def merge (p other : LayerPolicy) : LayerPolicy := other.toRows.foldl withRow p

/-- The rows of the built-in policy: imports point inward to the domain. -/
def defaultRows : List PolicyRow := [
  ⟨Layer.presentation, Layer.domain, true⟩,
  ⟨Layer.data, Layer.domain, true⟩,
  ⟨Layer.domain, Layer.presentation, false⟩,
  ⟨Layer.domain, Layer.data, false⟩,
  ⟨Layer.presentation, Layer.data, false⟩,
  ⟨Layer.data, Layer.presentation, false⟩]

def default : LayerPolicy := ofRows defaultRows defaultExempt

/-- A one-line description. -/
def description (p : LayerPolicy) : String :=
  "LayerPolicy(entries=" ++ toString p.rows.size ++ ", exempt=" ++
    (Value.list (p.exempt.toList.map .str)).spelled ++ ")"

/-! ## From configuration values -/

/-- One entry of a policy table: the target must be told to be allowed or not in so many
words. -/
def rowOfEntry (source : String) (entry : String × Value) : Except Fault PolicyRow :=
  match entry.2 with
  | .bool allowed => .ok ⟨source, entry.1, allowed⟩
  | other =>
    .error (.ofSetting ("policy." ++ source ++ "." ++ entry.1) other "expected true or false")

/-- The rows of one source layer. -/
def rowsOfEntry (entry : String × Value) : Except Fault (List PolicyRow) :=
  match entry.2 with
  | .dict targets => targets.mapM (rowOfEntry entry.1)
  | other =>
    .error (.ofSetting ("policy." ++ entry.1) other "expected a table of layer = true/false")

/-- The rows of a table of tables, in document order. -/
def rowsOfTable (table : Table) : Except Fault (List PolicyRow) := do
  return (← table.mapM rowsOfEntry).flatten

/-- The layer that an item of a list names. -/
def exemptName (v : Value) : Except Fault String :=
  match v.unshowable? with
  | some f => .error f
  | none => .ok (Layer.nameText v)

/-- The exempt layers that a value lists; no value leaves the default. -/
def exemptOfValue (v : Value) : Except Fault (List String) :=
  match v with
  | .null => .ok defaultExempt
  | v =>
    match v.items? with
    | some items => items.mapM exemptName
    | none => .error (.notIterable v.fullKindName)

end LayerPolicy

end LayerLint
