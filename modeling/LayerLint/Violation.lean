import LayerLint.Layer
import LayerLint.Location

/-!
# Violations

A violation is one breach of the architecture at one place: an import that
the layer policy forbids, an import that reaches into another layer's
implementation, or a cycle of imports.  Its modules are the two ends of
the import, or the members of the cycle from the smallest on.
-/

namespace LayerLint

/-- A module's canonical path, or the id of an external package. -/
abbrev ModuleId := String

/-! ## What is reported, and how seriously -/

inductive ViolationKind where
  | layer
  | cycle
  | boundary
  deriving DecidableEq, Repr

namespace ViolationKind

def name : ViolationKind → String
  | layer => "layer_violation"
  | cycle => "circular_dependency"
  | boundary => "boundary_crossing"

/-- The short word for the kind in summaries. -/
def label : ViolationKind → String
  | layer => "layer"
  | cycle => "cycle"
  | boundary => "boundary"

def all : List ViolationKind := [layer, cycle, boundary]

def ofName? (s : String) : Option ViolationKind := all.find? (·.name == s)

end ViolationKind

/-- How serious a violation is; `none` switches its kind off. -/
inductive Severity where
  | none
  | info
  | warning
  | error
  deriving DecidableEq, Repr

namespace Severity

def name : Severity → String
  | none => "none"
  | info => "info"
  | warning => "warning"
  | error => "error"

/-- The words for a severity in a configuration. -/
def words : List (String × Severity) :=
  [("none", none), ("disabled", none), ("off", none), ("info", info), ("hint", info),
    ("warning", warning), ("warn", warning), ("error", error)]

def ofText? (s : String) : Option Severity := words.lookup (Text.lower (Text.strip s))

end Severity

/-- The checks that can be switched on. -/
inductive Check where
  | layering
  | boundary
  | cycles
  deriving DecidableEq, Repr

namespace Check

def name : Check → String
  | layering => "layering"
  | boundary => "boundary"
  | cycles => "cycles"

def all : List Check := [layering, boundary, cycles]

def ofText? (s : String) : Option Check := all.find? (·.name == Text.lower (Text.strip s))

/-- The kind of violation that a check looks for. -/
def kind : Check → ViolationKind
  | layering => .layer
  | boundary => .boundary
  | cycles => .cycle

end Check

/-! ## Violations -/

structure Violation where
  kind : ViolationKind
  modules : List ModuleId
  location : Location
  message : String
  suggestion : String := ""
  severity : Severity := .error
  deriving DecidableEq, Repr

namespace Violation

/-- Two violations with one key report the same breach. -/
structure Key where
  kind : ViolationKind
  modules : List ModuleId
  location : Location
  deriving DecidableEq, Repr

def key (v : Violation) : Key := ⟨v.kind, v.modules, v.location⟩

/-- The first violation with each key that is not yet among `seen`. -/
def firsts (seen : List Key) : List Violation → List Violation
  | [] => []
  | v :: rest => if seen.contains v.key then firsts seen rest else v :: firsts (v.key :: seen) rest

/-- The order of reports: by place, then by kind, modules and message. -/
def order : Violation → Violation → Ordering :=
  compareLex (compareOn (·.location.file)) <|
  compareLex (compareOn (·.location.line)) <|
  compareLex (compareOn (·.location.column)) <|
  compareLex (compareOn (·.kind.name)) <|
  compareLex (compareOn (·.modules)) (compareOn (·.message))

def withSeverity (s : Severity) (v : Violation) : Violation := { v with severity := s }

/-- The violation as a document. -/
def toValue (v : Violation) : Value :=
  .dict [
    ("kind", .str v.kind.name),
    ("severity", .str v.severity.name),
    ("path", .list (v.modules.map .str)),
    ("location", v.location.toValue),
    ("message", .str v.message),
    ("suggestion", .str v.suggestion)]

end Violation

end LayerLint
