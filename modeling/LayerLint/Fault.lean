import LayerLint.Value

/-!
# Faults

Everything that can stop an operation, by cause.  The first group are the
program's own refusals, with a message for whoever runs it; the second group
are values that a name does not fit; the third are values of a kind that an
operation has no use for.
-/

namespace LayerLint

/-- The families of the program's own faults. -/
inductive FaultFamily where
  | base
  | configuration
  | analysis
  | setting
  | path
  | descriptors
  | graph
  deriving DecidableEq, Repr

namespace FaultFamily

def name : FaultFamily → String
  | base => "LayerguardError"
  | configuration => "ConfigurationError"
  | analysis => "AnalysisError"
  | setting => "InvalidConfigError"
  | path => "InvalidPathError"
  | descriptors => "DescriptorError"
  | graph => "GraphStateError"

/-- A family with all that it belongs to, the nearest first. -/
def lineage : FaultFamily → List FaultFamily
  | base => [base]
  | configuration => [configuration, base]
  | analysis => [analysis, base]
  | setting => [setting, configuration, base]
  | path => [path, configuration, base]
  | descriptors => [descriptors, analysis, base]
  | graph => [graph, analysis, base]

end FaultFamily

inductive Fault where
  /-- A fault in words, with details by name. -/
  | general (family : FaultFamily) (message : String) (details : Table)
  /-- A setting with a value that it cannot have. -/
  | setting (key : String) (value : Value) (reason : String)
  /-- A path from outside that leads nowhere. -/
  | path (path reason : String)
  /-- A descriptor document that cannot be read at all. -/
  | descriptors (source reason : String) (index : Option Int)
  /-- A graph that is not in the state an operation needs. -/
  | graph (subject reason : String)
  /-- A text that names no severity. -/
  | unknownSeverity (text : String)
  /-- A value that names no check. -/
  | unknownCheck (value : Value)
  /-- A value that names no output format. -/
  | unknownFormat (value : Value)
  /-- Fewer than one worker. -/
  | tooFewWorkers
  /-- A number with more digits than are read. -/
  | tooManyDigits (count : Nat)
  /-- A whole number in a message with more digits than are written. -/
  | tooLongToShow
  /-- Something within too many others; `work` is what was being done with it. -/
  | tooDeep (work : String)
  /-- A path with a null character, which leads to no file. -/
  | nullInPath
  /-- A path that is longer than paths may be, or has such a component. -/
  | pathTooLong (path : String)
  /-- Nothing tells where the home directory is. -/
  | noHome
  /-- A field that the configuration does not have; one name is kept for the
  configuration itself. -/
  | unknownField (name : String)
  /-- A value of this kind cannot be gone through. -/
  | notIterable (kind : String)
  /-- A value of this kind has no order with numbers. -/
  | notOrdered (kind : String)
  /-- A value of this kind does not know this operation. -/
  | noOperation (kind operation : String)
  /-- A key that a table does not have. -/
  | noKey (key : String)
  /-- A position that something of this kind does not have. -/
  | outOfRange (kind : String)
  deriving Repr, Inhabited

namespace Fault

/-- A configuration that is no configuration, in words. -/
def badConfiguration (message : String) : Fault := .general .base message []

/-- The family of the program's own faults; the others have none. -/
def family? : Fault → Option FaultFamily
  | general family _ _ => some family
  | setting .. => some .setting
  | path .. => some .path
  | descriptors .. => some .descriptors
  | graph .. => some .graph
  | _ => none

/-- What went wrong, without the details. -/
def headline : Fault → String
  | general _ message _ => message
  | setting key value _ => "Invalid configuration for " ++ key ++ ": " ++ value.text
  | path p _ => "Invalid path: " ++ p
  | descriptors source _ _ => "Cannot read module descriptors from " ++ source
  | graph subject _ => "Inconsistent graph state for " ++ subject
  | unknownSeverity text =>
    "unknown severity " ++ Text.quote text ++ "; expected one of none, info, warning, error"
  | unknownCheck value =>
    "unknown check " ++ value.spelled ++ "; expected one of layering, boundary, cycles"
  | unknownFormat value =>
    "Unknown formatter: " ++ value.spelled ++ ". Choose from: github, json, quiet, rich"
  | tooFewWorkers => "workers must be at least 1"
  | tooManyDigits count =>
    "Exceeds the limit (4300 digits) for integer string conversion: value has " ++
      toString count ++ " digits; use sys.set_int_max_str_digits() to increase the limit"
  | tooLongToShow =>
    "Exceeds the limit (4300 digits) for integer string conversion; " ++
      "use sys.set_int_max_str_digits() to increase the limit"
  | tooDeep work => "maximum recursion depth exceeded while " ++ work
  | nullInPath => "embedded null byte"
  | pathTooLong p => "[Errno 36] File name too long: " ++ Text.quote p
  | noHome => "Could not determine home directory."
  | unknownField name =>
    if name = "self" then "LinterConfig.__init__() got multiple values for argument 'self'"
    else "LinterConfig.__init__() got an unexpected keyword argument '" ++ name ++ "'"
  | notIterable kind => "'" ++ kind ++ "' object is not iterable"
  | notOrdered kind => "'<' not supported between instances of '" ++ kind ++ "' and 'int'"
  | noOperation kind operation =>
    "'" ++ kind ++ "' object has no attribute '" ++ operation ++ "'"
  | noKey key => Text.quote key
  | outOfRange kind => kind ++ " index out of range"

/-- The details of a fault, by name. -/
def details : Fault → Table
  | general _ _ details => details
  | setting key value reason =>
    [("key", .str key), ("value", .str value.text), ("reason", .str reason)]
  | path p reason => [("path", .str p), ("reason", .str reason)]
  | descriptors source reason index =>
    [("source", .str source), ("reason", .str reason)] ++
      (index.map fun i => ("index", .str (toString i))).toList
  | graph subject reason => [("module", .str subject), ("reason", .str reason)]
  | _ => []

/-- A headline with details in parentheses behind it. -/
def withDetails (headline : String) (details : Table) : String :=
  if details.isEmpty then headline
  else headline ++ " (" ++ ", ".intercalate (details.map fun (k, v) => k ++ "=" ++ v.text) ++ ")"

/-- The whole message. -/
def message (f : Fault) : String := withDetails f.headline f.details

end Fault

end LayerLint
