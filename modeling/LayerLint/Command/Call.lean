import LayerLint.Command.Arguments
import LayerLint.Files
import LayerLint.Log
import LayerLint.Output
import LayerLint.Text.Digits

/-!
# Calls of the program

What the program is asked to do: to show its version or how it is used, to
check a descriptor document, or to show the graph behind it.  Files that a
call names have to be there before anything is done.
-/

namespace LayerLint.Command

/-- What `check` is called with. -/
structure CheckCall where
  descriptors : String
  config : Option String := none
  format : String := OutputFormat.overview.name
  cyclesOnly : Bool := false
  workers : Option Int := none
  verbose : Bool := false
  quiet : Bool := false
  deriving Repr

/-- What `graph` is called with. -/
structure GraphCall where
  descriptors : String
  config : Option String := none
  format : String := OutputFormat.overview.name
  verbose : Bool := false
  quiet : Bool := false
  deriving Repr

inductive Call where
  | help
  | version
  | check (c : CheckCall)
  | graph (c : GraphCall)
  deriving Repr

/-- The least serious level that is logged; little wins over much. -/
def logLevel (verbose quiet : Bool) : LogLevel :=
  if quiet then .error else if verbose then .debug else .warning

/-! ## Options -/

def helpOption : OptionName := { long := "--help" }

def programOptions : List OptionName := [{ long := "--version" }, helpOption]

def graphOptions : List OptionName :=
  [helpOption,
    { long := "--config", short := some 'c', takesValue := true },
    { long := "--format", short := some 'f', takesValue := true },
    { long := "--verbose", short := some 'v' },
    { long := "--quiet", short := some 'q' }]

def checkOptions : List OptionName :=
  graphOptions ++
    [{ long := "--fail-on-cycle-only" },
      { long := "--workers", short := some 'w', takesValue := true }]

/-! ## Operands and values -/

/-- The one operand that a call has. -/
def subject? (a : Arguments) : Option String :=
  match a.operands with
  | [path] => some path
  | _ => none

/-- A number of workers. -/
def workersOf (s : String) : Option Int :=
  match Text.readInt s with
  | .ok n => if 1 ≤ n ∧ n ≤ 32 then some n else none
  | .error _ => none

/-- An option that need not be given, but has to be good if it is. -/
def optional {α : Type} (read : String → Option α) (given : Option String) : Option (Option α) :=
  match given with
  | none => some none
  | some s => (read s).map some

def formatOf (a : Arguments) : String := (a.value? "--format").getD OutputFormat.overview.name

/-! ## Reading a call -/

def checkCall? (a : Arguments) : Option CheckCall := do
  return {
    descriptors := ← subject? a
    config := a.value? "--config"
    format := formatOf a
    cyclesOnly := a.has "--fail-on-cycle-only"
    workers := ← optional workersOf (a.value? "--workers")
    verbose := a.has "--verbose"
    quiet := a.has "--quiet" }

def graphCall? (a : Arguments) : Option GraphCall := do
  return {
    descriptors := ← subject? a
    config := a.value? "--config"
    format := formatOf a
    verbose := a.has "--verbose"
    quiet := a.has "--quiet" }

/-- A call of a command that exists; asking for help stands above all but a wrong
option. -/
def commandCall? (options : List OptionName) (read : Arguments → Option Call)
    (args : List String) : Option Call := do
  let a ← Arguments.read? options false args
  if a.has "--help" then some .help else read a

/-- The commands, each with the way its arguments are read. -/
def command? : String → Option (List String → Option Call)
  | "check" => some (commandCall? checkOptions fun a => (checkCall? a).map .check)
  | "graph" => some (commandCall? graphOptions fun a => (graphCall? a).map .graph)
  | _ => none

namespace Call

/-- The call in the arguments of the program.  Operands that begin with no
command may still ask for help. -/
def ofArguments? (args : List String) : Option Call := do
  let a ← Arguments.read? programOptions true args
  if a.has "--help" then some .help
  else
    match a.operands with
    | [] => some (if a.has "--version" then .version else .help)
    | name :: rest =>
      match command? name with
      | some command => if a.has "--version" then some .version else command rest
      | none =>
        let again ← Arguments.read? programOptions true a.operands
        if again.has "--help" then some .help else none

/-- The paths that a call names. -/
def paths : Call → List String
  | help | version => []
  | check c => c.descriptors :: c.config.toList
  | graph c => c.descriptors :: c.config.toList

/-- Every path that a call names leads to a file, as it is shown. -/
def filesExist (files : Files) (c : Call) : Bool :=
  c.paths.all fun path => (files (Path.shown path)).isFile

end Call

end LayerLint.Command
