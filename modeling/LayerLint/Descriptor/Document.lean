import LayerLint.Descriptor
import LayerLint.Files
import LayerLint.Json.Parser
import LayerLint.Log
import LayerLint.Path.Parts

/-!
# Descriptor documents

A document lists modules, either bare or under the key `modules`.  A module
needs a path that is not blank; a layer and a list of imports are optional.
An import needs a target; one without a line is taken over without a place,
and one with a line needs whole numbers from one on for line and column.

Whatever does not fit is left out with a warning.  Only a document that lists
no modules at all, and a file that cannot be read, are faults.
-/

namespace LayerLint.Document

/-- A whole number from one on. -/
def position? : Value → Option Int
  | .int i => if 1 ≤ i then some i else none
  | _ => none

/-- What reading one part of a document yields, with the warnings about it. -/
abbrev Noted (α : Type) := Option α × List String

/-- The place of an import with a line. -/
def placeOf (path : String) (raw : Value) (line column : Value) : Option Location := do
  return {
    file := path
    line := ← position? line
    column := ← position? column
    endLine := position? (raw.field "end_line")
    endColumn := position? (raw.field "end_column") }

/-- One import of the module `path`, counted from one. -/
def importOf (path : String) (number : Nat) (raw : Value) : Noted ImportItem :=
  let skip (why : String) : Noted ImportItem :=
    (none, [path ++ ": skipping import #" ++ toString number ++ ": " ++ why])
  if raw.dict?.isNone then skip "expected an object"
  else
    match raw.field "target" with
    | .str target =>
      if Text.isBlankText target then skip "missing 'target'"
      else
        let line := raw.field "line"
        let column := (raw.get? "column").getD (.int 1)
        if line.isNull then (some (.record (.str target) (.other .null)), [])
        else
          match placeOf path raw line column with
          | some location => (some (.record (.str target) (.at location)), [])
          | none =>
            skip ("invalid position line=" ++ line.spelled ++ " column=" ++ column.spelled)
    | _ => skip "missing 'target'"

/-- The parts that could be read, in order, with all warnings. -/
def gather {α : Type} (parts : List (Noted α)) : List α × List String :=
  (parts.filterMap (·.1), parts.flatMap (·.2))

def importsOf (path : String) (raws : List Value) : List ImportItem × List String :=
  gather (raws.mapIdx fun i raw => importOf path (i + 1) raw)

/-- The layer of a module; what is no text is ignored. -/
def layerOf (path : String) (raw : Value) : Value × List String :=
  match raw.field "layer" with
  | .null => (.null, [])
  | .str s => (.str s, [])
  | other => (.null, [path ++ ": ignoring non-string layer " ++ other.spelled])

/-- One module, counted from one. -/
def moduleOf (number : Nat) (raw : Value) : Noted Descriptor :=
  let skip (why : String) : Noted Descriptor :=
    (none, ["Skipping module #" ++ toString number ++ ": " ++ why])
  if raw.dict?.isNone then skip ("expected an object, got " ++ raw.kindName)
  else
    match raw.field "path" with
    | .str path =>
      if Text.isBlankText path then skip "missing 'path'"
      else
        let (layer, ignored) := layerOf path raw
        match (raw.get? "imports").getD (.list []) with
        | .list raws =>
          let (imports, skipped) := importsOf path raws
          (some { path := .str path, imports := .items imports, layer := layer },
            ignored ++ skipped)
        | _ => (none, ignored ++ ["Skipping module " ++ path ++ ": 'imports' must be a list"])
    | _ => skip "missing 'path'"

/-- The modules that a document lists. -/
def modulesOf (label : String) (document : Value) : Except Fault (List Value) :=
  let listed :=
    match document with
    | .dict _ => document.get? "modules"
    | other => some other
  match listed with
  | none => .error (.descriptors label "expected a 'modules' list" none)
  | some (.list raws) => .ok raws
  | some other =>
    .error (.descriptors label ("expected a list of modules, got " ++ other.kindName) none)

/-- What a document describes, with what was noted on the way. -/
structure Loaded where
  descriptors : List Descriptor
  log : Log

/-- The descriptors in a document that is known as `label`. -/
def load (label : String) (document : Value) : Except Fault Loaded := do
  let raws ← modulesOf label document
  let (descriptors, warnings) := gather (raws.mapIdx fun i raw => moduleOf (i + 1) raw)
  return {
    descriptors := descriptors
    log := warnings.map (⟨.warning, ·⟩) ++
      [⟨.debug, "Loaded " ++ toString descriptors.length ++ " of " ++ toString raws.length ++
        " module descriptors from " ++ label⟩] }

/-! ## Files -/

/-- The document in a file. -/
def read (files : Files) (path : String) : Except Fault Value :=
  let shown := Path.shown path
  let refuse (reason : String) : Except Fault Value := .error (.descriptors shown reason none)
  if shown.toList.contains '\x00' then .error .nullInPath
  else
    match files shown with
    | .missing => refuse "file not found"
    | state =>
      match state.text shown with
      | .error problem => refuse problem
      | .ok cs =>
        match Json.parse cs with
        | .ok v => .ok v
        | .error .malformed => refuse "invalid JSON: malformed document"
        | .error (.tooManyDigits n) => .error (.tooManyDigits n)
        | .error (.tooDeep part) =>
          .error (.tooDeep ("decoding a JSON " ++ part ++ " from a unicode string"))

/-- The descriptors in a file that is known as `label`. -/
def loadFile (files : Files) (label path : String) : Except Fault Loaded := do
  load label (← read files path)

end LayerLint.Document
