import LayerLint.Config.Basic
import LayerLint.Text.Digits

/-!
# Where a configuration comes from

Five sources may each define some of the fields: the file in the home
directory, the project's file, a file named on purpose, the environment, and
overrides.  Later sources win field by field.

In a file the table `layers` is another name for the segments of the layers.
An override of null defines nothing, and two overrides are words for levels
of logging: a true `verbose` asks for much and a true `quiet`, which wins,
for little.
-/

namespace LayerLint.Config

/-! ## Files -/

/-- A file's table with `layers` under its proper name. -/
def ofFileTable (t : Table) : Table :=
  match t.lookup "layers" with
  | some v => Table.set Field.layerSegments.name v (Table.erase "layers" t)
  | none => t

/-- The table under `tool.layerguard`; a file without it defines nothing. -/
def toolSection (t : Table) : Except Fault Table := do
  let tool := (t.lookup "tool").getD (.dict [])
  let .dict tools := tool | throw (.ofSetting "tool.layerguard" tool "expected a table")
  let own := (tools.lookup "layerguard").getD (.dict [])
  let .dict fields := own | throw (.ofSetting "tool.layerguard" own "expected a table")
  return fields

/-! ## Environment -/

def variableName (f : Field) : String :=
  "LAYERGUARD_" ++ String.ofList (f.name.toList.map Char.toUpper)

/-- Why a text is not a value of a field's shape. -/
def countOf (text : String) : Except String Value :=
  match Text.readInt text with
  | .ok i => .ok (.int i)
  | .error (.tooManyDigits count) => .error (Fault.tooManyDigits count).message
  | .error .malformed =>
    .error ("invalid literal for int() with base 10: " ++
      String.ofList ((Text.quote text).toList.take 200))

def flagOf (text : String) : Except String Value :=
  let word := Text.lower text
  if ["true", "1", "yes", "on"].contains word then .ok (.bool true)
  else if ["false", "0", "no", "off"].contains word then .ok (.bool false)
  else .error ("expected true/false, got '" ++ text ++ "'")

/-- The items between commas, without blanks around them; blank ones are dropped. -/
def listOf (text : String) : Value :=
  .list (((Text.split ',' text).map Text.strip).filter (· ≠ "") |>.map .str)

/-- What a variable's text says about its field; `none` when it cannot say anything. -/
def ofVariable (f : Field) (text : String) : Except String (Option Value) :=
  match f.shape with
  | .table => .ok none
  | .list => .ok (some (listOf text))
  | .flag => (flagOf text).map some
  | .count => (countOf text).map some
  | .word => .ok (some (.str text))

/-- The fields that the environment defines. -/
def ofEnvironment (environment : String → Option String) : Except Fault Table := do
  let entries ← Field.all.mapM fun f =>
    match environment (variableName f) with
    | none => pure none
    | some text =>
      match ofVariable f text with
      | .ok v => pure (v.map fun v => (f.name, v))
      | .error reason =>
        throw (Fault.badConfiguration ("Invalid " ++ variableName f ++ ": " ++ reason))
  return entries.filterMap id

/-! ## Overrides -/

/-- A true flag stands for a level of logging; the flag itself is no field. -/
def levelOverride (flag level : String) (t : Table) : Table :=
  match t.lookup flag with
  | none => t
  | some v =>
    let t := if v.isTruthy then Table.set Field.verbosity.name (.str level) t else t
    Table.erase flag t

/-- The fields that overrides define. -/
def ofOverrides (t : Table) : Table :=
  (levelOverride "quiet" "quiet" (levelOverride "verbose" "verbose" t)).filter
    fun (_, v) => !v.isNull

/-! ## All sources together -/

/-- What each source defines. -/
structure Sources where
  global : Table := []
  project : Table := []
  explicit : Table := []
  environment : Table := []
  overrides : Table := []

/-- Sources from the weakest to the strongest. -/
def Sources.toList (s : Sources) : List Table :=
  [s.global, s.project, s.explicit, s.environment, s.overrides]

def Sources.merge (s : Sources) : Table := s.toList.foldl Table.update []

/-- A value of a kind that a field has no use for, rather than one that it refuses. -/
def isMismatch : Fault → Bool
  | .unknownField _ | .notIterable _ | .notOrdered _ => true
  | _ => false

/-- The configuration that the sources make together. -/
def ofSources (s : Sources) : Except Fault Config :=
  match ofTable s.merge with
  | .ok c => .ok c
  | .error f =>
    if isMismatch f then
      .error (Fault.badConfiguration ("Invalid configuration: " ++ f.message))
    else .error f

end LayerLint.Config
