import LayerLint.Text.Split

/-!
# Arguments of a command

Options have a long name behind two dashes and may have a short one of a
single letter.  An option with a value takes it from the same argument or
from the next one, whatever that looks like; one without a value is a flag,
and several short flags may share a dash.  Everything else is an operand, and
so is all that stands behind two dashes alone.
-/

namespace LayerLint.Command

/-- An option that a command knows. -/
structure OptionName where
  /-- The long name, with its dashes. -/
  long : String
  short : Option Char := none
  takesValue : Bool := false

/-- An option that is given, by its long name; the value of a flag is empty. -/
abbrev Setting := String × String

/-- What one argument says. -/
structure Token where
  settings : List Setting
  /-- The option whose value is the next argument. -/
  pending : Option String := none

/-- Options behind a single dash. -/
def shortToken? (known : List OptionName) : List Char → Option Token
  | [] => some ⟨[], none⟩
  | c :: rest =>
    match known.find? (·.short = some c) with
    | none => none
    | some o =>
      if !o.takesValue then
        (shortToken? known rest).map fun t => { t with settings := (o.long, "") :: t.settings }
      else if rest = [] then some ⟨[], some o.long⟩
      else some ⟨[(o.long, String.ofList rest)], none⟩

/-- An argument that starts with a dash. -/
def token? (known : List OptionName) (arg : String) : Option Token :=
  match known.find? (·.long = Text.beforeFirst '=' arg) with
  | some o =>
    match o.takesValue, Text.contains "=" arg with
    | true, true => some ⟨[(o.long, Text.afterFirst '=' arg)], none⟩
    | true, false => some ⟨[], some o.long⟩
    | false, true => none
    | false, false => some ⟨[(o.long, "")], none⟩
  | none => if Text.startsWith "--" arg then none else shortToken? known (arg.toList.drop 1)

/-- Options and operands. -/
structure Arguments where
  settings : List Setting := []
  operands : List String := []

namespace Arguments

def withSettings (settings : List Setting) (a : Arguments) : Arguments :=
  { a with settings := settings ++ a.settings }

def isOption (arg : String) : Bool := Text.startsWith "-" arg && arg ≠ "-"

/-- Reads arguments; with `leading`, options only stand in front of the first operand. -/
def read? (known : List OptionName) (leading : Bool) : List String → Option Arguments
  | [] => some {}
  | arg :: rest =>
    if arg = "--" then some { operands := rest }
    else if isOption arg then
      match token? known arg with
      | none => none
      | some ⟨settings, none⟩ => (read? known leading rest).map (withSettings settings)
      | some ⟨settings, some name⟩ =>
        match rest with
        | [] => none
        | value :: rest =>
          (read? known leading rest).map (withSettings (settings ++ [(name, value)]))
    else if leading then some { operands := arg :: rest }
    else (read? known leading rest).map fun a => { a with operands := arg :: a.operands }

/-- The option is given. -/
def has (a : Arguments) (name : String) : Bool := (a.settings.lookup name).isSome

/-- The value of an option; of several the last one counts. -/
def value? (a : Arguments) (name : String) : Option String := a.settings.reverse.lookup name

end Arguments

end LayerLint.Command
