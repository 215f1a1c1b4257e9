import LayerLint.Text.Blank
import LayerLint.Text.Case
import LayerLint.Text.Split
import LayerLint.Value

/-!
# Layers

A layer is known by a plain lower-case name.  Five names are built in; a
project may use any others.  Every name that comes from outside is normalised
before it is compared, so ` Domain ` and `domain` are one layer, and a name
that is nothing but blanks is the unknown layer.
-/

namespace LayerLint

/-- A normalised layer name. -/
abbrev LayerName := String

namespace Layer

def domain : LayerName := "domain"
def data : LayerName := "data"
def presentation : LayerName := "presentation"

/-- The layer of packages from outside the project. -/
def external : LayerName := "external"

/-- The layer of modules that nothing classifies. -/
def unknown : LayerName := "unknown"

/-- The plain form of a layer name. -/
def normalize (name : String) : LayerName :=
  let plain := Text.lower (Text.strip name)
  if plain = "" then unknown else plain

/-- The layer name in a value; no value is the blank name, which is the unknown layer. -/
def nameText : Value → String
  | .null => ""
  | v => v.text

/-- The layer that a value names, provided that the value can be shown. -/
def ofValue (v : Value) : LayerName := normalize (nameText v)

/-- A layer name as messages write it: words with capitals. -/
def titleOf (name : String) : String :=
  Text.title (Text.replaceChar '_' ' ' (normalize name))

example : normalize "  Use_Cases " = "use_cases" ∧ normalize " " = unknown := by decide +kernel
example : titleOf "use_cases" = "Use Cases" := by decide +kernel

end Layer

end LayerLint
