import LayerLint.Output.Annotations
import LayerLint.Output.Brief
import LayerLint.Output.Document
import LayerLint.Output.Overview

/-!
# Output formats

A result can be written in four ways: for people at a terminal, as a
document, as annotations, and as a brief list of places.  A format decides
about the text alone and never about what was found.
-/

namespace LayerLint

inductive OutputFormat where
  | overview
  | document
  | annotations
  | brief
  deriving DecidableEq, Repr

namespace OutputFormat

/-- The name under which a format is asked for. -/
def name : OutputFormat → String
  | overview => "rich"
  | document => "json"
  | annotations => "github"
  | brief => "quiet"

def all : List OutputFormat := [overview, document, annotations, brief]

def ofName? (s : String) : Option OutputFormat := all.find? (·.name == s)

/-- The format that a value names. -/
def ofValue (v : Value) : Except Fault OutputFormat :=
  match v.str?.bind ofName? with
  | some f => .ok f
  | none => .error (.unknownFormat v)

/-- The text of a result; the overview alone may fail to be drawn. -/
def text (f : OutputFormat) (r : Result) : Except Fault String :=
  match f with
  | overview => (Overview.printout r).whole
  | document => .ok r.document
  | annotations => .ok <| Annotation.text r.violations
  | brief => .ok <| Brief.text r.violations

/-- A text with an end to its last line; no text stays no text. -/
def endLine (s : String) : String := if s = "" then "" else s ++ "\n"

/-- What is printed of a result; an overview ends its lines itself. -/
def printout (f : OutputFormat) (r : Result) : Printout :=
  match f with
  | overview => Overview.printout r
  | document => .ofText <| endLine r.document
  | annotations => .ofText <| endLine <| Annotation.text r.violations
  | brief => .ofText <| endLine <| Brief.text r.violations

end OutputFormat

end LayerLint
