import LayerLint.Analysis

/-!
# Annotations

One line for each violation, to be read by a service that shows it beside
the import: a level, the place and a title as properties, and the message with
the suggestion as its second line.

A line has room for neither line ends nor the marks between its parts, so
these are written as a percent sign and two hexadecimal digits.  Numbers are
written in full, however long they are.
-/

namespace LayerLint.Annotation

/-- A message in one line.  Percent signs come first, because every mark has one of its
own. -/
def escapeData (s : String) : String :=
  Text.spellOut '\n' "%0A" (Text.spellOut '\r' "%0D" (Text.spellOut '%' "%25" s))

/-- A property, which also has to keep away from the marks behind it. -/
def escapeProperty (s : String) : String :=
  Text.spellOut ',' "%2C" (Text.spellOut ':' "%3A" (escapeData s))

/-- The level of an annotation. -/
def level : Severity → String
  | .error => "error"
  | .info => "notice"
  | .warning | .none => "warning"

/-- The message of a violation, and its suggestion on a line of its own. -/
def body (v : Violation) : String :=
  if v.suggestion = "" then v.message else v.message ++ "\n" ++ v.suggestion

/-- The annotation of a violation. -/
def line (v : Violation) : String :=
  "::" ++ level v.severity ++ " file=" ++ escapeProperty v.location.file ++
    ",line=" ++ toString v.location.line ++ ",col=" ++ toString v.location.column ++
    ",title=" ++ escapeProperty (Layer.titleOf v.kind.name) ++ "::" ++ escapeData (body v)

/-- The annotations of all violations, with line ends between them. -/
def text (vs : List Violation) : String := "\n".intercalate (vs.map line)

end LayerLint.Annotation
