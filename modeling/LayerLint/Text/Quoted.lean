import LayerLint.Text.Printable

/-!
# Quoted text

A text between quotes, as messages show a value.  The mark is the apostrophe
unless the text holds an apostrophe and no quotation mark.  The mark and the
backslash are escaped, line feed, carriage return and tabulator have letters,
and a character that is not printable is written by its number in two, four
or eight hexadecimal digits.
-/

namespace LayerLint.Text

/-- The last `width` hexadecimal digits of a number, in lower case. -/
def hexDigits : (width : Nat) → Nat → List Char
  | 0, _ => []
  | width + 1, n => hexDigits width (n / 16) ++ [Nat.digitChar (n % 16)]

/-- The mark that leaves the text with the fewest escapes. -/
def quoteMark (cs : List Char) : Char :=
  if cs.contains '\'' && !cs.contains '"' then '"' else '\''

/-- One character between quotes `mark`. -/
def quoteChar (mark c : Char) : List Char :=
  if c = mark ∨ c = '\\' then ['\\', c]
  else if c = '\n' then ['\\', 'n']
  else if c = '\r' then ['\\', 'r']
  else if c = '\t' then ['\\', 't']
  else if isPrintable c then [c]
  else if c.toNat < 0x100 then ['\\', 'x'] ++ hexDigits 2 c.toNat
  else if c.toNat < 0x10000 then ['\\', 'u'] ++ hexDigits 4 c.toNat
  else ['\\', 'U'] ++ hexDigits 8 c.toNat

def quote (s : String) : String :=
  let mark := quoteMark s.toList
  String.ofList (mark :: s.toList.flatMap (quoteChar mark) ++ [mark])

example : quote "a\\b\n\u0085é" = "'a\\\\b\\n\\x85é'" := by decide +kernel
example : quote "it's" = "\"it's\"" := by decide +kernel

end LayerLint.Text
