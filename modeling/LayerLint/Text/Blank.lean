import LayerLint.Text.Ranges

/-!
# Blank characters

White space in the sense of the Unicode bidirectional classes and the
property `White_Space` together: the four information separators count,
zero-width characters do not.  `strip` removes blanks at both ends and leaves
the inside alone.
-/

namespace LayerLint.Text

/-- The blank characters. -/
def blankRanges : RangeTable := [
  (0x9, 0xD), (0x1C, 0x20), (0x85, 0x85), (0xA0, 0xA0), (0x1680, 0x1680), (0x2000, 0x200A),
  (0x2028, 0x2029), (0x202F, 0x202F), (0x205F, 0x205F), (0x3000, 0x3000)]

def isBlank (c : Char) : Bool := blankRanges.holds c

/-- A text without its leading and trailing blanks. -/
def stripChars (cs : List Char) : List Char :=
  (((cs.dropWhile isBlank).reverse).dropWhile isBlank).reverse

def strip (s : String) : String := String.ofList (stripChars s.toList)

/-- Nothing is left of the text once its blanks are removed. -/
def isBlankText (s : String) : Bool := s.toList.all isBlank

example : strip "\u001c a b\u00a0\n" = "a b" := by decide +kernel
example : strip "\u200bx" = "\u200bx" := by decide +kernel

end LayerLint.Text
