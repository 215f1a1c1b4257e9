import LayerLint.Text.Blank

/-!
# Numbers in text

Decimal digits come in blocks of ten, one block per script.  A whole number
is written with digits of any script, a sign in front, blanks around it, and
single underscores between digits.  Hexadecimal digits are of one script only.
-/

namespace LayerLint.Text

/-- The zero of every block of decimal digits. -/
def digitZeros : List Nat := [
  0x30, 0x660, 0x6F0, 0x7C0, 0x966, 0x9E6, 0xA66, 0xAE6, 0xB66, 0xBE6, 0xC66, 0xCE6, 0xD66, 0xDE6,
  0xE50, 0xED0, 0xF20, 0x1040, 0x1090, 0x17E0, 0x1810, 0x1946, 0x19D0, 0x1A80, 0x1A90, 0x1B50,
  0x1BB0, 0x1C40, 0x1C50, 0xA620, 0xA8D0, 0xA900, 0xA9D0, 0xA9F0, 0xAA50, 0xABF0, 0xFF10, 0x104A0,
  0x10D30, 0x11066, 0x110F0, 0x11136, 0x111D0, 0x112F0, 0x11450, 0x114D0, 0x11650, 0x116C0,
  0x11730, 0x118E0, 0x11950, 0x11C50, 0x11D50, 0x11DA0, 0x16A60, 0x16AC0, 0x16B50, 0x1D7CE,
  0x1D7D8, 0x1D7E2, 0x1D7EC, 0x1D7F6, 0x1E140, 0x1E2F0, 0x1E950, 0x1FBF0]

/-- The largest number of digits of a number that is read. -/
def maxDigits : Nat := 4300

/-- The value of a decimal digit. -/
def digitValue? (c : Char) : Option Nat :=
  (digitZeros.find? fun first => first ≤ c.toNat && c.toNat < first + 10).map (c.toNat - ·)

/-- The digits of a number, with an underscore allowed between two of them. -/
def digitsOf? : List Char → Option (List Nat)
  | [] => none
  | [c] => (digitValue? c).map ([·])
  | c :: '_' :: rest => do return (← digitValue? c) :: (← digitsOf? rest)
  | c :: d :: rest => do return (← digitValue? c) :: (← digitsOf? (d :: rest))

/-- A blank that may stand around a number; the four information separators may not. -/
def isNumberBlank (c : Char) : Bool := isBlank c && !(0x1C ≤ c.toNat && c.toNat ≤ 0x1F)

def natOfDigits (digits : List Nat) : Nat := digits.foldl (fun n d => 10 * n + d) 0

def intOfDigits (negative : Bool) (digits : List Nat) : Int :=
  if negative then -(natOfDigits digits : Int) else natOfDigits digits

/-- Why a text is no whole number. -/
inductive IntFault where
  | malformed
  | tooManyDigits (count : Nat)
  deriving DecidableEq, Repr

/-- A sign at the front: whether it is negative, and what is behind it. -/
def signed : List Char → Bool × List Char
  | '-' :: rest => (true, rest)
  | '+' :: rest => (false, rest)
  | rest => (false, rest)

/-- A character that may stand within a number. -/
def isNumberChar (c : Char) : Bool := c = '_' || (digitValue? c).isSome

/-- The whole number in a text.  Its digits are counted before anything is
said about what stands behind them. -/
def readInt (s : String) : Except IntFault Int :=
  let (negative, cs) := signed (s.toList.dropWhile isNumberBlank)
  match digitsOf? (cs.takeWhile isNumberChar) with
  | none => .error .malformed
  | some digits =>
    if digits.length > maxDigits then .error (.tooManyDigits digits.length)
    else if (cs.dropWhile isNumberChar).all isNumberBlank then .ok (intOfDigits negative digits)
    else .error .malformed

/-! ## Hexadecimal digits -/

def hexValue? (c : Char) : Option Nat :=
  if '0' ≤ c && c ≤ '9' then some (c.toNat - '0'.toNat)
  else if 'a' ≤ c && c ≤ 'f' then some (c.toNat - 'a'.toNat + 10)
  else if 'A' ≤ c && c ≤ 'F' then some (c.toNat - 'A'.toNat + 10)
  else none

/-- The number in hexadecimal digits; what is no digit counts as zero. -/
def hexNumber (cs : List Char) : Nat := cs.foldl (fun n c => 16 * n + (hexValue? c).getD 0) 0

end LayerLint.Text
