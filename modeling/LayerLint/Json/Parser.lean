import LayerLint.Text.Digits
import LayerLint.Value

/-!
# Reading JSON

A document is one value with blanks around it.  Beside the standard's own
values the three special numbers are read.  A number without fraction and
exponent is an integer of any size; any other is a double.  Of several members
with one name the last one counts, at the place of the first.

The parser goes down with the text: every function takes the characters that
are left and returns those behind what it has read.  The bound on the depth of
calls starts at twice the length of the text, and two calls never pass without
a character being read, so it is never reached.
-/

namespace LayerLint.Json

/-- Why a text is no document. -/
inductive ReadFault where
  | malformed
  | tooManyDigits (count : Nat)
  /-- A part, an array or an object, within too many others. -/
  | tooDeep (part : String)
  deriving DecidableEq, Repr

abbrev Reader (α : Type) := List Char → Except ReadFault (α × List Char)

def isSpace (c : Char) : Bool := c = ' ' || c = '\t' || c = '\n' || c = '\r'

def skipSpace (cs : List Char) : List Char := cs.dropWhile isSpace

/-! ## Strings -/

/-- Four hexadecimal digits. -/
def unit? : List Char → Option (Nat × List Char)
  | a :: b :: c :: d :: rest => do
    return ((((← Text.hexValue? a) * 16 + (← Text.hexValue? b)) * 16 + (← Text.hexValue? c)) * 16 +
      (← Text.hexValue? d), rest)
  | _ => none

/-- The second half of a character that is written as two units. -/
def lowHalf? : List Char → Option (Nat × List Char)
  | '\\' :: 'u' :: rest => do
    let (n, rest) ← unit? rest
    if 0xDC00 ≤ n ∧ n < 0xE000 then some (n, rest) else none
  | _ => none

/-- What stands for one half alone, which is no character: the halves are told apart by
the last code points, which are free for private use. -/
def halfAlone (n : Nat) : Char := Char.ofNat (0x10F800 + (n - 0xD800))

/-- The character of an escape by number. -/
def numbered? (cs : List Char) : Option (Char × List Char) := do
  let (n, rest) ← unit? cs
  if 0xD800 ≤ n ∧ n < 0xDC00 then
    match lowHalf? rest with
    | some (m, rest) => some (Char.ofNat (0x10000 + (n - 0xD800) * 0x400 + (m - 0xDC00)), rest)
    | none => some (halfAlone n, rest)
  else if 0xDC00 ≤ n ∧ n < 0xE000 then some (halfAlone n, rest)
  else some (Char.ofNat n, rest)

def escapes : List (Char × Char) :=
  [('"', '"'), ('\\', '\\'), ('/', '/'), ('b', '\x08'), ('f', '\x0c'), ('n', '\n'), ('r', '\r'),
    ('t', '\t')]

/-- The rest of a string, without its opening mark. -/
def stringBody (acc : List Char) : (fuel : Nat) → Reader String
  | 0, _ => .error .malformed
  | fuel + 1, cs =>
    match cs with
    | [] => .error .malformed
    | '"' :: rest => .ok (String.ofList acc.reverse, rest)
    | '\\' :: 'u' :: rest =>
      match numbered? rest with
      | some (c, rest) => stringBody (c :: acc) fuel rest
      | none => .error .malformed
    | '\\' :: e :: rest =>
      match escapes.lookup e with
      | some c => stringBody (c :: acc) fuel rest
      | none => .error .malformed
    | c :: rest => if c.toNat < 0x20 then .error .malformed else stringBody (c :: acc) fuel rest

/-! ## Numbers -/

def isDigit (c : Char) : Bool := '0' ≤ c && c ≤ '9'

/-- The longest run of digits in front. -/
def digits (cs : List Char) : List Nat × List Char :=
  ((cs.takeWhile isDigit).map fun c => c.toNat - '0'.toNat, cs.dropWhile isDigit)

/-- The digits behind a point, when there are any. -/
def fraction (cs : List Char) : List Nat × List Char :=
  match cs with
  | '.' :: rest =>
    match digits rest with
    | ([], _) => ([], cs)
    | found => found
  | _ => ([], cs)

/-- The exponent with its sign, when it has digits. -/
def exponent (cs : List Char) : Option Int × List Char :=
  let signed (negative : Bool) (rest : List Char) : Option Int × List Char :=
    match digits rest with
    | ([], _) => (none, cs)
    | (ds, rest) => (some (Text.intOfDigits negative ds), rest)
  match cs with
  | e :: '-' :: rest => if e = 'e' || e = 'E' then signed true rest else (none, cs)
  | e :: '+' :: rest => if e = 'e' || e = 'E' then signed false rest else (none, cs)
  | e :: rest => if e = 'e' || e = 'E' then signed false rest else (none, cs)
  | [] => (none, cs)

/-- A number without its sign.  A leading zero stands alone. -/
def unsigned (negative : Bool) (cs : List Char) : Except ReadFault (Value × List Char) :=
  let (whole, rest) :=
    match cs with
    | '0' :: rest => ([0], rest)
    | _ => digits cs
  if whole = [] then .error .malformed
  else
    let (part, rest) := fraction rest
    let (power, rest) := exponent rest
    if part = [] && power.isNone then
      if whole.length > Text.maxDigits then .error (.tooManyDigits whole.length)
      else .ok (.int (Text.intOfDigits negative whole), rest)
    else
      .ok (.float (Decimal.read negative (Text.natOfDigits (whole ++ part))
        (power.getD 0 - part.length)), rest)

/-- The values that are written as a word. -/
def words : List (String × Value) :=
  [("null", .null), ("true", .bool true), ("false", .bool false), ("NaN", .float (0.0 / 0.0)),
    ("Infinity", .float (1.0 / 0.0)), ("-Infinity", .float (-1.0 / 0.0))]

def word? (cs : List Char) : Option (Value × List Char) :=
  words.findSome? fun (word, v) =>
    if word.toList.isPrefixOf cs then some (v, cs.drop word.length) else none

/-! ## Values -/

mutual

/-- A value; blanks in front of it have been skipped.  Arrays and objects may
go `levels` deeper. -/
def value (levels : Nat) : (fuel : Nat) → Reader Value
  | 0, _ => .error .malformed
  | fuel + 1, cs =>
    match cs with
    | '"' :: rest => (stringBody [] fuel rest).map fun (s, rest) => (.str s, rest)
    | '[' :: rest =>
      match levels, skipSpace rest with
      | 0, _ => .error (.tooDeep "array")
      | _, ']' :: rest => .ok (.list [], rest)
      | levels + 1, rest =>
        (elements levels fuel rest).map fun (items, rest) => (.list items, rest)
    | '\x7b' :: rest =>
      match levels, skipSpace rest with
      | 0, _ => .error (.tooDeep "object")
      | _, '\x7d' :: rest => .ok (.dict [], rest)
      | levels + 1, rest =>
        (members levels [] fuel rest).map fun (entries, rest) => (.dict entries, rest)
    | cs =>
      match word? cs, cs with
      | some found, _ => .ok found
      | none, '-' :: rest => unsigned true rest
      | none, cs => unsigned false cs

/-- Values with commas between them, up to the closing bracket. -/
def elements (levels : Nat) : (fuel : Nat) → Reader (List Value)
  | 0, _ => .error .malformed
  | fuel + 1, cs => do
    let (item, rest) ← value levels fuel cs
    match skipSpace rest with
    | ',' :: rest =>
      let (more, rest) ← elements levels fuel (skipSpace rest)
      return (item :: more, rest)
    | ']' :: rest => return ([item], rest)
    | _ => throw .malformed

/-- Members with commas between them, up to the closing brace. -/
def members (levels : Nat) (acc : Table) : (fuel : Nat) → Reader Table
  | 0, _ => .error .malformed
  | fuel + 1, cs => do
    let '"' :: rest := cs | throw .malformed
    let (key, rest) ← stringBody [] fuel rest
    let ':' :: rest := skipSpace rest | throw .malformed
    let (item, rest) ← value levels fuel (skipSpace rest)
    let acc := Table.set key item acc
    match skipSpace rest with
    | ',' :: rest => members levels acc fuel (skipSpace rest)
    | '\x7d' :: rest => return (acc, rest)
    | _ => throw .malformed

end

/-- How deep arrays and objects go at most. -/
def maxLevels : Nat := 980

/-- The value of a document. -/
def parse (cs : List Char) : Except ReadFault Value := do
  let (v, rest) ← value maxLevels (2 * cs.length + 2) (skipSpace cs)
  if skipSpace rest = [] then return v else throw .malformed

end LayerLint.Json
