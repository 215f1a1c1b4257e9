import LayerLint.Toml.Strings

/-!
# TOML numbers and calendar values

Whole numbers in four bases and decimal fractions, with single underscores
between digits, and dates and times.  A text that starts like a date is a
date: if there is no such day it is malformed and not a number.
-/

namespace LayerLint.Toml

/-! ## Numbers -/

/-- Digits that go on a number, each with at most one underscore in front. -/
def moreDigits (isDigit : Char → Bool) : List Char → List Char × List Char
  | '_' :: c :: rest =>
    if isDigit c then
      let (ds, rest) := moreDigits isDigit rest
      (c :: ds, rest)
    else ([], '_' :: c :: rest)
  | c :: rest =>
    if isDigit c then
      let (ds, rest) := moreDigits isDigit rest
      (c :: ds, rest)
    else ([], c :: rest)
  | [] => ([], [])

/-- A run of digits that starts with one. -/
def digitRun (isDigit : Char → Bool) : Reader (List Char)
  | c :: rest =>
    if isDigit c then
      let (ds, rest) := moreDigits isDigit rest
      some (c :: ds, rest)
    else none
  | [] => none

def valueOfDigits (base : Nat) (ds : List Char) : Nat :=
  ds.foldl (fun n d => base * n + (Text.hexValue? d).getD 0) 0

def isDigitOf (base : Nat) (c : Char) : Bool := (Text.hexValue? c).any fun d => d < base

/-- A number behind the mark of its base. -/
def based : Reader Value
  | '0' :: mark :: rest => do
    let base ← ([('x', 16), ('b', 2), ('o', 8)] : List (Char × Nat)).lookup mark
    let (ds, rest) ← digitRun (isDigitOf base) rest
    return (.int (valueOfDigits base ds), rest)
  | _ => none

/-- The digits behind a point, if it has any. -/
def fractionDigits (cs : List Char) : List Char × List Char :=
  match cs with
  | '.' :: rest => (digitRun (isDigitOf 10) rest).getD ([], cs)
  | _ => ([], cs)

/-- The exponent, if there is one. -/
def exponentOf (cs : List Char) : Option Int × List Char :=
  let signed (negative : Bool) (rest : List Char) : Option Int × List Char :=
    match digitRun (isDigitOf 10) rest with
    | some (ds, rest) =>
      let n : Int := valueOfDigits 10 ds
      (some (if negative then -n else n), rest)
    | none => (none, cs)
  match cs with
  | e :: '-' :: rest => if e = 'e' || e = 'E' then signed true rest else (none, cs)
  | e :: '+' :: rest => if e = 'e' || e = 'E' then signed false rest else (none, cs)
  | e :: rest => if e = 'e' || e = 'E' then signed false rest else (none, cs)
  | [] => (none, cs)

/-- A decimal number without its sign; a leading zero stands alone. -/
def unsignedDecimal (negative : Bool) (cs : List Char) : Option (Value × List Char) := do
  let (whole, rest) ←
    match cs with
    | '0' :: rest => some (['0'], rest)
    | _ => digitRun (isDigitOf 10) cs
  let (part, rest) := fractionDigits rest
  let (power, rest) := exponentOf rest
  if part = [] && power.isNone then
    let n : Int := valueOfDigits 10 whole
    if whole.length > Text.maxDigits then none
    else return (.int (if negative then -n else n), rest)
  else
    return (.float (Decimal.read negative (valueOfDigits 10 (whole ++ part))
      (power.getD 0 - part.length)), rest)

def decimal : Reader Value
  | '-' :: rest => unsignedDecimal true rest
  | '+' :: rest => unsignedDecimal false rest
  | cs => unsignedDecimal false cs

/-- Numbers that are written as a word. -/
def numberWords : List (String × Float) :=
  [("inf", 1.0 / 0.0), ("nan", 0.0 / 0.0), ("-inf", -1.0 / 0.0), ("+inf", 1.0 / 0.0),
    ("-nan", 0.0 / 0.0), ("+nan", 0.0 / 0.0)]

def numberWord : Reader Value := fun cs =>
  numberWords.findSome? fun (word, x) =>
    if word.toList.isPrefixOf cs then some (.float x, cs.drop word.length) else none

def number (cs : List Char) : Option (Value × List Char) :=
  ((based cs).or (decimal cs)).or (numberWord cs)

/-! ## Dates and times -/

/-- A number of exactly `count` digits between two bounds. -/
def fixed (count low high : Nat) : Reader Nat := fun cs =>
  let ds := cs.take count
  let n := valueOfDigits 10 ds
  if ds.length = count ∧ ds.all (isDigitOf 10) ∧ low ≤ n ∧ n ≤ high then
    some (n, cs.drop count)
  else none

def mark (c : Char) : Reader Unit
  | d :: rest => if d = c then some ((), rest) else none
  | [] => none

/-- Digits behind a point, of which the first six count, as millionths. -/
def millionths (cs : List Char) : Nat × List Char :=
  match cs with
  | '.' :: rest =>
    let ds := rest.takeWhile (isDigitOf 10)
    if ds = [] then (0, cs)
    else (valueOfDigits 10 ((ds ++ List.replicate 6 '0').take 6), rest.dropWhile (isDigitOf 10))
  | _ => (0, cs)

def clock : Reader Clock := fun cs => do
  let (hour, cs) ← fixed 2 0 23 cs
  let (_, cs) ← mark ':' cs
  let (minute, cs) ← fixed 2 0 59 cs
  let (_, cs) ← mark ':' cs
  let (second, cs) ← fixed 2 0 59 cs
  let (micro, cs) := millionths cs
  return (⟨hour, minute, second, micro⟩, cs)

def day : Reader Day := fun cs => do
  let (year, cs) ← fixed 4 0 9999 cs
  let (_, cs) ← mark '-' cs
  let (month, cs) ← fixed 2 1 12 cs
  let (_, cs) ← mark '-' cs
  let (day, cs) ← fixed 2 1 31 cs
  return (⟨year, month, day⟩, cs)

/-- An offset from universal time in minutes, if there is one. -/
def offset (cs : List Char) : Option Int × List Char :=
  let signed (sign : Int) (rest : List Char) : Option Int × List Char :=
    let found : Option (Int × List Char) := do
      let (hours, rest) ← fixed 2 0 23 rest
      let (_, rest) ← mark ':' rest
      let (minutes, rest) ← fixed 2 0 59 rest
      return (sign * (60 * hours + minutes), rest)
    match found with
    | some (minutes, rest) => (some minutes, rest)
    | none => (none, cs)
  match cs with
  | 'Z' :: rest => (some 0, rest)
  | 'z' :: rest => (some 0, rest)
  | '+' :: rest => signed 1 rest
  | '-' :: rest => signed (-1) rest
  | _ => (none, cs)

def daysIn (year month : Nat) : Nat :=
  if month = 2 then
    if year % 4 = 0 ∧ (year % 100 ≠ 0 ∨ year % 400 = 0) then 29 else 28
  else if month = 4 ∨ month = 6 ∨ month = 9 ∨ month = 11 then 30
  else 31

/-- There is such a day. -/
def isDay (d : Day) : Bool := 1 ≤ d.year && d.day ≤ daysIn d.year d.month

/-- The time behind a date, if there is one. -/
def timeOfDay (cs : List Char) : Option (Clock × List Char) :=
  match cs with
  | c :: rest => if c = 'T' || c = 't' || c = ' ' then clock rest else none
  | [] => none

/-- A date, with a time if there is one. -/
def dated (d : Day) (cs : List Char) : Moment × List Char :=
  match timeOfDay cs with
  | some (c, rest) =>
    let (minutes, rest) := offset rest
    (.instant d c minutes, rest)
  | none => (.day d, cs)

/-- A value that is neither a string nor made of other values. -/
def scalar : Reader Value := fun cs =>
  match day cs with
  | some (d, rest) =>
    if isDay d then
      let (m, rest) := dated d rest
      some (.moment m, rest)
    else none
  | none =>
    match clock cs with
    | some (c, rest) => some (.moment (.clock c), rest)
    | none =>
      if "true".toList.isPrefixOf cs then some (.bool true, cs.drop 4)
      else if "false".toList.isPrefixOf cs then some (.bool false, cs.drop 5)
      else number cs

end LayerLint.Toml
