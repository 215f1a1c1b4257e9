import LayerLint.Decimal.Shortest

/-!
# Decimal text

Reading a decimal rounds it to the nearest double, and writing takes the
fewest digits that read back.  The layout is one record: positional from
`0.0001` up to below `10 ^ 16`, always with a fraction, and an exponent of at
least two digits with its sign elsewhere.
-/

namespace LayerLint.Decimal

/-- Where decimal text changes its shape and how it spells the parts. -/
structure Layout where
  /-- The least exponent of the leading digit that is written positionally. -/
  positionalFrom : Int
  /-- The first exponent of the leading digit that is not. -/
  positionalTo : Int
  /-- Digits an exponent has at least. -/
  exponentWidth : Nat
  infinity : String
  notANumber : String

/-- The layout of every number in a message or a document. -/
def layout : Layout :=
  { positionalFrom := -4, positionalTo := 16, exponentWidth := 2
    infinity := "inf", notANumber := "nan" }

/-- The layout of numbers in a document, where the special values have names of their
own. -/
def documentLayout : Layout :=
  { layout with infinity := "Infinity", notANumber := "NaN" }

private def zeros (n : Nat) : String := String.ofList (List.replicate n '0')

/-- The text of a positive decimal. -/
def Scientific.text (s : Scientific) (l : Layout) : String :=
  let digits := Nat.toDigits 10 s.digits
  let count := digits.length
  let lead : Int := s.exponent + count - 1
  if l.positionalFrom ≤ lead && lead < l.positionalTo then
    if lead < 0 then
      "0." ++ zeros (-lead - 1).toNat ++ String.ofList digits
    else
      let whole := lead.toNat + 1
      if count ≤ whole then
        String.ofList digits ++ zeros (whole - count) ++ ".0"
      else
        String.ofList (digits.take whole) ++ "." ++ String.ofList (digits.drop whole)
  else
    let mantissa :=
      match digits with
      | [] => ""
      | [d] => String.ofList [d]
      | d :: more => String.ofList (d :: '.' :: more)
    let power := Nat.toDigits 10 lead.natAbs
    mantissa ++ "e" ++ (if lead < 0 then "-" else "+") ++
      zeros (l.exponentWidth - power.length) ++ String.ofList power

def textIn (l : Layout) (x : Float) : String :=
  let signed (negative : Bool) (s : String) := if negative then "-" ++ s else s
  match classify x with
  | .nan => l.notANumber
  | .infinite negative => signed negative l.infinity
  | .zero negative => signed negative "0.0"
  | .finite negative r => signed negative (r.shortest.text l)

def text (x : Float) : String := textIn layout x

/-- The double nearest to `digits · 10 ^ exponent`.  Far outside the range of
doubles the answer is known from the magnitude alone, and no large power is formed. -/
def read (negative : Bool) (digits : Nat) (exponent : Int) : Float :=
  let lead : Int := exponent + (Nat.toDigits 10 digits).length
  let x : Float :=
    if digits == 0 || lead < -400 then 0.0
    else if 400 < lead then 1.0 / 0.0
    else Float.ofScientific digits (exponent < 0) exponent.natAbs
  if negative then -x else x

end LayerLint.Decimal
