/-!
# The shortest decimal of a binary number

A finite double is `m · 2 ^ q`.  The reals that round to it form an interval,
closed exactly when `m` is even.  For one digit, two digits and so on up to
seventeen, the two neighbours of the value on the decimal grid of that many
digits are tested against the interval; the first grid with a neighbour
inside wins, and of two neighbours inside the nearer.  If any point of a grid
lies in the interval then one of the two neighbours does, so the number of
digits found is the least possible.

All of it is exact arithmetic on natural numbers: a value is a numerator over
a denominator.
-/

namespace LayerLint.Decimal

/-- A positive decimal `digits · 10 ^ exponent`. -/
structure Scientific where
  digits : Nat
  exponent : Int
  deriving DecidableEq, Repr

/-- A positive rational with the ends of its rounding interval over one denominator. -/
structure Rounding where
  low : Nat
  value : Nat
  high : Nat
  den : Nat
  closed : Bool

/-- The rounding interval of `m · 2 ^ q`; below a power of two the spacing is half as
wide. -/
def Rounding.ofBinary (m : Nat) (q : Int) (halved : Bool) : Rounding :=
  let up := Nat.pow 2 q.toNat
  let down := Nat.pow 2 (-q).toNat
  { low := (4 * m - if halved then 1 else 2) * up
    value := 4 * m * up
    high := (4 * m + 2) * up
    den := 4 * down
    closed := m % 2 == 0 }

/-- The decimal `digits · 10 ^ exponent` lies in the interval. -/
def Rounding.holds (r : Rounding) (s : Scientific) : Bool :=
  let num := s.digits * Nat.pow 10 s.exponent.toNat * r.den
  let scale := Nat.pow 10 (-s.exponent).toNat
  if r.closed then r.low * scale ≤ num && num ≤ r.high * scale
  else r.low * scale < num && num < r.high * scale

/-- The decimal exponent of the leading digit. -/
def Rounding.magnitude (r : Rounding) : Int :=
  let shift : Nat := 400
  ((Nat.toDigits 10 (r.value * Nat.pow 10 shift / r.den)).length : Int) - 1 - (shift : Int)

/-- The neighbour of the value with `count` digits that rounds back to it, if there is
one. -/
def Rounding.neighbour? (r : Rounding) (count : Nat) : Option Scientific :=
  let exponent := r.magnitude + 1 - count
  let num := r.value * Nat.pow 10 (-exponent).toNat
  let unit := r.den * Nat.pow 10 exponent.toNat
  let below : Scientific := ⟨num / unit, exponent⟩
  let above : Scientific := ⟨num / unit + 1, exponent⟩
  match r.holds below, r.holds above with
  | true, false => some below
  | false, true => some above
  | false, false => none
  | true, true =>
    let rest := 2 * (num % unit)
    if rest < unit then some below
    else if unit < rest then some above
    else if below.digits % 2 == 0 then some below else some above

/-- Trailing zeros move into the exponent. -/
def Scientific.trim (s : Scientific) : (fuel : Nat) → Scientific
  | 0 => s
  | fuel + 1 =>
    if s.digits % 10 == 0 then Scientific.trim ⟨s.digits / 10, s.exponent + 1⟩ fuel else s

/-- The shortest decimal in the interval; seventeen digits always suffice for a double. -/
def Rounding.shortest (r : Rounding) : Scientific :=
  match (List.range 17).findSome? fun k => r.neighbour? (k + 1) with
  | some s => s.trim 20
  | none => ⟨r.value / r.den, 0⟩

/-- What a double is. -/
inductive Class where
  | nan
  | infinite (negative : Bool)
  | zero (negative : Bool)
  | finite (negative : Bool) (rounding : Rounding)

def classify (x : Float) : Class :=
  let bits : Nat := x.toBits.toNat
  let negative : Bool := bits >>> 63 == 1
  let exponent : Nat := (bits >>> 52) % 0x800
  let fraction : Nat := bits % 0x10000000000000
  if exponent == 2047 then
    if fraction == 0 then .infinite negative else .nan
  else if exponent == 0 then
    if fraction == 0 then .zero negative
    else .finite negative (.ofBinary fraction (-1074) false)
  else
    .finite negative
      (.ofBinary (0x10000000000000 + fraction) ((exponent : Int) - 1075)
        (fraction == 0 && exponent != 1))

end LayerLint.Decimal
