import LayerLint.Text.Quoted

/-!
# UTF-8

Decoding of bytes into characters.  A fault names the bytes that cannot be
decoded and why: a byte that starts no character, a byte that should go on
with one and does not, or an end in the middle of one.  The second byte of a
character is held to a narrower range after some first bytes, which rules out
overlong forms, surrogates and numbers beyond the last code point.
-/

namespace LayerLint.Utf8

/-- Why bytes cannot be decoded. -/
inductive Problem where
  | invalidStart
  | invalidContinuation
  | unexpectedEnd
  deriving DecidableEq, Repr

/-- The bytes from `start` on, `count` of them, are no character. -/
structure DecodeFault where
  start : Nat
  count : Nat
  /-- The first of the bytes. -/
  byte : UInt8
  problem : Problem
  deriving Repr

def Problem.text : Problem → String
  | invalidStart => "invalid start byte"
  | invalidContinuation => "invalid continuation byte"
  | unexpectedEnd => "unexpected end of data"

def DecodeFault.message (f : DecodeFault) : String :=
  "'utf-8' codec can't decode " ++
    (if f.count = 1 then
      "byte 0x" ++ String.ofList (Text.hexDigits 2 f.byte.toNat) ++ " in position " ++
        toString f.start
    else
      "bytes in position " ++ toString f.start ++ "-" ++ toString (f.start + f.count - 1)) ++
    ": " ++ f.problem.text

/-- The length of the character that a byte starts, with the range of the byte behind
it. -/
def lead? (b : UInt8) : Option (Nat × UInt8 × UInt8) :=
  if b < 0x80 then some (1, 0, 0)
  else if b < 0xC2 then none
  else if b < 0xE0 then some (2, 0x80, 0xBF)
  else if b = 0xE0 then some (3, 0xA0, 0xBF)
  else if b = 0xED then some (3, 0x80, 0x9F)
  else if b < 0xF0 then some (3, 0x80, 0xBF)
  else if b = 0xF0 then some (4, 0x90, 0xBF)
  else if b = 0xF4 then some (4, 0x80, 0x8F)
  else if b < 0xF4 then some (4, 0x80, 0xBF)
  else none

/-- The bytes behind a first byte: their number read so far, the value so far,
and how many are still owed, the next one between `low` and `high`. -/
def tail (low high : UInt8) (value : Nat) (read : Nat) :
    (owed : Nat) → List UInt8 → Except (Nat × Problem) (Nat × List UInt8)
  | 0, rest => .ok (value, rest)
  | _ + 1, [] => .error (read, .unexpectedEnd)
  | owed + 1, b :: rest =>
    if low ≤ b && b ≤ high then
      tail 0x80 0xBF (value * 64 + b.toNat % 64) (read + 1) owed rest
    else .error (read, .invalidContinuation)

/-- The bits of the value that a first byte of a character of `length` bytes holds. -/
def leadBits (length : Nat) (b : UInt8) : Nat :=
  match length with
  | 1 => b.toNat
  | 2 => b.toNat % 32
  | 3 => b.toNat % 16
  | _ => b.toNat % 8

/-- Decodes the bytes from position `start` on.  Every character takes at
least one byte, so as many rounds as there are bytes suffice. -/
def decodeFrom (start : Nat) : (fuel : Nat) → List UInt8 → Except DecodeFault (List Char)
  | 0, _ => .ok []
  | _ + 1, [] => .ok []
  | fuel + 1, b :: rest =>
    match lead? b with
    | none => .error ⟨start, 1, b, .invalidStart⟩
    | some (length, low, high) =>
      match tail low high (leadBits length b) 1 (length - 1) rest with
      | .error (count, problem) => .error ⟨start, count, b, problem⟩
      | .ok (value, rest) =>
        (decodeFrom (start + length) fuel rest).map (Char.ofNat value :: ·)

def decode (bytes : List UInt8) : Except DecodeFault (List Char) :=
  decodeFrom 0 bytes.length bytes

end LayerLint.Utf8
