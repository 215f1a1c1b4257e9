/-!
# Dates and times

The calendar values a configuration file may hold: a date, a time of day, or
both, the latter with or without an offset from universal time.  They take no
part in any check and are only shown in messages, in two forms: `text` is the
ISO form, `spelled` names the parts one by one.
-/

namespace LayerLint

structure Day where
  year : Nat
  month : Nat
  day : Nat
  deriving DecidableEq, Repr

structure Clock where
  hour : Nat
  minute : Nat
  second : Nat
  microsecond : Nat
  deriving DecidableEq, Repr

inductive Moment where
  | day (d : Day)
  | clock (c : Clock)
  /-- A date with a time; the offset is in minutes east of universal time. -/
  | instant (d : Day) (c : Clock) (offset : Option Int)
  deriving DecidableEq, Repr

namespace Moment

private def padded (width n : Nat) : String :=
  let digits := Nat.toDigits 10 n
  String.ofList (List.replicate (width - digits.length) '0' ++ digits)

def dayText (d : Day) : String :=
  padded 4 d.year ++ "-" ++ padded 2 d.month ++ "-" ++ padded 2 d.day

def clockText (c : Clock) : String :=
  padded 2 c.hour ++ ":" ++ padded 2 c.minute ++ ":" ++ padded 2 c.second ++
    (if c.microsecond = 0 then "" else "." ++ padded 6 c.microsecond)

def offsetText (minutes : Int) : String :=
  (if minutes < 0 then "-" else "+") ++ padded 2 (minutes.natAbs / 60) ++ ":" ++
    padded 2 (minutes.natAbs % 60)

def text : Moment → String
  | day d => dayText d
  | clock c => clockText c
  | instant d c offset => dayText d ++ " " ++ clockText c ++ (offset.map offsetText).getD ""

/-- The parts of a time; seconds are left out when they and the fraction are zero. -/
def clockParts (always : List Nat) (c : Clock) : List Nat :=
  always ++
    (if c.microsecond ≠ 0 then [c.second, c.microsecond]
     else if c.second ≠ 0 then [c.second] else [])

def listed (parts : List Nat) : String := ", ".intercalate (parts.map toString)

/-- An offset is spelled as a span of days and seconds, the seconds never negative. -/
def offsetSpelled (minutes : Int) : String :=
  if minutes = 0 then "datetime.timezone.utc"
  else if minutes < 0 then
    "datetime.timezone(datetime.timedelta(days=-1, seconds=" ++
      toString (86400 + minutes * 60) ++ "))"
  else "datetime.timezone(datetime.timedelta(seconds=" ++ toString (minutes * 60) ++ "))"

def spelled : Moment → String
  | day d => "datetime.date(" ++ listed [d.year, d.month, d.day] ++ ")"
  | clock c => "datetime.time(" ++ listed (clockParts [c.hour, c.minute] c) ++ ")"
  | instant d c offset =>
    "datetime.datetime(" ++
      listed (clockParts [d.year, d.month, d.day, c.hour, c.minute] c) ++
      ((offset.map fun minutes => ", tzinfo=" ++ offsetSpelled minutes).getD "") ++ ")"

/-- The name of the kind of value. -/
def kindName : Moment → String
  | day _ => "date"
  | clock _ => "time"
  | instant .. => "datetime"

/-- The name of the kind of value with that of the library behind it. -/
def fullKindName (m : Moment) : String := "datetime." ++ m.kindName

end Moment

end LayerLint
