import LayerLint.Fault
import LayerLint.Text.Digits

/-!
# Values in messages

A message shows the value it is about.  Two kinds of values cannot be shown:
whole numbers with more digits than a number may have, and values within too
many lists and tables.  A fault about such a value becomes the fault of
showing it; `Fault.about` is the one place where that happens.

The value is gone through in the order of writing, so that of two obstacles
the one that would be written first counts.
-/

namespace LayerLint

namespace Value

/-- How many lists and tables a value may be in to be shown. -/
def shownLevels : Nat := 980

mutual

/-- What keeps a value from being shown, with so many levels left. -/
def obstacle? (levels : Nat) : Value → Option Fault
  | int i => if Nat.pow 10 Text.maxDigits ≤ i.natAbs then some .tooLongToShow else none
  | list items =>
    match levels with
    | 0 => some (.tooDeep "getting the repr of an object")
    | levels + 1 => obstacleInItems? levels items
  | dict entries =>
    match levels with
    | 0 => some (.tooDeep "getting the repr of an object")
    | levels + 1 => obstacleInEntries? levels entries
  | _ => none

def obstacleInItems? (levels : Nat) : List Value → Option Fault
  | [] => none
  | item :: more => (obstacle? levels item).or (obstacleInItems? levels more)

def obstacleInEntries? (levels : Nat) : List (String × Value) → Option Fault
  | [] => none
  | (_, value) :: more => (obstacle? levels value).or (obstacleInEntries? levels more)

end

/-- Why a value cannot be shown, if it cannot. -/
def unshowable? (v : Value) : Option Fault := v.obstacle? shownLevels

theorem unshowable?_int {i : Int} (h : Nat.pow 10 Text.maxDigits ≤ i.natAbs) :
    (int i).unshowable? = some .tooLongToShow := by
  rw [unshowable?, obstacle?, if_pos h]

theorem unshowable?_str (s : String) : (str s).unshowable? = none := by
  simp [unshowable?, obstacle?]

end Value

namespace Fault

/-- A fault with a message about a value, provided that the value can be shown. -/
def about (v : Value) (f : Fault) : Fault := v.unshowable?.getD f

/-- A setting with a value that it cannot have. -/
def ofSetting (key : String) (value : Value) (reason : String) : Fault :=
  about value (.setting key value reason)

end Fault

end LayerLint
