import LayerLint.Violation

/-!
# Rotations of a cycle

A cycle of imports has no first member, so the one with the smallest id is
put in front.  Two readings of one cycle then become the same list, and the
direction of the imports is kept.

## Main results

* `canonical_isRotation`: the canonical reading is a reading of the same cycle.
-/

namespace LayerLint

/-- The members of a cycle, each importing the next and the last the first. -/
abbrev Cycle := List ModuleId

namespace Cycle

/-- The smallest of some ids. -/
def least (first : ModuleId) (rest : List ModuleId) : ModuleId :=
  rest.foldl (fun m id => if id < m then id else m) first

/-- The reading of a cycle that starts at its smallest id. -/
def canonical : Cycle → Cycle
  | [] => []
  | first :: rest =>
    let m := least first rest
    (first :: rest).dropWhile (· ≠ m) ++ (first :: rest).takeWhile (· ≠ m)

/-- The cycle read from another of its members. -/
def IsRotation (c d : Cycle) : Prop := ∃ before after, c = before ++ after ∧ d = after ++ before

theorem canonical_isRotation (c : Cycle) : IsRotation c (canonical c) := by
  cases c with
  | nil => exact ⟨[], [], rfl, rfl⟩
  | cons first rest =>
    exact ⟨(first :: rest).takeWhile (· ≠ least first rest),
      (first :: rest).dropWhile (· ≠ least first rest), by simp [List.takeWhile_append_dropWhile],
      rfl⟩

example : canonical ["c", "a", "b"] = ["a", "b", "c"] := by decide +kernel

end Cycle

end LayerLint
