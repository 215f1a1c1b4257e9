import Std.Data.ExtTreeMap

/-!
# Tables by id

The library's ordered tables compare their keys, and their lemmas ask whether
two keys compare equal.  Ids compare equal only when they are equal, so the
facts that the development uses over and over are stated with equality here.
-/

namespace LayerLint.Tables

open Std (ExtTreeMap)

section

variable {α : Type} {m : ExtTreeMap String α} {k x : String} {v : α}

theorem exists_getElem? (h : k ∈ m) : ∃ v, m[k]? = some v :=
  ⟨m[k], ExtTreeMap.getElem?_eq_some_getElem h⟩

theorem mem_of_getElem? (h : m[k]? = some v) : k ∈ m :=
  (ExtTreeMap.getElem?_eq_some_iff.1 h).1

theorem getElem?_insert : (m.insert k v)[x]? = if k = x then some v else m[x]? := by
  simp only [ExtTreeMap.getElem?_insert, Std.LawfulEqCmp.compare_eq_iff_eq]

/-- A value that is there stays. -/
theorem getElem?_insertIfNew :
    (m.insertIfNew k v)[x]? = (m[x]?).or (if k = x then some v else none) := by
  simp only [ExtTreeMap.getElem?_insertIfNew, Std.LawfulEqCmp.compare_eq_iff_eq]
  by_cases hk : k = x
  · subst hk
    cases hx : m[k]? with
    | none =>
        have hnew : k ∉ m := fun hmem => by
          obtain ⟨w, hw⟩ := exists_getElem? hmem
          rw [hx] at hw
          cases hw
        simp [hnew]
    | some w => simp [mem_of_getElem? hx]
  · simp [hk]

theorem getElem?_erase : (m.erase k)[x]? = if k = x then none else m[x]? := by
  simp only [ExtTreeMap.getElem?_erase, Std.LawfulEqCmp.compare_eq_iff_eq]

theorem insert_eq_self (h : m[k]? = some v) : m.insert k v = m := by
  refine ExtTreeMap.ext_getElem? fun x => ?_
  rw [getElem?_insert]
  by_cases hx : k = x
  · rw [if_pos hx, ← hx, h]
  · rw [if_neg hx]

/-- There is nothing to take away under a free key. -/
theorem erase_eq_self (h : m[k]? = none) : m.erase k = m := by
  refine ExtTreeMap.ext_getElem? fun x => ?_
  rw [getElem?_erase]
  by_cases hx : k = x
  · rw [if_pos hx, ← hx, h]
  · rw [if_neg hx]

theorem mem_insert : x ∈ m.insert k v ↔ k = x ∨ x ∈ m := by
  rw [ExtTreeMap.mem_insert, Std.LawfulEqCmp.compare_eq_iff_eq]

end

end LayerLint.Tables
