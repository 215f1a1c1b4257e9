import LayerLint.Report

/-!
# What a report keeps

Merging leaves a violation out for two reasons only: its kind is switched off,
or another violation with its key stands in front of it.  So whatever the key
decides, above all the kind, can be read off the report as well as off the
lists: a violation that is not switched off always has one with its key in the
report.

Reports are in order.  The order compares places first, and kinds and modules
after them, so two violations can tie only when they are of one kind at the same
modules.  Checks that never say two things of one kind about the same modules
leave no ties, and then a report is decided by its members alone.

## Main results

* `firsts_sublist`, `mem_keys_firsts_iff`: of several with one key the first one
  stays, and no key is lost.
* `of_mem_merge`, `exists_mem_merge`: a report has nothing but what was found,
  and the key of everything found that counts.
* `ascending_merge`: without two violations of one kind at the same modules, a
  report strictly ascends.
* `merge_eq_filter`: then leaving some violations out of the lists leaves them out
  of the report.
-/

namespace LayerLint

namespace Violation

theorem firsts_sublist (seen : List Key) (vs : List Violation) :
    (firsts seen vs).Sublist vs := by
  induction vs generalizing seen with
  | nil => exact .slnil
  | cons v rest ih =>
      rw [firsts]
      by_cases hv : seen.contains v.key = true
      · rw [if_pos hv]
        exact (ih seen).cons v
      · rw [if_neg hv]
        exact (ih (v.key :: seen)).cons_cons v

theorem mem_keys_firsts_iff {seen : List Key} {vs : List Violation} {k : Key} :
    k ∈ (firsts seen vs).map key ↔ k ∈ vs.map key ∧ k ∉ seen := by
  induction vs generalizing seen with
  | nil => simp [firsts]
  | cons v rest ih =>
      rw [firsts]
      by_cases hv : v.key ∈ seen
      · -- The key is there already, so it is none of those that are new.
        rw [if_pos (List.contains_iff_mem.2 hv), ih, List.map_cons, List.mem_cons]
        constructor
        · rintro ⟨hk, hnew⟩
          exact ⟨Or.inr hk, hnew⟩
        · rintro ⟨rfl | hk, hnew⟩
          · exact absurd hv hnew
          · exact ⟨hk, hnew⟩
      · rw [if_neg (fun hc => hv (List.contains_iff_mem.1 hc)), List.map_cons, List.mem_cons, ih,
          List.map_cons, List.mem_cons, List.mem_cons]
        by_cases hk : k = v.key
        · simp [hk, hv]
        · simp [hk]

theorem exists_mem_firsts {vs : List Violation} {v : Violation} (hv : v ∈ vs) :
    ∃ w ∈ firsts [] vs, w.key = v.key :=
  List.mem_map.1 (mem_keys_firsts_iff.2 ⟨List.mem_map_of_mem hv, List.not_mem_nil⟩)

theorem nodup_keys_firsts (seen : List Key) (vs : List Violation) :
    ((firsts seen vs).map key).Nodup := by
  induction vs generalizing seen with
  | nil => exact List.nodup_nil
  | cons v rest ih =>
      rw [firsts]
      by_cases hv : seen.contains v.key = true
      · rw [if_pos hv]
        exact ih seen
      · rw [if_neg hv, List.map_cons, List.nodup_cons]
        refine ⟨fun hmem => ?_, ih _⟩
        exact (mem_keys_firsts_iff.1 hmem).2 List.mem_cons_self

end Violation

/-! ## The order of reports -/

theorem ViolationKind.eq_of_name_eq {k l : ViolationKind} (h : k.name = l.name) : k = l := by
  revert h
  cases k <;> cases l <;> decide

namespace Violation

instance : Std.TransCmp order := inferInstanceAs (Std.TransCmp (compareLex _ _))

theorem order_self (v : Violation) : v.order v = .eq := Std.ReflCmp.compare_self

theorem order_swap (v w : Violation) : (w.order v).swap = v.order w :=
  Std.OrientedCmp.eq_swap.symm

theorem isLE_order_trans (u v w : Violation) (huv : (u.order v).isLE = true)
    (hvw : (v.order w).isLE = true) : (u.order w).isLE = true :=
  Std.TransCmp.isLE_trans huv hvw

theorem isLE_order_total (v w : Violation) :
    ((v.order w).isLE || (w.order v).isLE) = true := by
  rw [← order_swap v w]
  cases w.order v <;> rfl

/-- Only violations of one kind at the same modules can tie. -/
theorem of_order_eq {v w : Violation} (h : v.order w = .eq) :
    v.kind = w.kind ∧ v.modules = w.modules := by
  simp only [order, compareLex, compareOn, Ordering.then_eq_eq,
    Std.LawfulEqCmp.compare_eq_iff_eq] at h
  exact ⟨ViolationKind.eq_of_name_eq h.2.2.2.1, h.2.2.2.2.1⟩

/-- The violations stand in the order of reports, and no two of them tie. -/
def Ascending (vs : List Violation) : Prop := vs.Pairwise fun v w => v.order w = .lt

theorem Ascending.nodup {vs : List Violation} (h : Ascending vs) : vs.Nodup := by
  refine h.imp fun {v w} hlt heq => ?_
  rw [heq, order_self] at hlt
  cases hlt

/-- A list in order is decided by its members. -/
theorem Ascending.eq_of_mem_iff {vs ws : List Violation} (hvs : Ascending vs)
    (hws : Ascending ws) (h : ∀ v, v ∈ vs ↔ v ∈ ws) : vs = ws := by
  refine List.Perm.eq_of_pairwise ?_ hvs hws
    ((List.perm_ext_iff_of_nodup hvs.nodup hws.nodup).2 h)
  intro v w _ _ hvw hwv
  rw [← order_swap v w, hwv] at hvw
  cases hvw

/-- No two violations with the property are of one kind at the same modules. -/
def Separate (P : Violation → Prop) : Prop :=
  ∀ v w, P v → P w → v.kind = w.kind → v.modules = w.modules → v = w

end Violation

namespace Report

variable {lists : List (List Violation)} {v : Violation}

theorem mem_merge_iff :
    v ∈ merge lists ↔
      v ∈ Violation.firsts [] (lists.flatten.filter (·.severity ≠ .none)) :=
  List.mem_mergeSort

/-- A report has nothing but what was found and is not switched off. -/
theorem of_mem_merge (h : v ∈ merge lists) : v ∈ lists.flatten ∧ v.severity ≠ .none := by
  have hmem := (Violation.firsts_sublist _ _).mem (mem_merge_iff.1 h)
  simpa using List.mem_filter.1 hmem

/-- What was found and is not switched off has a violation with its key in the report. -/
theorem exists_mem_merge (hv : v ∈ lists.flatten) (hs : v.severity ≠ .none) :
    ∃ w ∈ merge lists, w.key = v.key := by
  have hmem : v ∈ lists.flatten.filter (·.severity ≠ .none) :=
    List.mem_filter.2 ⟨hv, by simpa using hs⟩
  obtain ⟨w, hw, hkey⟩ := Violation.exists_mem_firsts hmem
  exact ⟨w, mem_merge_iff.2 hw, hkey⟩

theorem nodup_keys_merge (lists : List (List Violation)) :
    ((merge lists).map Violation.key).Nodup :=
  ((List.mergeSort_perm _ _).map _).nodup_iff.2 (Violation.nodup_keys_firsts [] _)

/-- A report is in order. -/
theorem pairwise_isLE_merge (lists : List (List Violation)) :
    (merge lists).Pairwise fun v w => (v.order w).isLE = true := by
  unfold merge
  exact List.pairwise_mergeSort Violation.isLE_order_trans Violation.isLE_order_total _

section Separate

variable (h : Violation.Separate (· ∈ lists.flatten))

include h

/-- Everything found that counts is in the report. -/
theorem mem_merge_iff_of_separate :
    v ∈ merge lists ↔ v ∈ lists.flatten ∧ v.severity ≠ .none := by
  constructor
  · exact of_mem_merge
  · rintro ⟨hv, hs⟩
    obtain ⟨w, hw, hkey⟩ := exists_mem_merge hv hs
    rw [Violation.key, Violation.key, Violation.Key.mk.injEq] at hkey
    rwa [← h w v (of_mem_merge hw).1 hv hkey.1 hkey.2.1]

/-- No two violations of the report tie. -/
theorem ascending_merge : Violation.Ascending (merge lists) := by
  have hkeys := List.pairwise_map.1 (nodup_keys_merge lists)
  refine ((pairwise_isLE_merge lists).and hkeys).imp_of_mem fun {v w} hv hw hvw => ?_
  obtain ⟨hle, hkey⟩ := hvw
  cases horder : v.order w with
  | lt => rfl
  | eq =>
      obtain ⟨hkind, hmodules⟩ := Violation.of_order_eq horder
      exact absurd (h v w (of_mem_merge hv).1 (of_mem_merge hw).1 hkind hmodules)
        fun heq => hkey (heq ▸ rfl)
  | gt =>
      rw [horder] at hle
      cases hle

end Separate

/-- Leaving violations out of what was found leaves them out of the report. -/
theorem merge_eq_filter {fewer : List (List Violation)} {p : Violation → Bool}
    (h : Violation.Separate (· ∈ lists.flatten))
    (hfewer : ∀ v, v ∈ fewer.flatten ↔ v ∈ lists.flatten ∧ p v = true) :
    merge fewer = (merge lists).filter p := by
  have hsep : Violation.Separate (· ∈ fewer.flatten) := fun v w hv hw =>
    h v w ((hfewer v).1 hv).1 ((hfewer w).1 hw).1
  refine (ascending_merge hsep).eq_of_mem_iff ((ascending_merge h).filter _) fun v => ?_
  rw [mem_merge_iff_of_separate hsep, List.mem_filter, mem_merge_iff_of_separate h, hfewer,
    and_right_comm]

end Report

end LayerLint
