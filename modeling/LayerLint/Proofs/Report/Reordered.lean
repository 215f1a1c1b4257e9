import LayerLint.Proofs.Report.Stages

/-!
# The same violations in another order

Where two violations are found in one order at one time and in another order at
another time, the report should not tell.  It does not, as far as the order of
reports can tell them apart: in two such reports stand the same violations, and
at each place stand violations of one rank.

The rank of a violation is what the order compares.  It has the start of the
location but not its end, whereas the key has both.  So there are violations that
are not repetitions of one another and of which neither comes first.  They stay
in the order in which they were found, and only they do.

## Main results

* `order_eq_iff`: violations tie when they are of one rank.
* `merge_of_perm`: what does not depend on the order in which violations were found.
* `exists_report_in_found_order`: two violations that end in different places stay in
  the order in which they were found.
-/

namespace LayerLint

namespace Violation

variable {v w : Violation} {vs ws : List Violation}

/-! ## Ranks -/

/-- What the order of reports compares. -/
structure Rank where
  file : String
  line : Int
  column : Int
  kind : ViolationKind
  modules : List ModuleId
  message : String
  deriving DecidableEq

def rank (v : Violation) : Rank :=
  ⟨v.location.file, v.location.line, v.location.column, v.kind, v.modules, v.message⟩

/-- Violations tie when they are of one rank. -/
theorem order_eq_iff : v.order w = .eq ↔ v.rank = w.rank := by
  have hkind : v.kind.name = w.kind.name ↔ v.kind = w.kind :=
    ⟨ViolationKind.eq_of_name_eq, congrArg ViolationKind.name⟩
  simp only [order, compareLex, compareOn, Ordering.then_eq_eq,
    Std.LawfulEqCmp.compare_eq_iff_eq, rank, Rank.mk.injEq, hkind]

theorem rank_eq_of_isLE (hvw : (v.order w).isLE = true) (hwv : (w.order v).isLE = true) :
    v.rank = w.rank :=
  order_eq_iff.1 (Std.OrientedCmp.isLE_antisymm hvw hwv)

/-- Violations of one rank whose locations end alike have one key. -/
theorem key_eq_of_rank_eq (h : v.rank = w.rank) (hline : v.location.endLine = w.location.endLine)
    (hcolumn : v.location.endColumn = w.location.endColumn) : v.key = w.key := by
  obtain ⟨kind, modules, ⟨file, line, column, endLine, endColumn⟩, message⟩ := v
  obtain ⟨kind', modules', ⟨file', line', column', endLine', endColumn'⟩, message'⟩ := w
  simp only [rank, Rank.mk.injEq] at h
  obtain ⟨rfl, rfl, rfl, rfl, rfl, rfl⟩ := h
  obtain rfl : endLine = endLine' := hline
  obtain rfl : endColumn = endColumn' := hcolumn
  rfl

/-! ## Lists in the order of reports -/

/-- The same violations in the order of reports have the same ranks, place by place. -/
theorem InOrder.map_rank_eq (hvs : InOrder vs) (hws : InOrder ws) (hperm : vs.Perm ws) :
    vs.map rank = ws.map rank := by
  let before (p q : Rank) : Prop := ∃ v w : Violation, v.rank = p ∧ w.rank = q ∧
    (v.order w).isLE = true
  have hmap {us : List Violation} (hus : InOrder us) : (us.map rank).Pairwise before :=
    List.pairwise_map.2 (hus.imp fun {v w} hvw => ⟨v, w, rfl, rfl, hvw⟩)
  refine List.Perm.eq_of_pairwise ?_ (hmap hvs) (hmap hws) (hperm.map rank)
  rintro p q - - ⟨v, w, rfl, rfl, hvw⟩ ⟨w', v', hw, hv, hwv⟩
  -- The order sees nothing of a violation but its rank.
  have hback : (w.order v).isLE = true :=
    isLE_order_trans w w' v (by rw [order_eq_iff.2 hw.symm]; rfl)
      (isLE_order_trans w' v' v hwv (by rw [order_eq_iff.2 hv]; rfl))
  exact rank_eq_of_isLE hvw hback

/-- When no two are of one rank, there is only one such list. -/
theorem InOrder.eq_of_perm (hvs : InOrder vs) (hws : InOrder ws) (hperm : vs.Perm ws)
    (h : ∀ v ∈ vs, ∀ w ∈ vs, v.rank = w.rank → v = w) : vs = ws := by
  refine List.Perm.eq_of_pairwise ?_ hvs hws hperm
  intro v w hv hw hvw hwv
  exact h v hv w (hperm.mem_iff.2 hw) (rank_eq_of_isLE hvw hwv)

theorem inOrder_eq_self (h : InOrder vs) : inOrder vs = vs :=
  List.mergeSort_of_pairwise h

/-! ## Violations that have a key for themselves -/

section Coinciding

variable (hkeys : ∀ v ∈ vs, ∀ w ∈ vs, v.key = w.key → v = w)

include hkeys

theorem mem_firsts_iff_of_coinciding : v ∈ firsts [] vs ↔ v ∈ vs := by
  constructor
  · exact fun hv => (firsts_sublist [] vs).mem hv
  · intro hv
    obtain ⟨w, hw, hkey⟩ := exists_mem_firsts hv
    rwa [← hkeys w ((firsts_sublist [] vs).mem hw) v hv hkey]

/-- The same violations are left, whatever order they come in. -/
theorem firsts_perm (hperm : vs.Perm ws) : (firsts [] vs).Perm (firsts [] ws) := by
  have hkeys' : ∀ v ∈ ws, ∀ w ∈ ws, v.key = w.key → v = w := fun v hv w hw =>
    hkeys v (hperm.mem_iff.2 hv) w (hperm.mem_iff.2 hw)
  have hnodup (us : List Violation) : (firsts [] us).Nodup :=
    List.Pairwise.of_map key (fun _ _ hne heq => hne (congrArg key heq)) (nodup_keys_firsts [] us)
  refine (List.perm_ext_iff_of_nodup (hnodup vs) (hnodup ws)).2 fun v => ?_
  rw [mem_firsts_iff_of_coinciding hkeys, mem_firsts_iff_of_coinciding hkeys', hperm.mem_iff]

end Coinciding

end Violation

namespace Report

open Violation (inOrder)

/-- **A report does not tell in which order violations were found, save where they
tie.**  Let the same violations be found in two orders, and in other lists, and let
those with one key be equal.  Then the two reports have the same violations, and the same
ranks in the same order.  They are equal when no two of the violations differ in the end
of their locations alone. -/
theorem merge_of_perm {X Y : List (List Violation)} (hperm : X.flatten.Perm Y.flatten)
    (hkeys : ∀ v ∈ X.flatten, ∀ w ∈ X.flatten, v.key = w.key → v = w) :
    (merge X).Perm (merge Y) ∧
    (merge X).map Violation.rank = (merge Y).map Violation.rank ∧
    ((∀ v ∈ X.flatten, ∀ w ∈ X.flatten, v.rank = w.rank →
        v.location.endLine = w.location.endLine ∧
          v.location.endColumn = w.location.endColumn) →
      merge X = merge Y) := by
  have hcounting : (counting X).Perm (counting Y) := hperm.filter _
  have hsub : ∀ v ∈ counting X, v ∈ X.flatten := fun v hv => (List.mem_filter.1 hv).1
  have hfirsts := Violation.firsts_perm
    (fun v hv w hw => hkeys v (hsub v hv) w (hsub w hw)) hcounting
  have hmerge : (merge X).Perm (merge Y) :=
    (List.mergeSort_perm _ _).trans (hfirsts.trans (List.mergeSort_perm _ _).symm)
  have hX : Violation.InOrder (merge X) := pairwise_isLE_merge X
  have hY : Violation.InOrder (merge Y) := pairwise_isLE_merge Y
  refine ⟨hmerge, hX.map_rank_eq hY hmerge, fun hends => ?_⟩
  refine hX.eq_of_perm hY hmerge fun v hv w hw hrank => ?_
  have hv := (of_mem_merge hv).1
  have hw := (of_mem_merge hw).1
  obtain ⟨hline, hcolumn⟩ := hends v hv w hw hrank
  exact hkeys v hv w hw (Violation.key_eq_of_rank_eq hrank hline hcolumn)

/-- Three violations of which one was found twice, in one list and in three. -/
theorem merge_of_perm_of_repetition :
    let found (line : Int) (kind : ViolationKind) : Violation :=
      { kind := kind, modules := ["lib/a.dart", "lib/b.dart"],
        location := { file := "lib/a.dart", line := line, endLine := some (line + 1) },
        message := "" }
    let X := [[found 2 .boundary, found 1 .layer, found 2 .layer, found 1 .layer]]
    let Y := [[found 1 .layer, found 2 .layer], [], [found 1 .layer, found 2 .boundary]]
    X.flatten.Perm Y.flatten ∧ merge X = merge Y := by
  intro found X Y
  have hperm : X.flatten.Perm Y.flatten := by decide +kernel
  have hkeys : ∀ v ∈ X.flatten, ∀ w ∈ X.flatten, v.key = w.key → v = w := by decide +kernel
  have hends : ∀ v ∈ X.flatten, ∀ w ∈ X.flatten, v.rank = w.rank →
      v.location.endLine = w.location.endLine ∧ v.location.endColumn = w.location.endColumn := by
    decide +kernel
  exact ⟨hperm, (merge_of_perm hperm hkeys).2.2 hends⟩

/-- Two violations that begin at one place and end at two have different keys, and still
a report has them in the order in which they were found. -/
theorem exists_report_in_found_order :
    ∃ v w : Violation, v.key ≠ w.key ∧ [[v, w]].flatten.Perm [[w, v]].flatten ∧
      merge [[v, w]] = [v, w] ∧ merge [[w, v]] = [w, v] ∧ merge [[v, w]] ≠ merge [[w, v]] := by
  let ending (line : Int) : Violation :=
    { kind := .layer, modules := ["lib/a.dart", "lib/b.dart"],
      location := { file := "lib/a.dart", line := 3, endLine := some line }, message := "" }
  have hleft : Violation.InOrder [ending 3, ending 4] :=
    List.pairwise_pair.2 (by decide +kernel)
  have hright : Violation.InOrder [ending 4, ending 3] :=
    List.pairwise_pair.2 (by decide +kernel)
  have hmergeLeft : merge [[ending 3, ending 4]] = [ending 3, ending 4] :=
    Violation.inOrder_eq_self hleft
  have hmergeRight : merge [[ending 4, ending 3]] = [ending 4, ending 3] :=
    Violation.inOrder_eq_self hright
  refine ⟨ending 3, ending 4, by decide +kernel, by decide +kernel, hmergeLeft, hmergeRight, ?_⟩
  rw [hmergeLeft, hmergeRight]
  decide +kernel

end Report

end LayerLint
