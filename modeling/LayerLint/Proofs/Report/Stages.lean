import LayerLint.Proofs.Report

/-!
# Reports made in stages

A report may be made of other reports.  Along the way what was found is put in
order once more than it would be otherwise, and leaving out repetitions comes
after sorting instead of before it.  Neither shows in the end.

Of several violations with one key the first one stays, and a report that stands
in the place of its lists has the same first ones.  What sorting might change is
which of two violations comes first when they tie; but sorting leaves ties in the
order in which it found them.  So for every violation the ones that tie with it
stand in one order all the way through, and a list in the order of reports is
decided by them: at the same place of two such lists stand violations that tie.

## Main results

* `tied_inOrder`: sorting leaves ties as they are.
* `InOrder.eq_of_tied`: a list in order is decided by its ties.
* `merge_append_cons_merge`: a report may stand in the place of its lists.
* `merge_in_stages`: what merging in stages keeps, and what a report is.
-/

namespace LayerLint

namespace Violation

variable {s t : List Key} {u v w : Violation} {vs ws : List Violation}

/-! ## The first violation with each key -/

/-- It matters only which keys were seen. -/
theorem firsts_congr (h : ∀ k, k ∈ s ↔ k ∈ t) (vs : List Violation) :
    firsts s vs = firsts t vs := by
  induction vs generalizing s t with
  | nil => rfl
  | cons v rest ih =>
      have hnext : ∀ k, k ∈ v.key :: s ↔ k ∈ v.key :: t := fun k => by
        rw [List.mem_cons, List.mem_cons, h]
      have hseen : s.contains v.key = t.contains v.key := by
        rw [Bool.eq_iff_iff, List.contains_iff_mem, List.contains_iff_mem, h]
      rw [firsts, firsts, hseen, ih h, ih hnext]

theorem firsts_append (s : List Key) (vs ws : List Violation) :
    firsts s (vs ++ ws) = firsts s vs ++ firsts (vs.map key ++ s) ws := by
  induction vs generalizing s with
  | nil => rfl
  | cons v rest ih =>
      rw [List.cons_append, firsts, firsts]
      by_cases hv : s.contains v.key = true
      · rw [if_pos hv, if_pos hv, ih]
        refine congrArg _ (firsts_congr (fun k => ?_) ws)
        have hmem : v.key ∈ s := List.contains_iff_mem.1 hv
        simp only [List.map_cons, List.cons_append, List.mem_cons, List.mem_append]
        constructor
        · exact Or.inr
        · rintro (rfl | hk)
          · exact Or.inr hmem
          · exact hk
      · rw [if_neg hv, if_neg hv, ih, List.cons_append]
        refine congrArg _ (congrArg _ (firsts_congr (fun k => ?_) ws))
        simp only [List.map_cons, List.cons_append, List.mem_cons, List.mem_append]
        exact or_left_comm

/-- Keys that were seen can as well be left out afterwards. -/
theorem firsts_append_seen (s t : List Key) (vs : List Violation) :
    firsts (s ++ t) vs = (firsts t vs).filter fun v => v.key ∉ s := by
  induction vs generalizing t with
  | nil => rfl
  | cons v rest ih =>
      have hnext : firsts (v.key :: (s ++ t)) rest = firsts (s ++ v.key :: t) rest :=
        firsts_congr (fun k => by simp [or_left_comm]) rest
      rw [firsts, firsts]
      by_cases ht : v.key ∈ t
      · rw [if_pos (List.contains_iff_mem.2 (List.mem_append_right s ht)),
          if_pos (List.contains_iff_mem.2 ht), ih]
      · rw [if_neg (mt List.contains_iff_mem.1 ht)]
        by_cases hs : v.key ∈ s
        · have hsame : firsts (s ++ t) rest = firsts (s ++ v.key :: t) rest :=
            firsts_congr (fun k => by grind) rest
          rw [if_pos (List.contains_iff_mem.2 (List.mem_append_left t hs)), hsame, ih,
            List.filter_cons_of_neg (by simpa using hs)]
        · rw [if_neg (by simp [hs, ht]), hnext, ih, List.filter_cons_of_pos (by simpa using hs)]

/-- There is nothing to leave out of violations with different keys. -/
theorem firsts_eq_self (h : (vs.map key).Nodup) (hs : ∀ v ∈ vs, v.key ∉ s) :
    firsts s vs = vs := by
  induction vs generalizing s with
  | nil => rfl
  | cons v rest ih =>
      rw [List.map_cons, List.nodup_cons] at h
      rw [List.forall_mem_cons] at hs
      rw [firsts, if_neg (mt List.contains_iff_mem.1 hs.1), ih h.2]
      intro w hw
      rw [List.mem_cons, not_or]
      exact ⟨fun heq => h.1 (heq ▸ List.mem_map_of_mem hw), hs.2 w hw⟩

/-- With a key stays the first violation that has it. -/
theorem filter_key_firsts (s : List Key) (vs : List Violation) (k : Key) :
    (firsts s vs).filter (·.key = k) =
      if k ∈ s then [] else (vs.find? (·.key = k)).toList := by
  induction vs generalizing s with
  | nil => simp [firsts]
  | cons v rest ih =>
      rw [firsts]
      by_cases hs : v.key ∈ s
      · rw [if_pos (List.contains_iff_mem.2 hs), ih]
        by_cases hk : k ∈ s
        · rw [if_pos hk, if_pos hk]
        · have hv : v.key ≠ k := fun heq => hk (heq ▸ hs)
          rw [if_neg hk, if_neg hk, List.find?_cons_of_neg (by simpa using hv)]
      · rw [if_neg (mt List.contains_iff_mem.1 hs)]
        by_cases hv : v.key = k
        · subst hv
          rw [List.filter_cons_of_pos (by simp), ih, if_pos List.mem_cons_self, if_neg hs,
            List.find?_cons_of_pos (by simp), Option.toList_some]
        · rw [List.filter_cons_of_neg (by simpa using hv), ih,
            List.find?_cons_of_neg (by simpa using hv)]
          simp [Ne.symm hv]

/-! ## Ties -/

/-- The violations that tie with a given one, in their order. -/
def tied (u : Violation) (vs : List Violation) : List Violation :=
  vs.filter fun v => u.order v = .eq

theorem mem_tied_iff : v ∈ tied u vs ↔ v ∈ vs ∧ u.order v = .eq := by
  simp [tied]

theorem tied_append (u : Violation) (vs ws : List Violation) :
    tied u (vs ++ ws) = tied u vs ++ tied u ws :=
  List.filter_append ..

theorem tied_filter (u : Violation) (p : Violation → Bool) (vs : List Violation) :
    tied u (vs.filter p) = (tied u vs).filter p := by
  rw [tied, tied, List.filter_filter, List.filter_filter]
  exact List.filter_congr fun v _ => Bool.and_comm ..

theorem order_eq_symm (h : v.order w = .eq) : w.order v = .eq := by
  rw [← order_swap, h]
  rfl

theorem order_eq_trans (huv : u.order v = .eq) (hvw : v.order w = .eq) : u.order w = .eq :=
  Std.TransCmp.eq_trans huv hvw

/-- Violations that tie come in any order. -/
theorem pairwise_tied (u : Violation) (vs : List Violation) :
    (tied u vs).Pairwise fun v w => (v.order w).isLE = true := by
  refine List.pairwise_of_forall_mem_list fun v hv w hw => ?_
  rw [order_eq_trans (order_eq_symm (mem_tied_iff.1 hv).2) (mem_tied_iff.1 hw).2]
  rfl

/-- The violations stand in the order of reports; those that tie may stand in any order.
-/
def InOrder (vs : List Violation) : Prop := vs.Pairwise fun v w => (v.order w).isLE = true

/-- The violations put in the order of reports. -/
def inOrder (vs : List Violation) : List Violation :=
  vs.mergeSort fun v w => (v.order w).isLE

theorem inOrder_inOrder (vs : List Violation) : InOrder (inOrder vs) :=
  List.pairwise_mergeSort isLE_order_trans isLE_order_total vs

/-- Sorting leaves ties as they are. -/
theorem tied_inOrder (u : Violation) (vs : List Violation) :
    tied u (inOrder vs) = tied u vs := by
  have hsub : (tied u vs).Sublist (inOrder vs) :=
    List.sublist_mergeSort isLE_order_trans isLE_order_total (pairwise_tied u vs)
      List.filter_sublist
  have htied : tied u (tied u vs) = tied u vs :=
    List.filter_eq_self.2 fun v hv => by simpa using (mem_tied_iff.1 hv).2
  have hperm : (tied u (inOrder vs)).Perm (tied u vs) := (List.mergeSort_perm vs _).filter _
  have hback : (tied u vs).Sublist (tied u (inOrder vs)) := by
    rw [← htied]
    exact hsub.filter _
  exact (hback.eq_of_length hperm.length_eq.symm).symm

theorem InOrder.order_eq_of_tied {v w : Violation} (hvs : InOrder (v :: vs))
    (hws : InOrder (w :: ws)) (h : ∀ u, tied u (v :: vs) = tied u (w :: ws)) :
    v.order w = .eq := by
  have hle {a b : Violation} {as bs : List Violation} (has : InOrder (a :: as))
      (htied : tied b (a :: as) = tied b (b :: bs)) : (a.order b).isLE = true := by
    have hb : b ∈ tied b (a :: as) := by
      rw [htied]
      exact mem_tied_iff.2 ⟨List.mem_cons_self, order_self b⟩
    rcases List.mem_cons.1 (mem_tied_iff.1 hb).1 with rfl | hmem
    · rw [order_self]
      rfl
    · exact List.rel_of_pairwise_cons has hmem
  exact Std.OrientedCmp.isLE_antisymm (hle hvs (h w)) (hle hws (h v).symm)

/-- A list in the order of reports is decided by its ties. -/
theorem InOrder.eq_of_tied (hvs : InOrder vs) (hws : InOrder ws)
    (h : ∀ u, tied u vs = tied u ws) : vs = ws := by
  induction vs generalizing ws with
  | nil =>
      cases ws with
      | nil => rfl
      | cons w rest =>
          have hw : w ∈ tied w [] := h w ▸ mem_tied_iff.2 ⟨List.mem_cons_self, order_self w⟩
          cases hw
  | cons v vs ih =>
      cases ws with
      | nil =>
          have hv : v ∈ tied v [] := h v ▸ mem_tied_iff.2 ⟨List.mem_cons_self, order_self v⟩
          cases hv
      | cons w ws =>
          -- The first ones tie, so both are the first one of the same ties.
          have horder := hvs.order_eq_of_tied hws h
          have hfirst : v = w := by
            have hv := h v
            rw [tied, tied, List.filter_cons_of_pos (by simpa using order_self v),
              List.filter_cons_of_pos (by simpa using horder)] at hv
            exact (List.cons.inj hv).1
          subst hfirst
          refine congrArg _ (ih hvs.of_cons hws.of_cons fun u => ?_)
          have hu := h u
          rw [tied, tied, List.filter_cons, List.filter_cons] at hu
          split at hu
          · exact (List.cons.inj hu).2
          · exact hu

end Violation

/-! ## Reports of reports -/

namespace Report

open Violation (firsts tied inOrder InOrder)

/-- What counts of what was found. -/
def counting (lists : List (List Violation)) : List Violation :=
  lists.flatten.filter (·.severity ≠ .none)

theorem merge_eq_inOrder (lists : List (List Violation)) :
    merge lists = inOrder (firsts [] (counting lists)) := rfl

theorem counting_append (X Y : List (List Violation)) :
    counting (X ++ Y) = counting X ++ counting Y := by
  rw [counting, List.flatten_append, List.filter_append, counting, counting]

theorem counting_cons (vs : List Violation) (X : List (List Violation)) :
    counting (vs :: X) = counting [vs] ++ counting X :=
  counting_append [vs] X

theorem counting_merge (X : List (List Violation)) : counting [merge X] = merge X := by
  rw [counting, List.flatten_singleton, List.filter_eq_self]
  exact fun v hv => by simpa using (of_mem_merge hv).2

theorem mem_keys_merge_iff {X : List (List Violation)} {k : Violation.Key} :
    k ∈ (merge X).map Violation.key ↔ k ∈ (counting X).map Violation.key := by
  rw [merge_eq_inOrder, inOrder, ((List.mergeSort_perm _ _).map _).mem_iff,
    Violation.mem_keys_firsts_iff]
  exact and_iff_left List.not_mem_nil

/-- A report may stand in the place of the lists that it was made of. -/
theorem merge_append_cons_merge (X Y Z : List (List Violation)) :
    merge (X ++ merge Y :: Z) = merge (X ++ Y ++ Z) := by
  rw [merge_eq_inOrder (X ++ merge Y :: Z), merge_eq_inOrder (X ++ Y ++ Z), counting_append,
    counting_cons, counting_merge, counting_append, counting_append, List.append_assoc]
  refine (Violation.inOrder_inOrder _).eq_of_tied (Violation.inOrder_inOrder _) fun u => ?_
  simp only [Violation.tied_inOrder, Violation.firsts_append, Violation.tied_append]
  have hkeys : ∀ seen, firsts ((merge Y).map Violation.key ++ seen) (counting Z) =
      firsts ((counting Y).map Violation.key ++ seen) (counting Z) := fun seen =>
    Violation.firsts_congr (fun k => by
      rw [List.mem_append, List.mem_append, mem_keys_merge_iff]) _
  have hmiddle : ∀ seen, tied u (firsts seen (merge Y)) = tied u (firsts seen (counting Y)) := by
    intro seen
    have hleft := Violation.firsts_append_seen seen [] (merge Y)
    have hright := Violation.firsts_append_seen seen [] (counting Y)
    rw [List.append_nil] at hleft hright
    rw [hleft, hright, Violation.firsts_eq_self (nodup_keys_merge Y) fun _ _ => List.not_mem_nil,
      Violation.tied_filter, Violation.tied_filter, merge_eq_inOrder, Violation.tied_inOrder]
  rw [hkeys, hmiddle]

/-- Making a report of a report changes nothing. -/
theorem merge_merge (X : List (List Violation)) : merge [merge X] = merge X := by
  have h := merge_append_cons_merge [] X []
  rwa [List.append_nil] at h

theorem merge_append (X Y : List (List Violation)) :
    merge [merge X, merge Y] = merge (X ++ Y) := by
  have hfirst := merge_append_cons_merge [] X [merge Y]
  have hsecond := merge_append_cons_merge X Y []
  rw [List.append_nil] at hsecond
  exact hfirst.trans hsecond

/-- With a key the report has the first violation that counts and has it. -/
theorem filter_key_merge (X : List (List Violation)) (k : Violation.Key) :
    (merge X).filter (·.key = k) = ((counting X).find? (·.key = k)).toList := by
  have hperm : ((merge X).filter (·.key = k)).Perm ((counting X).find? (·.key = k)).toList := by
    have h := (List.mergeSort_perm (firsts [] (counting X)) fun v w => (v.order w).isLE).filter
      (·.key = k)
    rwa [Violation.filter_key_firsts, if_neg List.not_mem_nil] at h
  cases hfind : (counting X).find? (·.key = k) with
  | none =>
      rw [hfind] at hperm
      exact List.perm_nil.1 hperm
  | some v =>
      rw [hfind] at hperm
      exact List.perm_singleton.1 hperm

/-- **Reports can be merged in stages.**  The report of two reports is that of
everything the two were made of; so making a report of one report changes nothing, and
of three lists one may merge the first two first, or the last two.  A report stands in
the order of reports, has nothing that is switched off and no two violations with one
key, and with every key it has the first violation that was found with that key and is
not switched off. -/
theorem merge_in_stages (X Y : List (List Violation)) :
    merge [merge X, merge Y] = merge (X ++ Y) ∧
    merge [merge X] = merge X ∧
    (∀ first second third : List Violation,
      merge [merge [first, second], third] = merge [first, merge [second, third]]) ∧
    (merge X).Pairwise (fun v w => (v.order w).isLE = true) ∧
    (∀ v ∈ merge X, v.severity ≠ .none) ∧
    ((merge X).map Violation.key).Nodup ∧
    (∀ k : Violation.Key, (merge X).filter (·.key = k) =
      (X.flatten.find? fun v => v.severity ≠ .none ∧ v.key = k).toList) := by
  refine ⟨merge_append X Y, merge_merge X, ?_, pairwise_isLE_merge X,
    fun v hv => (of_mem_merge hv).2, nodup_keys_merge X, ?_⟩
  · intro first second third
    have hleft := merge_append_cons_merge [] [first, second] [third]
    have hright := merge_append_cons_merge [first] [second, third] []
    exact hleft.trans hright.symm
  · intro k
    rw [filter_key_merge, counting, List.find?_filter]
    simp only [Bool.decide_and, Bool.decide_eq_true]

end Report

end LayerLint
