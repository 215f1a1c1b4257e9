import LayerLint.Proofs.Text.Blank
import LayerLint.Text.Case

/-!
# Lower case is final

Every character of a lower-case text is its own lower case, so lower case twice
is lower case once.  For a character that a run moves this is a question about the
tables: the stretch that a run leads to has to keep clear of all the runs.  Two
stretches are apart when one ends before the other begins, or when they go through
every other character and never meet.

In the same way the runs keep clear of the blanks, so that a text without blanks
at its ends has none there in lower case either.

## Main results

* `image?_of_leadsPast`: the stretch that one run leads to keeps clear of another.
* `isLower_of_mem_lowerAfter`: all characters of a lower-case text are settled.
* `lower_lower`: lower case twice is lower case once.
* `strip_lower_strip`: lower case does not bring blanks to the ends.
-/

namespace LayerLint.Text

/-! ## Where runs lead -/

namespace CaseRun

/-- The code point to which the first character of the run moves. -/
def start (r : CaseRun) : Nat := (r.first + r.shift).toNat

/-- The code point behind which the run leads to nothing more. -/
def finish (r : CaseRun) : Nat := r.start + (r.last - r.first)

/-- The run leads to characters only. -/
def leadsToCharacters (r : CaseRun) : Bool :=
  0 ≤ r.first + r.shift && (r.finish < 0xD800 || (0xDFFF < r.start && r.finish < 0x110000))

/-- The stretch that a run leads to keeps clear of another run. -/
def leadsPast (r s : CaseRun) : Bool :=
  r.finish.blt s.first || s.last.blt r.start ||
    ((r.first == r.last || r.stride % s.stride == 0) && r.start % s.stride != s.first % s.stride)

variable {r s : CaseRun} {c d : Char}

/-- A character of the run moves along with the first one. -/
theorem exists_offset (hchars : r.leadsToCharacters = true) (h : r.image? c = some d) :
    ∃ i, r.first + i ≤ r.last ∧ i % r.stride = 0 ∧ d.toNat = r.start + i := by
  simp only [leadsToCharacters, Bool.and_eq_true, Bool.or_eq_true, decide_eq_true_eq] at hchars
  rw [finish] at hchars
  rw [image?] at h
  split at h
  · next hc =>
    simp only [Bool.and_eq_true, decide_eq_true_eq, beq_iff_eq] at hc
    have hstart : (r.start : Int) = r.first + r.shift := Int.toNat_of_nonneg hchars.1
    have hmoved : ((c.toNat : Int) + r.shift).toNat = r.start + (c.toNat - r.first) := by omega
    have hvalid : (r.start + (c.toNat - r.first)).isValidChar := by
      unfold Nat.isValidChar
      omega
    refine ⟨c.toNat - r.first, by omega, hc.2, ?_⟩
    cases h
    rw [hmoved, Char.ofNat, dif_pos hvalid]
    rfl
  · cases h

/-- What one run leads to is in no run that it leads past. -/
theorem image?_of_leadsPast (hchars : r.leadsToCharacters = true) (hpast : r.leadsPast s = true)
    (h : r.image? c = some d) : s.image? d = none := by
  obtain ⟨i, hlast, hstride, hd⟩ := exists_offset hchars h
  simp only [leadsPast, finish, Bool.or_eq_true, Nat.blt_eq, Bool.and_eq_true, beq_iff_eq,
    bne_iff_ne] at hpast
  rw [image?]
  refine if_neg fun hs => ?_
  simp only [Bool.and_eq_true, decide_eq_true_eq, beq_iff_eq, hd] at hs
  rcases hpast with (hbefore | hbehind) | ⟨hsteps, hnever⟩
  · omega
  · omega
  · -- All of the stretch is as far from a character of the other run as its beginning.
    have hi : i % s.stride = 0 := by
      rcases hsteps with hsingle | hsteps
      · obtain rfl : i = 0 := by omega
        exact Nat.zero_mod _
      · exact Nat.mod_eq_zero_of_dvd
          (Nat.dvd_trans (Nat.dvd_of_mod_eq_zero hsteps) (Nat.dvd_of_mod_eq_zero hstride))
    obtain ⟨k, hk⟩ := Nat.dvd_of_mod_eq_zero hs.2
    refine hnever ?_
    calc r.start % s.stride
        _ = (r.start + i) % s.stride := by rw [Nat.add_mod, hi, Nat.add_zero, Nat.mod_mod]
        _ = (s.first + s.stride * k) % s.stride := by rw [← hk, Nat.add_sub_cancel' hs.1.1]
        _ = s.first % s.stride := Nat.add_mul_mod_self_left _ _ _

end CaseRun

/-! ## Characters in lower case -/

/-- The character stays as it is in lower case, whatever stands around it. -/
def IsLower (c : Char) : Prop := c ≠ 'Σ' ∧ lowerChar c = [c]

instance (c : Char) : Decidable (IsLower c) := inferInstanceAs (Decidable (_ ∧ _))

/-- What has to be kept clear of: the characters that runs or expansions move, and the
blanks. -/
def unsettledRuns : List CaseRun :=
  lowerRuns ++ lowerExpansions.map (fun e => ⟨e.1.toNat, e.1.toNat, 1, 0⟩) ++
    blankRanges.map fun range => ⟨range.1, range.2, 1, 0⟩

/-- Nothing moves the character, and it is no blank. -/
def isSettled (c : Char) : Bool := unsettledRuns.all fun s => (s.image? c).isNone

theorem leadsToCharacters_lowerRuns :
    (lowerRuns.all fun r => r.leadsToCharacters) = true := by
  decide +kernel

theorem leadsPast_unsettledRuns :
    (lowerRuns.all fun r => unsettledRuns.all fun s => r.leadsPast s) = true := by
  decide +kernel

variable {c d : Char}

/-- A single stretch that a run of steps of one covers. -/
theorem image?_unit {first last : Nat} (h : CaseRun.image? ⟨first, last, 1, 0⟩ c = none) :
    ¬(first ≤ c.toNat ∧ c.toNat ≤ last) := by
  intro hc
  simp [CaseRun.image?, hc.1, hc.2, Nat.mod_one] at h

theorem isLower_of_isSettled (hsettled : isSettled c = true) : IsLower c ∧ isBlank c = false := by
  have h : ∀ s ∈ unsettledRuns, s.image? c = none := fun s hs =>
    Option.isNone_iff_eq_none.1 (List.all_eq_true.1 hsettled s hs)
  have hruns : ∀ s ∈ lowerRuns, s.image? c = none := fun s hs =>
    h s (List.mem_append_left _ (List.mem_append_left _ hs))
  have hexpansions : ∀ e ∈ lowerExpansions,
      CaseRun.image? ⟨e.1.toNat, e.1.toNat, 1, 0⟩ c = none := fun e he =>
    h _ (List.mem_append_left _ (List.mem_append_right _ (List.mem_map_of_mem he)))
  have hblanks : ∀ range ∈ blankRanges, CaseRun.image? ⟨range.1, range.2, 1, 0⟩ c = none :=
    fun range hrange => h _ (List.mem_append_right _ (List.mem_map_of_mem hrange))
  refine ⟨⟨?_, ?_⟩, ?_⟩
  · rintro rfl
    have hmoved : ∃ s ∈ lowerRuns, s.image? 'Σ' ≠ none := by decide +kernel
    obtain ⟨s, hs, himage⟩ := hmoved
    exact himage (hruns s hs)
  · rw [lowerChar]
    split
    · next hascii =>
      have hletters : ∀ n < 0x80, CaseRun.image? ⟨0x41, 0x5A, 1, 32⟩ (Char.ofNat n) = none →
          (Char.ofNat n).toLower = Char.ofNat n := by decide +kernel
      have hc := hletters c.toNat hascii
      rw [Char.ofNat_toNat] at hc
      rw [hc (hruns _ List.mem_cons_self)]
    · have hlookup : lowerExpansions.lookup c = none := by
        refine List.lookup_eq_none_iff.2 fun e he => bne_iff_ne.2 ?_
        rintro rfl
        exact image?_unit (hexpansions e he) ⟨Nat.le_refl _, Nat.le_refl _⟩
      have hfind : lowerRuns.findSome? (·.image? c) = none := List.findSome?_eq_none_iff.2 hruns
      rw [mapCase, hlookup, hfind]
      rfl
  · rw [isBlank, RangeTable.holds, List.any_eq_false]
    intro range hrange
    simpa using image?_unit (hblanks range hrange)

/-- A character becomes one in lower case, unless it has an expansion, and what was no
blank is none then either. -/
theorem lowerWithin_cases (before : List Char) (c : Char) (after : List Char) :
    (∃ d, lowerWithin before c after = [d] ∧ IsLower d ∧ (isBlank c = false → isBlank d = false)) ∨
      (c, lowerWithin before c after) ∈ lowerExpansions := by
  rw [lowerWithin]
  split
  · have hsigmas : isSettled 'ς' = true ∧ isSettled 'σ' = true := by decide +kernel
    split
    · have hlower := isLower_of_isSettled hsigmas.1
      exact Or.inl ⟨'ς', rfl, hlower.1, fun _ => hlower.2⟩
    · have hlower := isLower_of_isSettled hsigmas.2
      exact Or.inl ⟨'σ', rfl, hlower.1, fun _ => hlower.2⟩
  · next hsigma =>
    rw [lowerChar]
    split
    · next hascii =>
      have hletters : ∀ n < 0x80, IsLower (Char.ofNat n).toLower ∧
          (isBlank (Char.ofNat n) = false → isBlank (Char.ofNat n).toLower = false) := by
        decide +kernel
      have hc := hletters c.toNat hascii
      rw [Char.ofNat_toNat] at hc
      exact Or.inl ⟨c.toLower, rfl, hc⟩
    · next hascii =>
      rw [mapCase]
      split
      · next cs hlookup =>
        obtain ⟨front, back, heq, -⟩ := List.lookup_eq_some_iff.1 hlookup
        exact Or.inr (heq ▸ List.mem_append_right front List.mem_cons_self)
      · next hlookup =>
        cases hfind : lowerRuns.findSome? (·.image? c) with
        | none =>
            have hlower : lowerChar c = [c] := by
              rw [lowerChar, if_neg hascii, mapCase, hlookup, hfind]
              rfl
            exact Or.inl ⟨c, rfl, ⟨hsigma, hlower⟩, id⟩
        | some d =>
            obtain ⟨r, hr, himage⟩ := List.exists_of_findSome?_eq_some hfind
            have hsettled : isSettled d = true := by
              have hpast := List.all_eq_true.1 leadsPast_unsettledRuns r hr
              refine List.all_eq_true.2 fun s hs => Option.isNone_iff_eq_none.2 ?_
              exact CaseRun.image?_of_leadsPast
                (List.all_eq_true.1 leadsToCharacters_lowerRuns r hr)
                (List.all_eq_true.1 hpast s hs) himage
            have hlower := isLower_of_isSettled hsettled
            exact Or.inl ⟨d, rfl, hlower.1, fun _ => hlower.2⟩

theorem isSettled_of_mem_lowerExpansions {e : Char × List Char} (h : e ∈ lowerExpansions) :
    e.2 ≠ [] ∧ ∀ d ∈ e.2, isSettled d = true := by
  have hall : (lowerExpansions.all fun e => !e.2.isEmpty && e.2.all isSettled) = true := by
    decide +kernel
  have he := List.all_eq_true.1 hall e h
  rw [Bool.and_eq_true, Bool.not_eq_true', List.isEmpty_eq_false_iff, List.all_eq_true] at he
  exact he

theorem isLower_of_mem_lowerWithin {before after : List Char} (h : d ∈ lowerWithin before c after) :
    IsLower d ∧ (isBlank c = false → isBlank d = false) := by
  rcases lowerWithin_cases before c after with ⟨x, hx, hlower⟩ | hexpansion
  · rw [hx, List.mem_singleton] at h
    exact h ▸ hlower
  · have hsettled := (isSettled_of_mem_lowerExpansions hexpansion).2 d h
    have hlower := isLower_of_isSettled hsettled
    exact ⟨hlower.1, fun _ => hlower.2⟩

theorem lowerWithin_ne_nil (before : List Char) (c : Char) (after : List Char) :
    lowerWithin before c after ≠ [] := by
  rcases lowerWithin_cases before c after with ⟨d, hd, -⟩ | hexpansion
  · exact hd ▸ List.cons_ne_nil d []
  · exact (isSettled_of_mem_lowerExpansions hexpansion).1

/-! ## Texts in lower case -/

theorem isLower_of_mem_lowerAfter {before cs : List Char} (h : d ∈ lowerAfter before cs) :
    IsLower d := by
  induction cs generalizing before with
  | nil => exact absurd h List.not_mem_nil
  | cons c after ih =>
      rcases List.mem_append.1 h with h | h
      · exact (isLower_of_mem_lowerWithin h).1
      · exact ih h

theorem lowerAfter_eq_self {before cs : List Char} (h : ∀ c ∈ cs, IsLower c) :
    lowerAfter before cs = cs := by
  induction cs generalizing before with
  | nil => rfl
  | cons c after ih =>
      obtain ⟨⟨hsigma, hlower⟩, hafter⟩ := List.forall_mem_cons.1 h
      rw [lowerAfter, lowerWithin, if_neg hsigma, hlower, ih hafter, List.singleton_append]

/-- Lower case twice is lower case once. -/
theorem lower_lower (s : String) : lower (lower s) = lower s := by
  have hall : ∀ c ∈ (lower s).toList, IsLower c := by
    intro c hc
    rw [lower, String.toList_ofList] at hc
    exact isLower_of_mem_lowerAfter hc
  rw [lower, lowerAfter_eq_self hall, String.ofList_toList]

/-- The last character is put into lower case behind all others. -/
theorem exists_lowerAfter_concat (before cs : List Char) (c : Char) :
    ∃ front context, lowerAfter before (cs ++ [c]) = front ++ lowerWithin context c [] := by
  induction cs generalizing before with
  | nil => exact ⟨[], before, by rw [List.nil_append, lowerAfter, lowerAfter, List.append_nil,
      List.nil_append]⟩
  | cons first more ih =>
      obtain ⟨front, context, h⟩ := ih (first :: before)
      exact ⟨_, context, by rw [List.cons_append, lowerAfter, h, List.append_assoc]⟩

/-- A text without blanks at its ends has none there in lower case. -/
theorem strip_lower_strip (s : String) : strip (lower (strip s)) = lower (strip s) := by
  have hfirst := head?_strip s
  have hlast := getLast?_strip s
  generalize strip s = t at hfirst hlast
  refine strip_eq_self (fun d hd => ?_) fun d hd => ?_
  · rw [lower, String.toList_ofList] at hd
    cases ht : t.toList with
    | nil =>
        rw [ht] at hd
        cases hd
    | cons c after =>
        have hne := lowerWithin_ne_nil [] c after
        rw [ht, lowerAfter, List.head?_append, List.head?_eq_some_head hne, Option.some_or] at hd
        cases hd
        exact (isLower_of_mem_lowerWithin (List.head_mem hne)).2 (hfirst c (ht ▸ rfl))
  · rw [lower, String.toList_ofList] at hd
    rcases List.eq_nil_or_concat t.toList with ht | ⟨front, c, ht⟩
    · rw [ht] at hd
      cases hd
    · rw [List.concat_eq_append] at ht
      obtain ⟨back, context, hend⟩ := exists_lowerAfter_concat [] front c
      have hne := lowerWithin_ne_nil context c []
      rw [ht, hend, List.getLast?_append, List.getLast?_eq_some_getLast hne, Option.some_or] at hd
      cases hd
      exact (isLower_of_mem_lowerWithin (List.getLast_mem hne)).2
        (hlast c (by rw [ht, List.getLast?_concat]; rfl))

end LayerLint.Text
