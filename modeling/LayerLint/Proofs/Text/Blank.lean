import LayerLint.Text.Blank

/-!
# Blanks at the ends of a text

Blanks are taken away at the beginning, or at both ends.  What is left has no
blanks at these ends, and a text that has none there is left as it is.

## Main results

* `strip_eq_self`: a text without blanks at its ends stays as it is.
* `head?_strip`, `getLast?_strip`: what is left has no blanks at its ends.
-/

namespace LayerLint.Text

/-- The text without the blanks at its beginning. -/
def stripFront (s : String) : String := String.ofList (s.toList.dropWhile isBlank)

variable {s t : String}

private theorem dropWhile_isBlank_eq_self {cs : List Char} (h : ∀ c ∈ cs.head?, isBlank c = false) :
    cs.dropWhile isBlank = cs := by
  cases cs with
  | nil => rfl
  | cons c rest => exact List.dropWhile_cons_of_neg (ne_true_of_eq_false (h c rfl))

theorem stripFront_eq_self (hfirst : ∀ c ∈ s.toList.head?, isBlank c = false) :
    stripFront s = s := by
  rw [stripFront, dropWhile_isBlank_eq_self hfirst, String.ofList_toList]

theorem stripFront_append (hfirst : ∀ c ∈ t.toList.head?, isBlank c = false) :
    stripFront (s ++ t) = stripFront s ++ t := by
  have hdrop := dropWhile_isBlank_eq_self hfirst
  have hlist : (s.toList ++ t.toList).dropWhile isBlank =
      s.toList.dropWhile isBlank ++ t.toList := by
    rw [List.dropWhile_append]
    split
    · next hnone => rw [hdrop, List.isEmpty_iff.1 hnone, List.nil_append]
    · rfl
  rw [stripFront, stripFront, String.toList_append, hlist, String.ofList_append,
    String.ofList_toList]

theorem mem_of_mem_stripFront {c : Char} (h : c ∈ (stripFront s).toList) : c ∈ s.toList := by
  rw [stripFront, String.toList_ofList] at h
  exact (List.dropWhile_sublist isBlank).mem h

/-- A blank is not all there is in a text without blanks at its end. -/
theorem stripFront_ne_empty (hne : s ≠ "") (hlast : ∀ c ∈ s.toList.getLast?, isBlank c = false) :
    stripFront s ≠ "" := by
  intro hnone
  have hblank : s.toList.takeWhile isBlank = s.toList := by
    rw [stripFront, String.ofList_eq_empty_iff] at hnone
    rw [← List.append_nil (s.toList.takeWhile isBlank), ← hnone, List.takeWhile_append_dropWhile]
  cases hend : s.toList.getLast? with
  | none => exact hne (String.toList_eq_nil_iff.1 (List.getLast?_eq_none_iff.1 hend))
  | some c =>
      have hall : (s.toList.takeWhile isBlank).all isBlank = true := List.all_takeWhile
      rw [hblank] at hall
      have hc := List.all_eq_true.1 hall c (List.mem_of_getLast? hend)
      rw [hlast c hend] at hc
      cases hc

/-- A text without blanks at its end. -/
theorem strip_eq_stripFront (hlast : ∀ c ∈ s.toList.getLast?, isBlank c = false) :
    strip s = stripFront s := by
  have hback : ∀ c ∈ (s.toList.dropWhile isBlank).reverse.head?, isBlank c = false := by
    intro c hc
    rw [List.head?_reverse] at hc
    refine hlast c ?_
    rw [← List.takeWhile_append_dropWhile (p := isBlank) (l := s.toList), List.getLast?_append, hc]
    rfl
  rw [strip, stripChars, dropWhile_isBlank_eq_self hback, List.reverse_reverse, stripFront]

/-- A text without blanks at its ends. -/
theorem strip_eq_self (hfirst : ∀ c ∈ s.toList.head?, isBlank c = false)
    (hlast : ∀ c ∈ s.toList.getLast?, isBlank c = false) : strip s = s :=
  (strip_eq_stripFront hlast).trans (stripFront_eq_self hfirst)

private theorem head?_dropWhile_isBlank (cs : List Char) :
    ∀ c ∈ (cs.dropWhile isBlank).head?, isBlank c = false := by
  intro c hc
  have h := List.head?_dropWhile_not isBlank cs
  rwa [hc] at h

/-- What is left begins with no blank. -/
theorem head?_strip (s : String) : ∀ c ∈ (strip s).toList.head?, isBlank c = false := by
  intro c hc
  rw [strip, String.toList_ofList, stripChars, List.head?_reverse] at hc
  -- The end of the reversed text stays, unless nothing does.
  obtain ⟨skipped, hskipped⟩ :=
    List.dropWhile_suffix isBlank (l := (s.toList.dropWhile isBlank).reverse)
  refine head?_dropWhile_isBlank s.toList c ?_
  rw [← List.reverse_reverse (s.toList.dropWhile isBlank), List.head?_reverse, ← hskipped,
    List.getLast?_append, hc]
  rfl

/-- What is taken away are blanks in front and blanks behind. -/
theorem exists_strip (s : String) :
    ∃ front back, s.toList = front ++ (strip s).toList ++ back ∧
      (∀ c ∈ front, isBlank c = true) ∧ ∀ c ∈ back, isBlank c = true := by
  have hblank : ∀ cs : List Char, ∀ c ∈ cs.takeWhile isBlank, isBlank c = true := fun cs =>
    List.all_eq_true.1 List.all_takeWhile
  let rest := s.toList.dropWhile isBlank
  have hfront : s.toList = s.toList.takeWhile isBlank ++ rest :=
    List.takeWhile_append_dropWhile.symm
  have hback : rest = (rest.reverse.dropWhile isBlank).reverse ++
      (rest.reverse.takeWhile isBlank).reverse := by
    rw [← List.reverse_append, List.takeWhile_append_dropWhile, List.reverse_reverse]
  refine ⟨s.toList.takeWhile isBlank, (rest.reverse.takeWhile isBlank).reverse, ?_,
    hblank s.toList, fun c hc => hblank rest.reverse c (List.mem_reverse.1 hc)⟩
  rw [strip, stripChars, String.toList_ofList, List.append_assoc, ← hback, ← hfront]

/-- What is left ends with no blank. -/
theorem getLast?_strip (s : String) : ∀ c ∈ (strip s).toList.getLast?, isBlank c = false := by
  intro c hc
  rw [strip, String.toList_ofList, stripChars, List.getLast?_reverse] at hc
  exact head?_dropWhile_isBlank _ c hc

end LayerLint.Text
