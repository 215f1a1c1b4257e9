import LayerLint.Text.Split

/-!
# Pieces of a text

Cutting a text at a separator and writing its pieces again gives the text.  The
other way round it takes pieces in which the separator does not occur, and at
least one of them, because even the empty text has a piece.

A text that is cut in two at one of its separators is cut further in each half
for itself, and pieces are written in two halves with a separator in between.
So the ends of a text that stand behind a separator are the texts that some of
its last pieces make up.

## Main results

* `split_join`: pieces without the separator come back.
* `pieces_append_cons`, `glue_append`: both ways, a separator keeps two halves apart.
-/

namespace LayerLint.Text

variable {sep : Char} {cs front back : List Char} {ps qs : List (List Char)}

/-! ## Two halves -/

theorem pieces_append_cons (sep : Char) (front back : List Char) :
    pieces sep (front ++ sep :: back) = pieces sep front ++ pieces sep back := by
  induction front with
  | nil => simp [pieces]
  | cons c rest ih =>
      rw [List.cons_append, pieces, pieces, ih]
      by_cases hc : c = sep
      · rw [if_pos hc, if_pos hc, List.cons_append]
      · rw [if_neg hc, if_neg hc]
        cases hrest : pieces sep rest with
        | nil => exact absurd hrest (pieces_ne_nil sep rest)
        | cons piece more => rfl

theorem glue_append {mark : List Char} (hps : ps ≠ []) (hqs : qs ≠ []) :
    glue mark (ps ++ qs) = glue mark ps ++ mark ++ glue mark qs := by
  induction ps with
  | nil => exact absurd rfl hps
  | cons piece more ih =>
      cases more with
      | nil =>
          cases qs with
          | nil => exact absurd rfl hqs
          | cons next qs => rfl
      | cons next more =>
          rw [List.cons_append, List.cons_append, glue, ← List.cons_append,
            ih (List.cons_ne_nil next more), glue]
          simp only [List.append_assoc]

/-! ## Pieces without the separator -/

theorem not_mem_of_mem_pieces {piece : List Char} (h : piece ∈ pieces sep cs) : sep ∉ piece := by
  induction cs generalizing piece with
  | nil =>
      rw [pieces, List.mem_singleton] at h
      exact h ▸ List.not_mem_nil
  | cons c rest ih =>
      rw [pieces] at h
      by_cases hc : c = sep
      · rw [if_pos hc, List.mem_cons] at h
        rcases h with rfl | h
        · exact List.not_mem_nil
        · exact ih h
      · rw [if_neg hc] at h
        cases hrest : pieces sep rest with
        | nil => exact absurd hrest (pieces_ne_nil sep rest)
        | cons first more =>
            rw [hrest] at h ih
            rcases List.mem_cons.1 h with rfl | h
            · rw [List.mem_cons, not_or]
              exact ⟨Ne.symm hc, ih List.mem_cons_self⟩
            · exact ih (List.mem_cons_of_mem first h)

theorem pieces_of_not_mem (h : sep ∉ cs) : pieces sep cs = [cs] := by
  induction cs with
  | nil => rfl
  | cons c rest ih =>
      rw [List.mem_cons, not_or] at h
      rw [pieces, if_neg (Ne.symm h.1), ih h.2]

theorem pieces_glue (hps : ps ≠ []) (h : ∀ piece ∈ ps, sep ∉ piece) :
    pieces sep (glue [sep] ps) = ps := by
  induction ps with
  | nil => exact absurd rfl hps
  | cons piece more ih =>
      have hpiece : pieces sep piece = [piece] := pieces_of_not_mem (h piece List.mem_cons_self)
      cases more with
      | nil => exact hpiece
      | cons next more =>
          have hmore := ih (List.cons_ne_nil next more) fun p hp =>
            h p (List.mem_cons_of_mem piece hp)
          rw [glue, List.append_assoc, List.singleton_append, pieces_append_cons, hpiece, hmore]
          rfl

/-- Every separator adds one piece. -/
theorem length_pieces (sep : Char) (cs : List Char) :
    (pieces sep cs).length = cs.count sep + 1 := by
  induction cs with
  | nil => rfl
  | cons c rest ih =>
      rw [pieces]
      by_cases hc : c = sep
      · rw [if_pos hc, List.length_cons, ih, hc, List.count_cons_self]
      · rw [if_neg hc, List.count_cons_of_ne hc, ← ih]
        cases hrest : pieces sep rest with
        | nil => exact absurd hrest (pieces_ne_nil sep rest)
        | cons piece more => rfl

/-! ## Texts -/

theorem split_ne_nil (sep : Char) (s : String) : split sep s ≠ [] := fun h =>
  pieces_ne_nil sep s.toList (List.map_eq_nil_iff.1 h)

theorem not_mem_of_mem_split {s part : String} (h : part ∈ split sep s) : sep ∉ part.toList := by
  obtain ⟨piece, hpiece, rfl⟩ := List.mem_map.1 h
  rw [String.toList_ofList]
  exact not_mem_of_mem_pieces hpiece

/-- Pieces without the separator come back. -/
theorem split_join {parts : List String} (hparts : parts ≠ [])
    (h : ∀ part ∈ parts, sep ∉ part.toList) :
    split sep (join (String.singleton sep) parts) = parts := by
  have hpieces : pieces sep (glue [sep] (parts.map String.toList)) = parts.map String.toList := by
    refine pieces_glue (fun hnil => hparts (List.map_eq_nil_iff.1 hnil)) fun piece hpiece => ?_
    obtain ⟨part, hpart, rfl⟩ := List.mem_map.1 hpiece
    exact h part hpart
  rw [split, join, String.toList_ofList, String.toList_singleton, hpieces, List.map_map]
  simp [Function.comp_def]

/-- A text is cut in its halves, each for itself. -/
theorem split_append (sep : Char) (front back : String) :
    split sep (front ++ String.singleton sep ++ back) = split sep front ++ split sep back := by
  rw [split, split, split, String.toList_append, String.toList_append, String.toList_singleton,
    List.append_assoc, List.singleton_append, pieces_append_cons, List.map_append]

theorem join_append {mark : String} {parts more : List String} (hparts : parts ≠ [])
    (hmore : more ≠ []) :
    join mark (parts ++ more) = join mark parts ++ mark ++ join mark more := by
  refine String.toList_inj.1 ?_
  simp only [join, String.toList_ofList, String.toList_append, List.map_append]
  exact glue_append (fun h => hparts (List.map_eq_nil_iff.1 h))
    fun h => hmore (List.map_eq_nil_iff.1 h)

/-- Pieces are written in two halves. -/
theorem join_eq_append {mark : String} {parts : List String} {n : Nat} (hn : 0 < n)
    (hlength : n < parts.length) :
    join mark parts = join mark (parts.take n) ++ mark ++ join mark (parts.drop n) := by
  have hfront : parts.take n ≠ [] := by
    rw [List.ne_nil_iff_length_pos, List.length_take]
    omega
  have hback : parts.drop n ≠ [] := by
    rw [List.ne_nil_iff_length_pos, List.length_drop]
    omega
  rw [← join_append hfront hback, List.take_append_drop]

theorem length_split (sep : Char) (s : String) :
    (split sep s).length = s.toList.count sep + 1 := by
  rw [split, List.length_map, length_pieces]

/-! ## First and last pieces -/

theorem join_singleton (mark part : String) : join mark [part] = part := by
  simp [join, glue]

theorem join_cons {mark first : String} {more : List String} (hmore : more ≠ []) :
    join mark (first :: more) = first ++ mark ++ join mark more := by
  have h : join mark ([first] ++ more) = _ := join_append (List.cons_ne_nil _ _) hmore
  rwa [join_singleton] at h

theorem join_concat {mark last : String} {parts : List String} (hparts : parts ≠ []) :
    join mark (parts ++ [last]) = join mark parts ++ mark ++ last := by
  have h : join mark (parts ++ [last]) = _ := join_append hparts (List.cons_ne_nil _ _)
  rwa [join_singleton] at h

theorem intercalate_eq_join (mark : String) (parts : List String) :
    mark.intercalate parts = join mark parts := by
  induction parts with
  | nil => rfl
  | cons first more ih =>
      by_cases hmore : more = []
      · rw [hmore, String.intercalate_singleton, join_singleton]
      · rw [String.intercalate_cons_of_ne_nil hmore, join_cons hmore, ih]

/-- A written text starts with its first piece. -/
theorem exists_join_cons (mark first : String) (more : List String) :
    ∃ rest, join mark (first :: more) = first ++ rest := by
  by_cases hmore : more = []
  · subst hmore
    exact ⟨"", by rw [join_singleton, String.append_empty]⟩
  · exact ⟨mark ++ join mark more, by rw [join_cons hmore, String.append_assoc]⟩

/-- A written text ends with its last piece. -/
theorem exists_join_concat (mark last : String) (parts : List String) :
    ∃ front, join mark (parts ++ [last]) = front ++ last := by
  by_cases hparts : parts = []
  · subst hparts
    exact ⟨"", by rw [List.nil_append, join_singleton, String.empty_append]⟩
  · exact ⟨join mark parts ++ mark, join_concat hparts⟩

/-- What is written behind it belongs to the last piece. -/
theorem join_concat_append (mark : String) (parts : List String) (last more : String) :
    join mark (parts ++ [last]) ++ more = join mark (parts ++ [last ++ more]) := by
  by_cases hparts : parts = []
  · subst hparts
    rw [List.nil_append, List.nil_append, join_singleton, join_singleton]
  · rw [join_concat hparts, join_concat hparts, String.append_assoc]

/-! ## Characters -/

/-- The characters of a written text are those of its pieces and of what stands between
them. -/
theorem mem_toList_join {mark : String} {parts : List String} {c : Char}
    (h : c ∈ (join mark parts).toList) : c ∈ mark.toList ∨ ∃ part ∈ parts, c ∈ part.toList := by
  induction parts with
  | nil => simp [join, glue] at h
  | cons first more ih =>
      by_cases hmore : more = []
      · subst hmore
        rw [join_singleton] at h
        exact Or.inr ⟨first, List.mem_cons_self, h⟩
      · rw [join_cons hmore, String.toList_append, String.toList_append, List.mem_append,
          List.mem_append] at h
        rcases h with (hfirst | hmark) | hrest
        · exact Or.inr ⟨first, List.mem_cons_self, hfirst⟩
        · exact Or.inl hmark
        · refine (ih hrest).imp_right ?_
          rintro ⟨part, hpart, hc⟩
          exact ⟨part, List.mem_cons_of_mem first hpart, hc⟩

theorem mem_toList_join_of_mem {mark part : String} {parts : List String} {c : Char}
    (hpart : part ∈ parts) (hc : c ∈ part.toList) : c ∈ (join mark parts).toList := by
  obtain ⟨before, after, rfl⟩ := List.append_of_mem hpart
  obtain ⟨rest, hrest⟩ := exists_join_cons mark part after
  by_cases hbefore : before = []
  · subst hbefore
    rw [List.nil_append, hrest, String.toList_append]
    exact List.mem_append_left _ hc
  · rw [join_append hbefore (List.cons_ne_nil part after), hrest]
    simp only [String.toList_append]
    exact List.mem_append_right _ (List.mem_append_left _ hc)

/-- A piece has no other characters than the text. -/
theorem mem_of_mem_split {s part : String} {c : Char} (hpart : part ∈ split sep s)
    (hc : c ∈ part.toList) : c ∈ s.toList := by
  rw [← join_split sep s]
  exact mem_toList_join_of_mem hpart hc

end LayerLint.Text
