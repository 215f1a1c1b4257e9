/-!
# Cutting and joining texts

Everything here works on the list of characters, where the laws are short,
and is offered on strings through the same list.  `split` and `join` with one
separator undo each other in one direction (`join_split`): cutting loses
nothing.
-/

namespace LayerLint.Text

/-! ## Pieces between separators -/

/-- The stretches between separators; `n` separators leave `n + 1` pieces. -/
def pieces (sep : Char) : List Char → List (List Char)
  | [] => [[]]
  | c :: rest =>
    if c = sep then
      [] :: pieces sep rest
    else
      match pieces sep rest with
      | [] => [[c]]
      | piece :: more => (c :: piece) :: more

theorem pieces_ne_nil (sep : Char) (cs : List Char) : pieces sep cs ≠ [] := by
  cases cs with
  | nil => simp [pieces]
  | cons c rest =>
    unfold pieces
    split
    · simp
    · split <;> simp

/-- Pieces written one after another with a separator between neighbours. -/
def glue (sep : List Char) : List (List Char) → List Char
  | [] => []
  | [piece] => piece
  | piece :: next :: more => piece ++ sep ++ glue sep (next :: more)

theorem glue_pieces (sep : Char) (cs : List Char) : glue [sep] (pieces sep cs) = cs := by
  induction cs with
  | nil => rfl
  | cons c rest ih =>
    unfold pieces
    split
    · next h =>
      cases hp : pieces sep rest with
      | nil => exact absurd hp (pieces_ne_nil sep rest)
      | cons piece more => rw [hp] at ih; simp [glue, ih, h]
    · split
      · next hp => exact absurd hp (pieces_ne_nil sep rest)
      · next piece more hp =>
        rw [hp] at ih
        cases more with
        | nil => simpa [glue] using ih
        | cons next more => simpa [glue] using ih

def split (sep : Char) (s : String) : List String :=
  (pieces sep s.toList).map String.ofList

def join (sep : String) (parts : List String) : String :=
  String.ofList (glue sep.toList (parts.map String.toList))

theorem join_split (sep : Char) (s : String) : join (String.ofList [sep]) (split sep s) = s := by
  simp [join, split, Function.comp_def, glue_pieces]

/-! ## Looking for a text -/

/-- The text around the first occurrence of `mark`. -/
def cut (mark : List Char) : List Char → Option (List Char × List Char)
  | [] => if mark.isEmpty then some ([], []) else none
  | c :: rest =>
    if mark.isPrefixOf (c :: rest) then
      some ([], (c :: rest).drop mark.length)
    else
      (cut mark rest).map fun (before, after) => (c :: before, after)

/-- A mark whose first character does not occur in front of it is found there. -/
theorem cut_append {c : Char} {mark front back : List Char} (h : c ∉ front) :
    cut (c :: mark) (front ++ (c :: mark) ++ back) = some (front, back) := by
  induction front with
  | nil =>
    have hprefix : (c :: mark).isPrefixOf (c :: (mark ++ back)) = true :=
      List.isPrefixOf_iff_prefix.2 ⟨back, rfl⟩
    simp [cut, hprefix]
  | cons d rest ih =>
    rw [List.mem_cons, not_or] at h
    have hno : (c :: mark).isPrefixOf (d :: (rest ++ (c :: mark) ++ back)) = false := by
      simp [List.isPrefixOf, h.1]
    simp only [List.cons_append, cut, hno, Bool.false_eq_true, if_false]
    rw [ih h.2]
    rfl

def startsWith (mark s : String) : Bool := mark.toList.isPrefixOf s.toList

theorem startsWith_iff {mark s : String} :
    startsWith mark s = true ↔ ∃ rest, s = mark ++ rest := by
  rw [startsWith, List.isPrefixOf_iff_prefix]
  constructor
  · rintro ⟨rest, h⟩
    exact ⟨String.ofList rest, String.toList_inj.1 (by simp [← h])⟩
  · rintro ⟨rest, rfl⟩
    exact ⟨rest.toList, String.toList_append.symm⟩

def endsWith (mark s : String) : Bool := mark.toList.isSuffixOf s.toList

def contains (mark s : String) : Bool := (cut mark.toList s.toList).isSome

/-- The text in front of the first `sep`, and all of it when there is none. -/
def beforeFirst (sep : Char) (s : String) : String :=
  String.ofList (s.toList.takeWhile (· ≠ sep))

theorem beforeFirst_append {sep : Char} {s rest : String} (h : sep ∉ s.toList) :
    beforeFirst sep (s ++ String.singleton sep ++ rest) = s := by
  have hall : ∀ c ∈ s.toList, decide (c ≠ sep) = true := by
    intro c hc
    exact decide_eq_true fun heq => h (heq ▸ hc)
  rw [beforeFirst, String.toList_append, String.toList_append, List.append_assoc,
    List.takeWhile_append_of_pos hall]
  simp

/-- The text behind the first `sep`, and nothing when there is none. -/
def afterFirst (sep : Char) (s : String) : String :=
  String.ofList ((s.toList.dropWhile (· ≠ sep)).drop 1)

theorem afterFirst_append {sep : Char} {s rest : String} (h : sep ∉ s.toList) :
    afterFirst sep (s ++ String.singleton sep ++ rest) = rest := by
  have hall : ∀ c ∈ s.toList, decide (c ≠ sep) = true := by
    intro c hc
    exact decide_eq_true fun heq => h (heq ▸ hc)
  rw [afterFirst, String.toList_append, String.toList_append, List.append_assoc,
    List.dropWhile_append_of_pos hall]
  simp

def dropChars (n : Nat) (s : String) : String := String.ofList (s.toList.drop n)

/-- The text without its last `n` characters. -/
def dropLastChars (n : Nat) (s : String) : String :=
  String.ofList (s.toList.take (s.toList.length - n))

/-! ## Replacing characters -/

def replaceChar (old new : Char) (s : String) : String :=
  String.ofList (s.toList.map fun c => if c = old then new else c)

/-- Each character is written out on its own. -/
def expand (spell : Char → List Char) (s : String) : String :=
  String.ofList (s.toList.flatMap spell)

/-- Writing out twice is writing out what every character is written as. -/
theorem expand_expand (spell again : Char → List Char) (s : String) :
    expand again (expand spell s) = expand (fun c => (spell c).flatMap again) s := by
  simp [expand, List.flatMap_assoc]

/-- Every `old` is written as the mark. -/
def spellOut (old : Char) (mark : String) (s : String) : String :=
  expand (fun c => if c = old then mark.toList else [c]) s

end LayerLint.Text
