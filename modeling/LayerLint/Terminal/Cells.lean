import LayerLint.Terminal.CellTables

/-!
# Cells

A terminal shows text in cells of one width.  Most characters take one cell;
control characters and marks that belong to the character before them take
none, and wide characters, among them the ideographs and the emoji, take two.

Two characters act on their neighbours, and for them the width of a text is
not the sum over its characters.  A joiner draws the character behind it into
the one before it, which keeps its width.  A picture selector turns the
character before it into a coloured picture, and some characters grow to two
cells by that.

## Main results

* `cells_eq_sum`: without a joiner and a selector the width is the sum.
* `flatten_clusters`: the clusters of a text are the text cut into parts.
-/

namespace LayerLint.Terminal

/-- Draws the character behind it into the one before it. -/
def joiner : Char := Char.ofNat 0x200D

/-- Asks for the character before it as a coloured picture. -/
def pictureSelector : Char := Char.ofNat 0xFE0F

/-- The number of cells of a character on its own. -/
def cellsOf (c : Char) : Nat :=
  if 0x20 ≤ c.toNat && c.toNat < 0x7F then 1
  else if zeroWidthRanges.holds c then 0
  else if wideRanges.holds c then 2
  else 1

/-- The cells that a picture selector adds to the last character that took any. -/
def growth (last : Option Char) : Nat :=
  match last with
  | some c => if pictureRanges.holds c then 1 else 0
  | none => 0

/-! ## The width of a text -/

/-- The cells of a text behind `last`, the last character that took any and may
still become a picture. -/
def cellsAfter (last : Option Char) : List Char → Nat
  | [] => 0
  | c :: rest =>
    if c = joiner then
      match rest with
      | [] => 0
      | _ :: rest => cellsAfter last rest
    else if c = pictureSelector then growth last + cellsAfter none rest
    else cellsOf c + cellsAfter (if cellsOf c = 0 then last else some c) rest

/-- The number of cells of a text on one line. -/
def cells (cs : List Char) : Nat := cellsAfter none cs

theorem cellsAfter_eq_sum (cs : List Char) (last : Option Char)
    (h : ∀ c ∈ cs, c ≠ joiner ∧ c ≠ pictureSelector) :
    cellsAfter last cs = (cs.map cellsOf).foldr (· + ·) 0 := by
  induction cs generalizing last with
  | nil => rfl
  | cons c rest ih =>
    obtain ⟨hj, hs⟩ := h c (by simp)
    rw [cellsAfter.eq_def]
    simp [hj, hs, ih _ fun d hd => h d (by simp [hd])]

theorem cells_eq_sum (cs : List Char) (h : ∀ c ∈ cs, c ≠ joiner ∧ c ≠ pictureSelector) :
    cells cs = (cs.map cellsOf).foldr (· + ·) 0 :=
  cellsAfter_eq_sum cs none h

example : cells ['→', '中'] = 3 := by decide +kernel

/-! ## Characters that stay together -/

/-- Characters that are shown as one, and are kept or left out together. -/
structure Cluster where
  chars : List Char
  cells : Nat

namespace Cluster

/-- The cluster with more characters in the same cells. -/
def join (k : Cluster) (cs : List Char) : Cluster := ⟨k.chars ++ cs, k.cells⟩

/-- The cluster as a picture that takes `n` more cells. -/
def grow (k : Cluster) (n : Nat) : Cluster := ⟨k.chars ++ [pictureSelector], k.cells + n⟩

end Cluster

/-- The clusters of a text behind an unfinished one. -/
def clustersFrom (current : Cluster) (last : Option Char) : List Char → List Cluster
  | [] => [current]
  | c :: rest =>
    if c = joiner then
      match rest with
      | [] => [current.join [c]]
      | d :: rest => clustersFrom (current.join [c, d]) last rest
    else if c = pictureSelector then
      clustersFrom (current.grow (growth last)) (if growth last = 0 then last else none) rest
    else if cellsOf c = 0 then clustersFrom (current.join [c]) last rest
    else current :: clustersFrom ⟨[c], cellsOf c⟩ (some c) rest

/-- A text in clusters: every character that takes cells of its own begins one. -/
def clusters : List Char → List Cluster
  | [] => []
  | c :: rest => clustersFrom ⟨[c], cellsOf c⟩ (if cellsOf c = 0 then none else some c) rest

theorem flatten_clustersFrom (current : Cluster) (last : Option Char) (cs : List Char) :
    ((clustersFrom current last cs).map Cluster.chars).flatten = current.chars ++ cs := by
  fun_induction clustersFrom current last cs with
  | case1 => simp
  | case2 => simp [Cluster.join]
  | case3 current last d rest ih => simpa [Cluster.join] using ih
  | case4 current last rest _ ih => simpa [Cluster.grow] using ih
  | case5 current last c rest _ _ _ ih => simpa [Cluster.join] using ih
  | case6 current last c rest _ _ _ ih => simpa using ih

theorem flatten_clusters (cs : List Char) :
    ((clusters cs).map Cluster.chars).flatten = cs := by
  cases cs with
  | nil => rfl
  | cons c rest => simp [clusters, flatten_clustersFrom]

end LayerLint.Terminal
