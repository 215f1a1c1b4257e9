import LayerLint.Terminal.Cells
import LayerLint.Text.Blank
import LayerLint.Text.Split

/-!
# Lines of a given width

Text goes into a column of cells line by line: tabulators are replaced, a line
that is too long is broken between its words, and each part is filled up with
blanks or cut off to the exact width.

## Main results

* `flatten_words`: a line is its words one after the other.
* `flatten_wrap`: breaking a line loses nothing.
-/

namespace LayerLint.Terminal

/-! ## Tabulators -/

/-- The number of cells between two tabulator stops. -/
def tabStop : Nat := 8

def blanks (n : Nat) : List Char := List.replicate n ' '

/-- Text with a tabulator behind it: a blank, and more of them up to the next stop. -/
def upToStop (piece : List Char) : List Char :=
  let piece := piece ++ [' ']
  piece ++ blanks ((tabStop - cells piece % tabStop) % tabStop)

/-- Pieces of text with a tabulator between neighbours; all but the last end at a stop. -/
def joinStops : List (List Char) → List Char
  | [] => []
  | [piece] => piece
  | piece :: next :: rest => upToStop piece ++ joinStops (next :: rest)

/-- A line with blanks in place of its tabulators. -/
def expandTabs (cs : List Char) : List Char := joinStops (Text.pieces '\t' cs)

/-- The lines of a text, without tabulators. -/
def linesOf (s : String) : List (List Char) := (Text.pieces '\n' s.toList).map expandTabs

/-! ## Breaking lines -/

/-- A line cut wherever something follows a blank. -/
def cutWords : List Char → List (List Char)
  | [] => []
  | c :: rest =>
    match cutWords rest with
    | (d :: word) :: more =>
      if Text.isBlank c && !Text.isBlank d then [c] :: (d :: word) :: more
      else (c :: d :: word) :: more
    | more => [c] :: more

theorem flatten_cutWords (cs : List Char) : (cutWords cs).flatten = cs := by
  induction cs with
  | nil => rfl
  | cons c rest ih =>
    unfold cutWords
    split
    · next d word more he =>
      rw [he] at ih
      split <;> simp [← ih]
    · simp [ih]

/-- The words of a line, each with the blanks behind it, the first one also with those
in front. -/
def words (cs : List Char) : List (List Char) :=
  match cutWords cs with
  | first :: second :: rest =>
    if first.all Text.isBlank then (first ++ second) :: rest else first :: second :: rest
  | few => few

theorem flatten_words (cs : List Char) : (words cs).flatten = cs := by
  have h := flatten_cutWords cs
  unfold words
  split
  · next first second rest he =>
    rw [he] at h
    split <;> simpa using h
  · exact h

/-- Without the blanks at its end. -/
def trimmedEnd (cs : List Char) : List Char := (cs.reverse.dropWhile Text.isBlank).reverse

/-- Words put on lines: a word that does not fit behind `line`, whose words
take `used` cells, starts a new one. -/
def wrapFrom (width : Nat) (line : List Char) (used : Nat) : List (List Char) → List (List Char)
  | [] => [line]
  | word :: rest =>
    if line = [] ∨ used + cells (trimmedEnd word) ≤ width then
      wrapFrom width (line ++ word) (used + cells word) rest
    else line :: wrapFrom width word (cells word) rest

theorem flatten_wrapFrom (width : Nat) (line : List Char) (used : Nat) (ws : List (List Char)) :
    (wrapFrom width line used ws).flatten = line ++ ws.flatten := by
  induction ws generalizing line used with
  | nil => simp [wrapFrom]
  | cons word rest ih =>
    unfold wrapFrom
    split <;> simp [ih]

/-- A line broken between words, so that no part is wider than it has to be. -/
def wrap (width : Nat) (cs : List Char) : List (List Char) := wrapFrom width [] 0 (words cs)

theorem flatten_wrap (width : Nat) (cs : List Char) : (wrap width cs).flatten = cs := by
  simp [wrap, flatten_wrapFrom, flatten_words]

/-! ## Filling up and cutting off -/

/-- The clusters that fit into `n` cells; a part of a wider one becomes blank. -/
def takeClusters (n : Nat) : List Cluster → List Char
  | [] => []
  | k :: rest =>
    if k.cells ≤ n then k.chars ++ takeClusters (n - k.cells) rest else blanks n

/-- The front of a line that takes `n` cells. -/
def takeCells (n : Nat) (cs : List Char) : List Char :=
  if n = 0 then [] else takeClusters n (clusters cs)

/-- A line that is too wide ends with a mark for what is missing. -/
def clip (width : Nat) (cs : List Char) : List Char :=
  if cells cs ≤ width then cs else takeCells (width - 1) cs ++ ['…']

/-- Blanks at the end give way when a line has more characters than cells to go to. -/
def dropExcess (width : Nat) (cs : List Char) : List Char :=
  cs.take (max (trimmedEnd cs).length (min width cs.length))

/-- A line with blanks behind it up to the width. -/
def pad (width : Nat) (cs : List Char) : List Char := cs ++ blanks (width - cells cs)

/-- A line at the left side.  It is measured a second time with its blanks,
since a joiner at its end takes the first of them. -/
def fillRight (width : Nat) (cs : List Char) : List Char := pad width (pad width (clip width cs))

def fillLeft (width : Nat) (cs : List Char) : List Char :=
  let cs := clip width (trimmedEnd cs)
  blanks (width - cells cs) ++ cs

/-- A line in the middle; of an odd number of blanks one more goes to its right. -/
def center (width : Nat) (cs : List Char) : List Char :=
  let cs := clip width (trimmedEnd cs)
  let left := (width - cells cs) / 2
  blanks left ++ cs ++ blanks (width - cells cs - left)

/-! ## The width of a text -/

/-- Characters that end a line of a text whose width is asked for. -/
def endsLine (c : Char) : Bool :=
  [0xA, 0xB, 0xC, 0xD, 0x1C, 0x1D, 0x1E, 0x85, 0x2028, 0x2029].contains c.toNat

/-- The number of cells of the widest line. -/
def widest (s : String) : Nat :=
  let lines := Text.pieces '\n' (s.toList.map fun c => if endsLine c then '\n' else c)
  (lines.map cells).foldl max 0

end LayerLint.Terminal
