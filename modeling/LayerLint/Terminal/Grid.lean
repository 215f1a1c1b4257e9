import LayerLint.Terminal.Lines
import LayerLint.Terminal.Markup

/-!
# Tables on a terminal

A table has a row of headings and rows of texts, with lines drawn around
them.  Every column is as wide as its widest text and a blank on either side.
A text with several lines makes its row higher; what is lower is filled up
with blank lines.

A line that was cut off can still be too wide.  It is cut between clusters,
and when a text begins with joiners its clusters may take fewer cells than the
text as a whole.  A table with such a line cannot be drawn.
-/

namespace LayerLint.Terminal

structure Column where
  heading : String
  /-- Texts stand at the right side of the column. -/
  atRight : Bool := false
  /-- Texts that are too wide are broken, rather than cut off. -/
  breaks : Bool := true

structure Grid where
  columns : List Column
  /-- Texts as they are shown, one for each column. -/
  rows : List (List String)

namespace Grid

/-- The texts of a column, its heading first. -/
def columnTexts (g : Grid) (i : Nat) (c : Column) : List String :=
  c.heading :: g.rows.map fun row => (row[i]?).getD ""

/-- The width of each column without the blanks at its sides. -/
def widths (g : Grid) : List Nat :=
  g.columns.mapIdx fun i c => ((g.columnTexts i c).map widest).foldl max 0

/-- The number of cells from the left edge to the right one. -/
def width (g : Grid) : Nat := g.widths.foldl (fun n w => n + (w + 3)) 1

/-- The lines of a text in its column. -/
def cellLines (c : Column) (width : Nat) (text : String) : List (List Char) :=
  let lines := linesOf text
  let lines :=
    if c.breaks then (lines.flatMap (wrap width)).map (dropExcess width) else lines
  lines.map (if c.atRight then fillLeft width else fillRight width)

/-- A line across all columns. -/
def rule (left : String) (fill : Char) (between right : String) (widths : List Nat) : String :=
  left ++ between.intercalate (widths.map fun w => String.ofList (List.replicate (w + 2) fill)) ++
    right

/-- The texts of a row in lines, each with the width of its column. -/
def rowTexts (columns : List Column) (widths : List Nat) (row : List String) :
    List (Nat × List (List Char)) :=
  (columns.zip (widths.zip row)).map fun (c, w, text) => (w, cellLines c w text)

/-- A line may take the blank at its right side, but nothing beyond. -/
def fits (width : Nat) (line : List Char) : Bool := cells line ≤ width + 1

/-- The lines of a row between edges. -/
def rowLines (edge : String) (texts : List (Nat × List (List Char))) : List String :=
  let height := (texts.map fun (_, lines) => lines.length).foldl max 1
  (List.range height).map fun i =>
    edge ++ edge.intercalate (texts.map fun (w, lines) =>
      " " ++ String.ofList (pad (w + 1) ((lines[i]?).getD []))) ++ edge

/-- All lines of all rows have room in their columns. -/
def isDrawable (rows : List (List (Nat × List (List Char)))) : Bool :=
  rows.all fun texts => texts.all fun (w, lines) => lines.all (fits w)

/-- The lines of a table, if it can be drawn. -/
def lines? (g : Grid) : Option (List String) :=
  let widths := g.widths
  let headings := rowTexts g.columns widths (g.columns.map (·.heading))
  let rows := g.rows.map (rowTexts g.columns widths)
  if isDrawable rows then
    some <|
      [rule "┏" '━' "┳" "┓" widths] ++ rowLines "┃" headings ++
        [rule "┡" '━' "╇" "┩" widths] ++ rows.flatMap (rowLines "│") ++
        [rule "└" '─' "┴" "┘" widths]
  else none

/-- The lines of a table under a title, if it can be drawn. -/
def titled? (title : String) (g : Grid) : Option (List String) :=
  g.lines?.map fun lines => String.ofList (center g.width title.toList) :: lines

end Grid

/-- Lines as they are printed. -/
def printed (lines : List String) : String := String.join (lines.map (· ++ "\n"))

/-- A text from outside behind a few words, without tabulators. -/
def message (words s : String) : List String :=
  (linesOf (words ++ shown s)).map String.ofList

end LayerLint.Terminal
