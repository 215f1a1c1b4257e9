import LayerLint.Text.CaseTables

/-!
# Lower case and title case

Full case mapping.  Two things make it more than a map over characters: a few
characters become several, and the capital sigma is written `ς` at the end of
a word and `σ` elsewhere, which is decided by the nearest characters on both
sides that a case context does not look through.

Title case starts a word after every character without a case, so digits and
apostrophes start words too.
-/

namespace LayerLint.Text

/-- Among the ASCII characters, exactly the letters have a case. -/
def isCased (c : Char) : Bool := if c.toNat < 0x80 then c.isAlpha else casedRanges.holds c

def isCaseIgnorable (c : Char) : Bool := caseIgnorableRanges.holds c

/-- The mapping of one character: an expansion, a run, or the character itself. -/
def mapCase (expansions : List (Char × List Char)) (runs : List CaseRun) (c : Char) : List Char :=
  match expansions.lookup c with
  | some cs => cs
  | none => [(runs.findSome? (·.image? c)).getD c]

/-- ASCII letters are mapped without a look into the tables, which agree on them. -/
def lowerChar (c : Char) : List Char :=
  if c.toNat < 0x80 then [c.toLower] else mapCase lowerExpansions lowerRuns c

def titleChar (c : Char) : List Char :=
  if c.toNat < 0x80 then [c.toUpper] else mapCase titleExpansions titleRuns c

/-- The capital sigma between `before`, nearest character first, and `after` ends a
word. -/
def endsWord (before after : List Char) : Bool :=
  (match before.dropWhile isCaseIgnorable with
    | [] => false
    | c :: _ => isCased c) &&
  (match after.dropWhile isCaseIgnorable with
    | [] => true
    | c :: _ => !isCased c)

/-- The lower-case form of a character in its context. -/
def lowerWithin (before : List Char) (c : Char) (after : List Char) : List Char :=
  if c = 'Σ' then (if endsWord before after then ['ς'] else ['σ']) else lowerChar c

/-- Lower case of the text that follows `before`, nearest character first. -/
def lowerAfter (before : List Char) : List Char → List Char
  | [] => []
  | c :: after => lowerWithin before c after ++ lowerAfter (c :: before) after

def lower (s : String) : String := String.ofList (lowerAfter [] s.toList)

/-- Title case of the text that follows `before`, nearest character first. -/
def titleAfter (before : List Char) : List Char → List Char
  | [] => []
  | c :: after =>
    (if before.head?.any isCased then lowerWithin before c after else titleChar c) ++
      titleAfter (c :: before) after

def title (s : String) : String := String.ofList (titleAfter [] s.toList)

example : lower "Lib/Σ" = "lib/σ" := by decide +kernel
example : title "use_case3d it's" = "Use_Case3D It'S" := by decide +kernel

end LayerLint.Text
