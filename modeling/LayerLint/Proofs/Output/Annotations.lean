import Mathlib.Data.List.Nodup
import Std.Data.String.ToInt
import LayerLint.Output.Annotations
import LayerLint.Proofs.Text.Pieces

/-!
# Annotations can be read back

`read?` takes a line of annotations apart the way it is put together: at the
colons, at the commas and at the equals signs, and then it reads the marks in
every part.  What it finds in the line of a violation is what the violation
says, whatever is in its texts.

Replacing one character after another comes to the same as writing every
character on its own, because no replacement touches what an earlier one put
in.  So a part is read back character by character, and none of its characters
is a line end, or in a property a colon or a comma.

## Main results

* `decode_flatMap`: marks are read back as what they stand for.
* `read?_line`: the line of a violation says what the violation says.
* `read_text`: one line for every violation, and nothing else.
-/

namespace LayerLint.Annotation

/-! ## Marks -/

/-- The characters that are written as a percent sign and two digits, with the digits. -/
abbrev Marks := List (Char × Char × Char)

/-- The marks of a message. -/
def dataMarks : Marks := [('%', '2', '5'), ('\r', '0', 'D'), ('\n', '0', 'A')]

/-- The marks of a property. -/
def propertyMarks : Marks := dataMarks ++ [(':', '3', 'A'), (',', '2', 'C')]

/-- How a character is written. -/
def spell (marks : Marks) (c : Char) : List Char :=
  match marks.find? (·.1 = c) with
  | some (_, high, low) => ['%', high, low]
  | none => [c]

/-- Marks are read from left to right, and what is no mark stands for itself. -/
def decode (marks : Marks) : List Char → List Char
  | '%' :: high :: low :: rest =>
    match marks.find? (·.2 = (high, low)) with
    | some (c, _) => c :: decode marks rest
    | none => '%' :: decode marks (high :: low :: rest)
  | c :: rest => c :: decode marks rest
  | [] => []

/-- The percent sign has a mark of its own, and no two marks have the same digits. -/
structure Marks.Readable (marks : Marks) : Prop where
  percent : '%' ∈ marks.map (·.1)
  nodup : (marks.map (·.2)).Nodup

theorem readable_dataMarks : dataMarks.Readable := ⟨by decide, by decide⟩

theorem readable_propertyMarks : propertyMarks.Readable := ⟨by decide, by decide⟩

variable {marks : Marks}

theorem spell_cases (marks : Marks) (c : Char) :
    (∃ high low, (c, high, low) ∈ marks ∧ spell marks c = ['%', high, low]) ∨
      (c ∉ marks.map (·.1) ∧ spell marks c = [c]) := by
  unfold spell
  cases hfind : marks.find? (·.1 = c) with
  | some mark =>
      have hc : mark.1 = c := by simpa using List.find?_some hfind
      exact Or.inl ⟨mark.2.1, mark.2.2, hc ▸ List.mem_of_find?_eq_some hfind, rfl⟩
  | none =>
      refine Or.inr ⟨fun hmem => ?_, rfl⟩
      obtain ⟨mark, hmark, hc⟩ := List.mem_map.1 hmem
      simpa [hc] using List.find?_eq_none.1 hfind mark hmark

theorem decode_cons_of_ne {c : Char} (hc : c ≠ '%') (rest : List Char) :
    decode marks (c :: rest) = c :: decode marks rest := by
  rw [decode]
  exact fun _ _ _ h _ => hc h

theorem decode_mark (h : marks.Readable) {c high low : Char} (hmark : (c, high, low) ∈ marks)
    (rest : List Char) :
    decode marks ('%' :: high :: low :: rest) = c :: decode marks rest := by
  have hfind : marks.find? (·.2 = (high, low)) = some (c, high, low) := by
    cases hf : marks.find? (·.2 = (high, low)) with
    | none => simpa using List.find?_eq_none.1 hf _ hmark
    | some other =>
        have hdigits : other.2 = (high, low) := by simpa using List.find?_some hf
        have heq := List.inj_on_of_nodup_map h.nodup (List.mem_of_find?_eq_some hf) hmark hdigits
        rw [heq]
  rw [decode, hfind]

/-- Marks are read back as what they stand for. -/
theorem decode_flatMap (h : marks.Readable) (cs : List Char) :
    decode marks (cs.flatMap (spell marks)) = cs := by
  induction cs with
  | nil => rfl
  | cons c rest ih =>
      rw [List.flatMap_cons]
      rcases spell_cases marks c with ⟨high, low, hmark, hspell⟩ | ⟨hplain, hspell⟩
      · rw [hspell]
        show decode marks ('%' :: high :: low :: rest.flatMap (spell marks)) = _
        rw [decode_mark h hmark, ih]
      · have hc : c ≠ '%' := fun heq => hplain (heq ▸ h.percent)
        rw [hspell]
        show decode marks (c :: rest.flatMap (spell marks)) = _
        rw [decode_cons_of_ne hc, ih]

/-- A text with its marks read. -/
def decodeText (marks : Marks) (s : String) : String := String.ofList (decode marks s.toList)

theorem decodeText_expand (h : marks.Readable) (s : String) :
    decodeText marks (Text.expand (spell marks) s) = s := by
  rw [decodeText, Text.expand, String.toList_ofList, decode_flatMap h, String.ofList_toList]

/-- A character with a mark is not written, unless it occurs in a mark. -/
theorem not_mem_expand {d : Char} (hd : d ∈ marks.map (·.1))
    (hout : ∀ mark ∈ marks, d ∉ ['%', mark.2.1, mark.2.2]) (s : String) :
    d ∉ (Text.expand (spell marks) s).toList := by
  rw [Text.expand, String.toList_ofList, List.mem_flatMap]
  rintro ⟨c, -, hc⟩
  rcases spell_cases marks c with ⟨high, low, hmark, hspell⟩ | ⟨hplain, hspell⟩
  · rw [hspell] at hc
    exact hout _ hmark hc
  · rw [hspell, List.mem_singleton] at hc
    exact hplain (hc ▸ hd)

theorem expand_eq_self {s : String} (h : ∀ c ∈ s.toList, c ∉ marks.map (·.1)) :
    Text.expand (spell marks) s = s := by
  have hsame : s.toList.flatMap (spell marks) = s.toList.flatMap ([·]) := by
    refine List.flatMap_congr fun c hc => ?_
    rcases spell_cases marks c with ⟨high, low, hmark, -⟩ | ⟨-, hspell⟩
    · exact absurd (List.mem_map.2 ⟨_, hmark, rfl⟩) (h c hc)
    · exact hspell
  rw [Text.expand, hsame, List.flatMap_singleton', String.ofList_toList]

/-! ## Messages and properties -/

/-- Replacing one more character adds its mark, when the character is in no mark before.
-/
theorem spellOut_expand {c : Char} {mark : String} (high low : Char)
    (hmark : mark.toList = ['%', high, low])
    (hout : ∀ earlier ∈ marks, c ∉ ['%', earlier.2.1, earlier.2.2]) (s : String) :
    Text.spellOut c mark (Text.expand (spell marks) s) =
      Text.expand (spell (marks ++ [(c, high, low)])) s := by
  rw [Text.spellOut, Text.expand_expand, hmark]
  refine congrArg (Text.expand · s) (funext fun d => ?_)
  unfold spell
  rw [List.find?_append]
  cases hfind : marks.find? (·.1 = d) with
  | some earlier =>
      have hne := hout earlier (List.mem_of_find?_eq_some hfind)
      simp only [List.mem_cons, List.not_mem_nil, or_false, not_or] at hne
      simp [Ne.symm hne.1, Ne.symm hne.2.1, Ne.symm hne.2.2]
  | none =>
      by_cases hd : d = c
      · simp [hd]
      · simp [hd, Ne.symm hd]

theorem escapeData_eq (s : String) : escapeData s = Text.expand (spell dataMarks) s := by
  have hstart : Text.expand (spell []) s = s := expand_eq_self fun _ _ => List.not_mem_nil
  unfold escapeData
  conv_lhs => rw [← hstart]
  rw [spellOut_expand '2' '5' rfl (by decide),
    spellOut_expand '0' 'D' rfl (by decide),
    spellOut_expand '0' 'A' rfl (by decide)]
  rfl

theorem escapeProperty_eq (s : String) :
    escapeProperty s = Text.expand (spell propertyMarks) s := by
  unfold escapeProperty
  rw [escapeData_eq, spellOut_expand '3' 'A' rfl (by decide),
    spellOut_expand '2' 'C' rfl (by decide)]
  rfl

/-- A message has no line ends. -/
theorem not_mem_escapeData {d : Char} (hd : d ∈ ['\r', '\n']) (s : String) :
    d ∉ (escapeData s).toList := by
  have hall : ∀ d ∈ ['\r', '\n'], d ∈ dataMarks.map (·.1) ∧
      ∀ mark ∈ dataMarks, d ∉ ['%', mark.2.1, mark.2.2] := by simp [dataMarks]
  rw [escapeData_eq]
  exact not_mem_expand (hall d hd).1 (hall d hd).2 s

/-- A property has neither line ends nor colons nor commas. -/
theorem not_mem_escapeProperty {d : Char} (hd : d ∈ ['\r', '\n', ':', ',']) (s : String) :
    d ∉ (escapeProperty s).toList := by
  have hall : ∀ d ∈ ['\r', '\n', ':', ','], d ∈ propertyMarks.map (·.1) ∧
      ∀ mark ∈ propertyMarks, d ∉ ['%', mark.2.1, mark.2.2] := by
    simp [propertyMarks, dataMarks]
  rw [escapeProperty_eq]
  exact not_mem_expand (hall d hd).1 (hall d hd).2 s

/-- A number is written without any mark. -/
theorem escapeProperty_toString (i : Int) : escapeProperty (toString i) = toString i := by
  have hdigit : ∀ (n : Nat), ∀ c ∈ n.repr.toList, c ∉ propertyMarks.map (·.1) := by
    intro n c hc hmem
    rw [Nat.toList_repr] at hc
    have hc := Nat.isDigit_of_mem_toDigits (by decide) (by decide) hc
    have hnone : ∀ d ∈ propertyMarks.map (·.1), d.isDigit = false := by
      simp [propertyMarks, dataMarks, Char.isDigit]
    rw [hnone c hmem] at hc
    cases hc
  rw [escapeProperty_eq]
  refine expand_eq_self fun c hc => ?_
  change c ∈ (Int.repr i).toList at hc
  rw [Int.repr_eq_if] at hc
  split at hc
  · exact hdigit _ c hc
  · rw [String.toList_append, List.mem_append] at hc
    rcases hc with hc | hc
    · have hminus : ∀ d ∈ "-".toList, d ∉ propertyMarks.map (·.1) := by
        simp [propertyMarks, dataMarks]
      exact hminus c hc
    · exact hdigit _ c hc

/-! ## Lines -/

/-- What a line of annotations says. -/
structure Reading where
  level : String
  properties : List (String × String)
  body : String
  deriving DecidableEq, Repr

/-- A property is parted at its first equals sign. -/
def readProperty (p : String) : String × String :=
  (Text.beforeFirst '=' p, decodeText propertyMarks (Text.afterFirst '=' p))

/-- A line is parted at the first two colons behind the leading ones.  In front of them
stand the level and, behind a blank, the properties with commas in between. -/
def read? (line : String) : Option Reading :=
  match line.toList with
  | ':' :: ':' :: rest =>
    (Text.cut [':', ':'] rest).map fun (front, back) =>
      let head := String.ofList front
      { level := Text.beforeFirst ' ' head
        properties := (Text.split ',' (Text.afterFirst ' ' head)).map readProperty
        body := decodeText dataMarks (String.ofList back) }
  | _ => none

/-- The properties of a violation by name. -/
def properties (v : Violation) : List (String × String) :=
  [("file", v.location.file), ("line", toString v.location.line),
    ("col", toString v.location.column), ("title", Layer.titleOf v.kind.name)]

/-- What the annotation of a violation says. -/
def reading (v : Violation) : Reading := ⟨level v.severity, properties v, body v⟩

/-- How a property is written. -/
def writeProperty (p : String × String) : String := p.1 ++ "=" ++ escapeProperty p.2

/-- What stands in front of the message. -/
def head (v : Violation) : String :=
  level v.severity ++ " " ++ Text.join "," ((properties v).map writeProperty)

theorem line_eq (v : Violation) : line v = "::" ++ head v ++ "::" ++ escapeData (body v) := by
  have hnumber : ∀ i : Int, escapeProperty i.repr = i.repr := escapeProperty_toString
  -- The equation of `line` would put all its literals together first.
  delta line
  refine String.toList_inj.1 ?_
  simp [head, properties, writeProperty, hnumber, Text.join, Text.glue]

theorem decodeText_escapeData (s : String) : decodeText dataMarks (escapeData s) = s := by
  rw [escapeData_eq, decodeText_expand readable_dataMarks]

theorem decodeText_escapeProperty (s : String) :
    decodeText propertyMarks (escapeProperty s) = s := by
  rw [escapeProperty_eq, decodeText_expand readable_propertyMarks]

/-- No name of a property has a mark between the parts of a line in it. -/
theorem not_mem_name {v : Violation} {p : String × String} (hp : p ∈ properties v) {d : Char}
    (hd : d ∈ ['\r', '\n', ':', ',', '=']) : d ∉ p.1.toList := by
  have hall : ∀ name ∈ ["file", "line", "col", "title"], ∀ d ∈ ['\r', '\n', ':', ',', '='],
      d ∉ name.toList := by simp
  have hname : p.1 ∈ (properties v).map (·.1) := List.mem_map_of_mem hp
  exact hall p.1 hname d hd

theorem not_mem_level (s : Severity) {d : Char} (hd : d ∈ ['\r', '\n', ':', ' ']) :
    d ∉ (level s).toList := by
  have hall : ∀ d ∈ ['\r', '\n', ':', ' '], d ∉ (level s).toList := by
    cases s <;> simp [level]
  exact hall d hd

theorem not_mem_writeProperty {v : Violation} {p : String × String} (hp : p ∈ properties v)
    {d : Char} (hd : d ∈ ['\r', '\n', ':', ',']) : d ∉ (writeProperty p).toList := by
  have hsign : ∀ d ∈ ['\r', '\n', ':', ','], d ∉ "=".toList := by simp
  have hname := not_mem_name hp (List.mem_append_left ['='] hd)
  simp only [writeProperty, String.toList_append, List.mem_append, not_or]
  exact ⟨⟨hname, hsign d hd⟩, not_mem_escapeProperty hd p.2⟩

theorem readProperty_writeProperty {v : Violation} {p : String × String} (hp : p ∈ properties v) :
    readProperty (writeProperty p) = p := by
  have hname : '=' ∉ p.1.toList := not_mem_name hp (by decide)
  have hwritten : writeProperty p = p.1 ++ String.singleton '=' ++ escapeProperty p.2 := rfl
  rw [readProperty, hwritten, Text.beforeFirst_append hname, Text.afterFirst_append hname,
    decodeText_escapeProperty]

/-- In front of the message there are no line ends and no colons. -/
theorem not_mem_head (v : Violation) {d : Char} (hd : d ∈ ['\r', '\n', ':']) :
    d ∉ (head v).toList := by
  have hsigns : ∀ d ∈ ['\r', '\n', ':'], d ∉ " ".toList ∧ d ∉ ",".toList := by simp
  simp only [head, String.toList_append, List.mem_append, not_or]
  refine ⟨⟨not_mem_level _ (List.mem_append_left [' '] hd), (hsigns d hd).1⟩, fun hmem => ?_⟩
  rcases Text.mem_toList_join hmem with hcomma | ⟨part, hpart, hmem⟩
  · exact (hsigns d hd).2 hcomma
  · obtain ⟨p, hp, rfl⟩ := List.mem_map.1 hpart
    exact not_mem_writeProperty hp (List.mem_append_left [','] hd) hmem

/-- The line of a violation says what the violation says. -/
theorem read?_line (v : Violation) : read? (line v) = some (reading v) := by
  have hcut : Text.cut [':', ':'] ((head v).toList ++ [':', ':'] ++ (escapeData (body v)).toList) =
      some ((head v).toList, (escapeData (body v)).toList) :=
    Text.cut_append (not_mem_head v (by decide))
  have hline : (line v).toList =
      ':' :: ':' :: ((head v).toList ++ [':', ':'] ++ (escapeData (body v)).toList) := by
    rw [line_eq]
    simp
  have hlevel : ' ' ∉ (level v.severity).toList := not_mem_level _ (by decide)
  have hhead : head v = level v.severity ++ String.singleton ' ' ++
      Text.join (String.singleton ',') ((properties v).map writeProperty) := rfl
  have hparts : ∀ part ∈ (properties v).map writeProperty, ',' ∉ part.toList := by
    intro part hpart
    obtain ⟨p, hp, rfl⟩ := List.mem_map.1 hpart
    exact not_mem_writeProperty hp (by decide)
  have hsome : (properties v).map writeProperty ≠ [] := List.cons_ne_nil _ _
  have hread : ((properties v).map writeProperty).map readProperty = properties v := by
    rw [List.map_map]
    have hsame : ∀ p ∈ properties v, (readProperty ∘ writeProperty) p = id p :=
      fun p hp => readProperty_writeProperty hp
    rw [List.map_congr_left hsame, List.map_id]
  rw [read?, hline]
  simp only [hcut, Option.map_some, String.ofList_toList, decodeText_escapeData]
  rw [hhead, Text.beforeFirst_append hlevel, Text.afterFirst_append hlevel,
    Text.split_join hsome hparts, hread]
  rfl

/-! ## All annotations -/

/-- A line has no line ends in it. -/
theorem not_mem_line (v : Violation) {d : Char} (hd : d ∈ ['\r', '\n']) :
    d ∉ (line v).toList := by
  have hcolons : ∀ d ∈ ['\r', '\n'], d ∉ "::".toList := by simp
  rw [line_eq]
  simp only [String.toList_append, List.mem_append, not_or]
  exact ⟨⟨⟨hcolons d hd, not_mem_head v (List.mem_append_left [':'] hd)⟩, hcolons d hd⟩,
    not_mem_escapeData hd _⟩

theorem text_eq (vs : List Violation) : text vs = Text.join "\n" (vs.map line) :=
  Text.intercalate_eq_join _ _

theorem split_text {vs : List Violation} (hvs : vs ≠ []) :
    Text.split '\n' (text vs) = vs.map line := by
  rw [text_eq]
  refine Text.split_join (fun h => hvs (List.map_eq_nil_iff.1 h)) fun part hpart => ?_
  obtain ⟨v, -, rfl⟩ := List.mem_map.1 hpart
  exact not_mem_line v (by decide)

/-- The annotations of violations are one line for each of them, and each line is read
back as what its violation says. -/
theorem read_text (vs : List Violation) (hvs : vs ≠ []) :
    '\r' ∉ (text vs).toList ∧ (text vs).toList.count '\n' = vs.length - 1 ∧
      (∀ line ∈ Text.split '\n' (text vs), Text.startsWith "::" line = true) ∧
      (Text.split '\n' (text vs)).map read? = vs.map (fun v => some (reading v)) ∧
      ∀ v ∈ vs, (toString v.location.line).toInt? = some v.location.line ∧
        (toString v.location.column).toInt? = some v.location.column := by
  have hlines := split_text hvs
  refine ⟨?_, ?_, ?_, ?_, fun v _ => ⟨Int.toInt?_repr _, Int.toInt?_repr _⟩⟩
  · intro hmem
    rw [text_eq] at hmem
    rcases Text.mem_toList_join hmem with hmark | ⟨part, hpart, hmem⟩
    · exact absurd hmark (by decide)
    · obtain ⟨v, -, rfl⟩ := List.mem_map.1 hpart
      exact not_mem_line v (by decide) hmem
  · have hlength := Text.length_split '\n' (text vs)
    rw [hlines, List.length_map] at hlength
    omega
  · intro part hpart
    rw [hlines] at hpart
    obtain ⟨v, -, rfl⟩ := List.mem_map.1 hpart
    rw [line_eq, String.append_assoc, String.append_assoc]
    exact Text.startsWith_iff.2 ⟨_, rfl⟩
  · rw [hlines, List.map_map]
    refine List.map_congr_left fun v _ => ?_
    rw [Function.comp_apply, read?_line]

/-- A file name and a message that look like parts of annotations stay what they are. -/
theorem read_text_of_commands :
    let forged : Violation :=
      { kind := .layer, modules := ["a.py"],
        location := { file := "a.py,line=9::b\n%3A", line := 3, column := -1 },
        message := "one\r\n::error file=b.py::two%0A", suggestion := "three" }
    let plain : Violation :=
      { kind := .cycle, modules := ["b.py"], location := { file := "b.py" }, message := "four",
        severity := .info }
    [forged, plain] ≠ [] ∧ (text [forged, plain]).toList.count '\n' = 1 ∧
      (Text.split '\n' (text [forged, plain])).map read? =
        [some ⟨"error", [("file", "a.py,line=9::b\n%3A"), ("line", "3"), ("col", "-1"),
            ("title", "Layer Violation")], "one\r\n::error file=b.py::two%0A\nthree"⟩,
          some ⟨"notice", [("file", "b.py"), ("line", "1"), ("col", "1"),
            ("title", "Circular Dependency")], "four"⟩] := by
  intro forged plain
  have hsome : [forged, plain] ≠ [] := List.cons_ne_nil _ _
  obtain ⟨-, hcount, -, hread, -⟩ := read_text [forged, plain] hsome
  refine ⟨hsome, hcount, hread.trans ?_⟩
  decide +kernel

end LayerLint.Annotation
