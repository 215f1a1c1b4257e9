import LayerLint.Terminal.Emoji

/-!
# Text as a terminal shows it

A terminal takes names of emoji and tags out of the text that it is given.  A
tag stands in square brackets and starts with a small letter or one of `#`,
`/` and `@`.  Text from outside is protected, so its tags are shown as they
are written.  Three marks of this remain visible: outside of tags a backslash
in front of an opening bracket is lost, a single backslash at the very end is
shown twice, and a name of an emoji is only seen within a tag or between two.

Control characters that move the cursor about are dropped.
-/

namespace LayerLint.Terminal

def startsTag (c : Char) : Bool := c.isLower || c = '#' || c = '/' || c = '@'

/-- A tag at the front of a text, and what is behind it. -/
def tag? (cs : List Char) : Option (List Char × List Char) :=
  match cs with
  | '[' :: c :: rest =>
    if startsTag c then
      match rest.dropWhile fun d => d ≠ '[' && d ≠ ']' with
      | ']' :: behind =>
        some ('[' :: c :: rest.takeWhile (fun d => d ≠ '[' && d ≠ ']') ++ [']'], behind)
      | _ => none
    else none
  | _ => none

theorem length_of_tag? {cs tag rest : List Char} (h : tag? cs = some (tag, rest)) :
    rest.length < cs.length := by
  unfold tag? at h
  split at h
  · next c r =>
    split at h
    · split at h
      · next behind hb =>
        have hle := List.IsSuffix.length_le
          (List.dropWhile_suffix (l := r) fun d => d ≠ '[' && d ≠ ']')
        simp only [Option.some.injEq, Prod.mk.injEq] at h
        rw [hb, List.length_cons, h.2] at hle
        simp only [List.length_cons]
        omega
      · cases h
    · cases h
  · cases h

/-- Backslashes and a tag behind them at the front of a text. -/
def slashedTag? (cs : List Char) : Option ((List Char × List Char) × List Char) :=
  (tag? (cs.dropWhile (· = '\\'))).map fun (tag, rest) => ((cs.takeWhile (· = '\\'), tag), rest)

theorem length_of_slashedTag? {cs rest : List Char} {found : List Char × List Char}
    (h : slashedTag? cs = some (found, rest)) : rest.length < cs.length := by
  obtain ⟨⟨tag, behind⟩, ht, he⟩ := Option.map_eq_some_iff.1 h
  have hlt := length_of_tag? ht
  have hle := List.IsSuffix.length_le (List.dropWhile_suffix (l := cs) (· = '\\'))
  simp only [Prod.mk.injEq] at he
  rw [← he.2]
  exact Nat.lt_of_lt_of_le hlt hle

/-- Text outside of tags: a backslash in front of an opening bracket is lost. -/
def unslashed : List Char → List Char
  | '\\' :: '[' :: rest => '[' :: unslashed rest
  | c :: rest => c :: unslashed rest
  | [] => []

/-- Text without tags at the end of a text: a single backslash at its end is shown
twice. -/
def lastStretch (cs : List Char) : List Char :=
  match cs.reverse with
  | ['\\'] => ['\\', '\\']
  | '\\' :: c :: _ => if c = '\\' then cs else cs ++ ['\\']
  | _ => cs

/-- A text with its tags as they are written; `plain` is what stands in front
of the text since the last tag, in reverse. -/
def protectedFrom (plain cs : List Char) : List Char :=
  match h : slashedTag? cs with
  | some ((slashes, tag), rest) =>
    have := length_of_slashedTag? h
    withEmoji (unslashed plain.reverse) ++ slashes ++ withEmoji tag ++ protectedFrom [] rest
  | none =>
    match cs with
    | [] => withEmoji (unslashed (lastStretch plain.reverse))
    | c :: rest => protectedFrom (c :: plain) rest
termination_by cs.length

/-- The characters that move the cursor and show nothing. -/
def isCursorControl (c : Char) : Bool := [0x7, 0x8, 0xB, 0xC, 0xD].contains c.toNat

/-- What a terminal shows of a text from outside. -/
def shown (s : String) : String :=
  String.ofList ((protectedFrom [] s.toList).filter (!isCursorControl ·))

end LayerLint.Terminal
