import LayerLint.Terminal.EmojiNames
import LayerLint.Text.Case
import LayerLint.Text.Digits
import LayerLint.Text.Split

/-!
# Emoji by name

A name between two colons stands for an emoji.  There are no blanks between
the colons, upper and lower case are the same, and the name may end with a
wish for a plain or a coloured picture.  What is no name is left as it is,
together with both colons; the second one cannot start another name.
-/

namespace LayerLint.Terminal

/-- Names in turn with their emoji. -/
def pairUp : List String → List (String × List Char)
  | name :: points :: rest =>
    (name, (Text.split '-' points).map fun p => Char.ofNat (Text.hexNumber p.toList)) :: pairUp rest
  | _ => []

/-- The emoji by name. -/
def emojiTable : List (String × List Char) :=
  emojiLines.flatMap fun line => pairUp (Text.split ' ' line)

/-- The wishes for a kind of picture, with the characters that carry them out. -/
def variants : List (String × Char) := [("-text", '\uFE0E'), ("-emoji", '\uFE0F')]

/-- A code without the wish at its end, and what stands for the wish. -/
def splitVariant (code : String) : String × List Char :=
  match variants.find? fun (wish, _) => Text.endsWith wish code with
  | some (wish, c) => (Text.dropLastChars wish.length code, [c])
  | none => (code, [])

/-- The emoji of a code between colons. -/
def emoji? (code : List Char) : Option (List Char) :=
  let (name, wish) := splitVariant (String.ofList code)
  (emojiTable.lookup (Text.lower name)).map (· ++ wish)

/-- The text up to the next colon and what is behind that, if there are no blanks in
between. -/
def code? (cs : List Char) : Option (List Char × List Char) :=
  match cs.dropWhile fun c => c ≠ ':' && !Text.isBlank c with
  | ':' :: rest => some (cs.takeWhile (fun c => c ≠ ':' && !Text.isBlank c), rest)
  | _ => none

theorem length_of_code? {cs code rest : List Char} (h : code? cs = some (code, rest)) :
    rest.length < cs.length := by
  unfold code? at h
  split at h
  · next r hr =>
    have hle := List.IsSuffix.length_le
      (List.dropWhile_suffix (l := cs) fun c => c ≠ ':' && !Text.isBlank c)
    simp only [Option.some.injEq, Prod.mk.injEq] at h
    rw [hr, List.length_cons, h.2] at hle
    omega
  · cases h

/-- A text with its emoji in place of their names. -/
def withEmoji (cs : List Char) : List Char :=
  match cs with
  | [] => []
  | ':' :: rest =>
    match h : code? rest with
    | some (code, behind) =>
      have := length_of_code? h
      (emoji? code).getD (':' :: code ++ [':']) ++ withEmoji behind
    | none => ':' :: withEmoji rest
  | c :: rest => c :: withEmoji rest
termination_by cs.length

end LayerLint.Terminal
