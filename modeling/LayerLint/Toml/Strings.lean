import LayerLint.Json.Parser
import LayerLint.Text.Split

/-!
# TOML strings

Four kinds of strings: basic ones with escapes and literal ones without, each
on one line or over several.  A string over several lines may hold its own
mark, even twice at its very end, and drops a line feed right behind its
opening.  Control characters other than the tabulator have no place in a
string.

A reader takes the characters that are left and returns those behind what it
has read; nothing is said about why a text is malformed.
-/

namespace LayerLint.Toml

abbrev Reader (α : Type) := List Char → Option (α × List Char)

def isSpace (c : Char) : Bool := c = ' ' || c = '\t'

def isSpaceOrLine (c : Char) : Bool := isSpace c || c = '\n'

/-- A control character that may not stand in the text of one line. -/
def isControl (c : Char) : Bool := (c.toNat < 0x20 && c != '\t') || c.toNat = 0x7F

/-- A character that may not stand in a string. -/
def isIllegal (multiline : Bool) (c : Char) : Bool := isControl c && !(multiline && c = '\n')

/-- The character of a number in `count` hexadecimal digits. -/
def hexChar? (count : Nat) (cs : List Char) : Option (Char × List Char) := do
  let digits ← (cs.take count).mapM Text.hexValue?
  let n := digits.foldl (fun n d => 16 * n + d) 0
  if digits.length = count ∧ n.isValidChar then some (Char.ofNat n, cs.drop count) else none

def letterEscapes : List (Char × Char) :=
  [('b', '\x08'), ('t', '\t'), ('n', '\n'), ('f', '\x0c'), ('r', '\r'), ('"', '"'), ('\\', '\\')]

/-- What an escape stands for, without its backslash.  A backslash at the end
of a line takes the line feed and all blanks behind it away. -/
def escape (multiline : Bool) : Reader (List Char)
  | [] => none
  | c :: rest =>
    if multiline && isSpaceOrLine c then
      match (c :: rest).dropWhile isSpace with
      | [] => some ([], [])
      | '\n' :: rest => some ([], rest.dropWhile isSpaceOrLine)
      | _ => none
    else if c = 'u' then (hexChar? 4 rest).map fun (c, rest) => ([c], rest)
    else if c = 'U' then (hexChar? 8 rest).map fun (c, rest) => ([c], rest)
    else (letterEscapes.lookup c).map fun c => ([c], rest)

/-- The rest of a basic string behind its opening mark. -/
def basicBody (multiline : Bool) (acc : List Char) : (fuel : Nat) → Reader (List Char)
  | 0, _ => none
  | _ + 1, [] => none
  | fuel + 1, '"' :: rest =>
    if multiline then
      match rest with
      | '"' :: '"' :: rest => some (acc.reverse, rest)
      | rest => basicBody multiline ('"' :: acc) fuel rest
    else some (acc.reverse, rest)
  | fuel + 1, '\\' :: rest => do
    let (cs, rest) ← escape multiline rest
    basicBody multiline (cs.reverse ++ acc) fuel rest
  | fuel + 1, c :: rest =>
    if isIllegal multiline c then none else basicBody multiline (c :: acc) fuel rest

/-- The text up to a closing mark. -/
def literalBody (multiline : Bool) (mark cs : List Char) : Option (List Char × List Char) := do
  let (body, rest) ← Text.cut mark cs
  if body.any (isIllegal multiline) then none else some (body, rest)

/-- One or two marks behind the closing of a string belong to the string. -/
def extraMarks (mark : Char) (body rest : List Char) : String × List Char :=
  match rest with
  | a :: b :: more =>
    if a = mark then
      if b = mark then (String.ofList (body ++ [mark, mark]), more)
      else (String.ofList (body ++ [mark]), b :: more)
    else (String.ofList body, rest)
  | [a] =>
    if a = mark then (String.ofList (body ++ [mark]), []) else (String.ofList body, rest)
  | [] => (String.ofList body, rest)

def dropLine : List Char → List Char
  | '\n' :: rest => rest
  | cs => cs

/-- A string on one line, with its opening mark. -/
def lineString : Reader String
  | '"' :: rest =>
    (basicBody false [] (rest.length + 1) rest).map fun (cs, rest) => (String.ofList cs, rest)
  | '\'' :: rest => (literalBody false ['\''] rest).map fun (cs, rest) => (String.ofList cs, rest)
  | _ => none

/-- Any string, with its opening mark. -/
def string : Reader String
  | '"' :: '"' :: '"' :: rest =>
    (basicBody true [] (rest.length + 1) (dropLine rest)).map fun (cs, rest) =>
      extraMarks '"' cs rest
  | '\'' :: '\'' :: '\'' :: rest =>
    (literalBody true ['\'', '\'', '\''] (dropLine rest)).map fun (cs, rest) =>
      extraMarks '\'' cs rest
  | cs => lineString cs

end LayerLint.Toml
