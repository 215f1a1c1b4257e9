import LayerLint.Value

/-!
# Writing JSON

Values in two layouts: on one line, or with every item and member on a line
of its own, two blanks deeper than the line its list starts on.  A string
escapes its marks, backslashes and control characters, and if the text is to
be plain ASCII every other character too, in units of sixteen bits.

Calendar values have no form in the standard and are written as strings.
-/

namespace LayerLint.Json

/-- The escapes that have a letter. -/
def letterEscapes : List (Char × Char) :=
  [('"', '"'), ('\\', '\\'), ('\n', 'n'), ('\r', 'r'), ('\t', 't'), ('\x08', 'b'), ('\x0c', 'f')]

def unitEscape (n : Nat) : List Char := ['\\', 'u'] ++ Text.hexDigits 4 n

/-- One character of a string. -/
def escapeChar (ascii : Bool) (c : Char) : List Char :=
  match letterEscapes.lookup c with
  | some letter => ['\\', letter]
  | none =>
    let n := c.toNat
    if n < 0x20 then unitEscape n
    else if !ascii || n < 0x7F then [c]
    else if n < 0x10000 then unitEscape n
    else
      unitEscape (0xD800 + (n - 0x10000) / 0x400) ++ unitEscape (0xDC00 + (n - 0x10000) % 0x400)

def string (ascii : Bool) (s : String) : String :=
  "\"" ++ String.ofList (s.toList.flatMap (escapeChar ascii)) ++ "\""

/-- Items between brackets; `line` starts a new line at a depth, or is empty. -/
def bracketed (opening closing gap : String) (line : Nat → String) (depth : Nat)
    (items : List String) : String :=
  if items.isEmpty then opening ++ closing
  else
    opening ++ line (depth + 1) ++ (("," ++ gap ++ line (depth + 1)).intercalate items) ++
      line depth ++ closing

mutual

def write (ascii : Bool) (gap : String) (line : Nat → String) (depth : Nat) : Value → String
  | .null => "null"
  | .bool b => if b then "true" else "false"
  | .int i => toString i
  | .float x => Decimal.textIn Decimal.documentLayout x
  | .str s => string ascii s
  | .moment m => string ascii m.text
  | .list items => bracketed "[" "]" gap line depth (writeItems ascii gap line (depth + 1) items)
  | .dict entries =>
    bracketed "\x7b" "\x7d" gap line depth (writeEntries ascii gap line (depth + 1) entries)

def writeItems (ascii : Bool) (gap : String) (line : Nat → String) (depth : Nat) :
    List Value → List String
  | [] => []
  | item :: more => write ascii gap line depth item :: writeItems ascii gap line depth more

def writeEntries (ascii : Bool) (gap : String) (line : Nat → String) (depth : Nat) :
    List (String × Value) → List String
  | [] => []
  | (key, item) :: more =>
    (string ascii key ++ ": " ++ write ascii gap line depth item) ::
      writeEntries ascii gap line depth more

end

/-- A value on one line, in ASCII. -/
def compact (v : Value) : String := write true " " (fun _ => "") 0 v

/-- A value with a line for every item. -/
def pretty (ascii : Bool) (v : Value) : String :=
  write ascii "" (fun depth => "\n" ++ String.ofList (List.replicate (2 * depth) ' ')) 0 v

end LayerLint.Json
