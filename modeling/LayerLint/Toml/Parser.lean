import LayerLint.Toml.Scalars

/-!
# Reading TOML

A document is a sequence of lines: key and value, the head of a table, the
head of one more table in an array, a comment, or nothing.  What makes it more
than a list of settings is which tables may still be opened.  A table has one
head; a table made by dotted keys has none and is closed with the section it
was made in; what is written as a value in one piece is closed for good.

A document keeps two lists of keys beside its table: `explicit`, the tables
that may not be opened again, and `frozen`, the values below which nothing may
be added.
-/

namespace LayerLint.Toml

/-- A dotted key. -/
abbrev Key := List String

/-! ## Tables within tables -/

/-- Changes the table at a key, and makes the tables on the way that are
missing.  With `throughArrays` the last table of an array stands for the array. -/
def modifyAt (throughArrays : Bool) (f : Table → Option Table) : Key → Table → Option Table
  | [], t => f t
  | k :: rest, t =>
    match t.lookup k with
    | none => (modifyAt throughArrays f rest []).map fun s => Table.set k (.dict s) t
    | some (.dict s) => (modifyAt throughArrays f rest s).map fun s => Table.set k (.dict s) t
    | some (.list items) =>
      match throughArrays, items.getLast? with
      | true, some (.dict s) =>
        (modifyAt throughArrays f rest s).map fun s =>
          Table.set k (.list (items.dropLast ++ [.dict s])) t
      | _, _ => none
    | some _ => none

/-- Adds a value under a name that is still free. -/
def addNew (name : String) (v : Value) (t : Table) : Option Table :=
  if (t.lookup name).isSome then none else some (t ++ [(name, v)])

/-- Adds an empty table to the array under a name. -/
def addToArray (name : String) (t : Table) : Option Table :=
  match t.lookup name with
  | none => some (t ++ [(name, .list [.dict []])])
  | some (.list items) => some (Table.set name (.list (items ++ [.dict []])) t)
  | some _ => none

/-- The key of the table that a key leads into, and the last name. -/
def splitLast (key : Key) : Key × String := (key.dropLast, key.getLast?.getD "")

/-- Something lies at or above the key. -/
def covers (keys : List Key) (key : Key) : Bool := keys.any (·.isPrefixOf key)

def isCompound : Value → Bool
  | .dict _ | .list _ => true
  | _ => false

/-! ## Keys -/

def isBare (c : Char) : Bool := c.isAlphanum || c = '-' || c = '_'

def skip (cs : List Char) : List Char := cs.dropWhile isSpace

def keyPart (cs : List Char) : Option (String × List Char) :=
  let bare := cs.takeWhile isBare
  if bare = [] then lineString cs else some (String.ofList bare, cs.dropWhile isBare)

/-- A key with the blanks behind it. -/
def keyOf : (fuel : Nat) → Reader Key
  | 0, _ => none
  | fuel + 1, cs => do
    let (part, rest) ← keyPart cs
    match skip rest with
    | '.' :: rest =>
      let (more, rest) ← keyOf fuel (skip rest)
      return (part :: more, rest)
    | rest => return ([part], rest)

def key (cs : List Char) : Option (Key × List Char) := keyOf (cs.length + 1) cs

/-! ## Comments -/

/-- The line behind a comment, if there is one here. -/
def skipComment (cs : List Char) : Option (List Char) :=
  match cs with
  | '#' :: rest =>
    if (rest.takeWhile (· ≠ '\n')).any isControl then none
    else some (rest.dropWhile (· ≠ '\n'))
  | _ => some cs

/-- What stands behind blanks, line ends and comments. -/
def skipLines : (fuel : Nat) → List Char → Option (List Char)
  | 0, cs => some cs
  | fuel + 1, cs =>
    match cs.dropWhile isSpaceOrLine with
    | '#' :: rest => (skipComment ('#' :: rest)).bind (skipLines fuel)
    | rest => some rest

/-! ## Values -/

/-- An inline table while it is read. -/
structure Inline where
  table : Table := []
  frozen : List Key := []

/-- Adds a member to an inline table. -/
def Inline.add (t : Inline) (key : Key) (v : Value) : Option Inline :=
  if covers t.frozen key then none
  else do
    let (parent, name) := splitLast key
    let table ← modifyAt false (addNew name v) parent t.table
    return ⟨table, if isCompound v then key :: t.frozen else t.frozen⟩

/-- What an array takes of the depth that values may have. -/
def arrayDepth : Nat := 2

/-- What an inline table takes of the depth that values may have. -/
def tableDepth : Nat := 3

/-- The depth that values may have. -/
def maxDepth : Nat := 980

mutual

/-- A value within arrays and inline tables that leave some depth to it. -/
def value (depth : Nat) : (fuel : Nat) → Reader Value
  | 0, _ => none
  | fuel + 1, cs =>
    match cs with
    | '"' :: _ => (string cs).map fun (s, rest) => (.str s, rest)
    | '\'' :: _ => (string cs).map fun (s, rest) => (.str s, rest)
    | '[' :: rest =>
      if depth < arrayDepth then none
      else (elements (depth - arrayDepth) fuel rest).map fun (items, rest) => (.list items, rest)
    | '\x7b' :: rest =>
      if depth < tableDepth then none
      else
        match skip rest with
        | '\x7d' :: rest => some (.dict [], rest)
        | rest => (members (depth - tableDepth) {} fuel rest).map fun (t, rest) => (.dict t, rest)
    | cs => scalar cs

/-- The items of an array up to its closing bracket; the last one may have a comma
behind it. -/
def elements (depth : Nat) : (fuel : Nat) → Reader (List Value)
  | 0, _ => none
  | fuel + 1, cs => do
    match ← skipLines (cs.length + 1) cs with
    | ']' :: rest => return ([], rest)
    | cs =>
      let (item, rest) ← value depth fuel cs
      match ← skipLines (rest.length + 1) rest with
      | ',' :: rest =>
        let (more, rest) ← elements depth fuel rest
        return (item :: more, rest)
      | ']' :: rest => return ([item], rest)
      | _ => none

/-- The members of an inline table up to its closing brace. -/
def members (depth : Nat) (acc : Inline) : (fuel : Nat) → Reader Table
  | 0, _ => none
  | fuel + 1, cs => do
    let (k, rest) ← key cs
    let '=' :: rest := rest | none
    let (v, rest) ← value depth fuel (skip rest)
    let acc ← acc.add k v
    match skip rest with
    | ',' :: rest => members depth acc fuel (skip rest)
    | '\x7d' :: rest => return (acc.table, rest)
    | _ => none

end

/-! ## Documents -/

/-- A document while it is read. -/
structure Document where
  table : Table := []
  /-- The table that keys are now relative to. -/
  header : Key := []
  explicit : List Key := []
  frozen : List Key := []
  /-- Tables made by dotted keys in this section, closed with its end. -/
  pending : List Key := []

namespace Document

/-- The section ends: its tables made by dotted keys are closed. -/
def closeSection (d : Document) : Document :=
  { d with explicit := d.pending ++ d.explicit, pending := [] }

/-- The proper beginnings of a key, without the empty one. -/
def beginnings (key : Key) : List Key := (List.range (key.length - 1)).map fun i => key.take (i + 1)

/-- A key with its value, relative to the header. -/
def add (d : Document) (key : Key) (v : Value) : Option Document :=
  let between := (beginnings key).map (d.header ++ ·)
  let (parent, name) := splitLast (d.header ++ key)
  if between.any d.explicit.contains || covers d.frozen parent then none
  else do
    let table ← modifyAt true (addNew name v) parent d.table
    return { d with
      table := table
      pending := between ++ d.pending
      frozen := if isCompound v then (d.header ++ key) :: d.frozen else d.frozen }

/-- The head of a table. -/
def openTable (d : Document) (key : Key) : Option Document :=
  if d.explicit.contains key || covers d.frozen key then none
  else do
    let table ← modifyAt true some key d.table
    return { d with table := table, header := key, explicit := key :: d.explicit }

/-- The head of one more table in an array; nothing is closed in it yet. -/
def openElement (d : Document) (key : Key) : Option Document :=
  if covers d.frozen key then none
  else do
    let (parent, name) := splitLast key
    let table ← modifyAt true (addToArray name) parent d.table
    let outside (keys : List Key) : List Key := keys.filter fun k => !key.isPrefixOf k
    return { d with
      table := table
      header := key
      explicit := key :: outside d.explicit
      frozen := outside d.frozen }

end Document

/-- One line, without blanks in front of it, up to blanks behind it. -/
def line (d : Document) (cs : List Char) : Option (Document × List Char) :=
  match cs with
  | '[' :: '[' :: rest => do
    let (k, rest) ← key (skip rest)
    let d ← d.closeSection.openElement k
    let ']' :: ']' :: rest := rest | none
    return (d, skip rest)
  | '[' :: rest => do
    let (k, rest) ← key (skip rest)
    let d ← d.closeSection.openTable k
    let ']' :: rest := rest | none
    return (d, skip rest)
  | '#' :: _ => some (d, cs)
  | '\n' :: _ => some (d, cs)
  | [] => some (d, cs)
  | cs => do
    let (k, rest) ← key cs
    let '=' :: rest := rest | none
    let (v, rest) ← value maxDepth (2 * rest.length + 2) (skip rest)
    return (← d.add k v, skip rest)

/-- All lines.  Every line but the last takes at least its end. -/
def lines (d : Document) : (fuel : Nat) → List Char → Option Document
  | 0, _ => none
  | fuel + 1, cs => do
    let (d, rest) ← line d (skip cs)
    match ← skipComment rest with
    | [] => return d
    | '\n' :: rest => lines d fuel rest
    | _ => none

/-- A carriage return in front of a line feed belongs to it. -/
def plainLines : List Char → List Char
  | '\r' :: '\n' :: rest => '\n' :: plainLines rest
  | c :: rest => c :: plainLines rest
  | [] => []

/-- The table of a document. -/
def parse (cs : List Char) : Option Table :=
  let cs := plainLines cs
  (lines {} (cs.length + 1) cs).map (·.table)

end LayerLint.Toml
