import LayerLint.Decimal.Text
import LayerLint.Moment
import LayerLint.Text.Quoted

/-!
# Dynamic values

What a document or a configuration file holds before anybody has looked at
it.  Descriptors and settings are checked against these values, and a message
about a value that does not fit shows it: `text` is the value in running
text, `spelled` the value as it would be written down, with quotes around
texts.  The two differ only on texts and on calendar values.
-/

namespace LayerLint

inductive Value where
  | null
  | bool (b : Bool)
  | int (i : Int)
  | float (x : Float)
  | str (s : String)
  | moment (m : Moment)
  | list (items : List Value)
  /-- A table in document order, each key once. -/
  | dict (entries : List (String × Value))
  deriving Inhabited, Repr

namespace Value

/-- The name of the kind of value, as messages about what was handed over call it. -/
def kindName : Value → String
  | null => "NoneType"
  | bool _ => "bool"
  | int _ => "int"
  | float _ => "float"
  | str _ => "str"
  | moment m => m.kindName
  | list _ => "list"
  | dict _ => "dict"

/-- The name of the kind of value, as faults call it. -/
def fullKindName : Value → String
  | moment m => m.fullKindName
  | v => v.kindName

mutual

def spelled : Value → String
  | null => "None"
  | bool true => "True"
  | bool false => "False"
  | int i => toString i
  | float x => Decimal.text x
  | str s => Text.quote s
  | moment m => m.spelled
  | list items => "[" ++ ", ".intercalate (spelledItems items) ++ "]"
  | dict entries => "\x7b" ++ ", ".intercalate (spelledEntries entries) ++ "\x7d"

def spelledItems : List Value → List String
  | [] => []
  | item :: more => spelled item :: spelledItems more

def spelledEntries : List (String × Value) → List String
  | [] => []
  | (key, value) :: more => (Text.quote key ++ ": " ++ spelled value) :: spelledEntries more

end

def text : Value → String
  | str s => s
  | moment m => m.text
  | v => v.spelled

/-- Whether the value counts as yes: nothing, zero and the empty do not. -/
def isTruthy : Value → Bool
  | null => false
  | bool b => b
  | int i => i != 0
  | float x => x != 0
  | str s => !s.isEmpty
  | moment _ => true
  | list items => !items.isEmpty
  | dict entries => !entries.isEmpty

def isNull : Value → Bool
  | null => true
  | _ => false

def isStr : Value → Bool
  | str _ => true
  | _ => false

def str? : Value → Option String
  | str s => some s
  | _ => none

def bool? : Value → Option Bool
  | bool b => some b
  | _ => none

def list? : Value → Option (List Value)
  | list items => some items
  | _ => none

def dict? : Value → Option (List (String × Value))
  | dict entries => some entries
  | _ => none

/-- What going through the value yields: the items of a list, the keys of a
table, the characters of a text; nothing else can be gone through. -/
def items? : Value → Option (List Value)
  | list items => some items
  | dict entries => some (entries.map fun entry => str entry.1)
  | str s => some (s.toList.map fun c => str (String.singleton c))
  | _ => none

/-- The value of a key; absent from what is not a table. -/
def get? (key : String) : Value → Option Value
  | dict entries => entries.lookup key
  | _ => none

/-- The value of a key, where an absent key is null. -/
def field (key : String) (v : Value) : Value := (v.get? key).getD null

end Value

/-! ## Tables -/

/-- A table in document order. -/
abbrev Table := List (String × Value)

namespace Table

/-- Sets a key: a new key goes to the end, an old one keeps its place. -/
def set (key : String) (value : Value) : Table → Table
  | [] => [(key, value)]
  | (k, v) :: more => if k = key then (k, value) :: more else (k, v) :: set key value more

/-- Each entry of `upper` is set in turn. -/
def update (base upper : Table) : Table := upper.foldl (fun t (k, v) => set k v t) base

def erase (key : String) (t : Table) : Table := t.filter fun entry => entry.1 ≠ key

theorem lookup_set (key k : String) (value : Value) (t : Table) :
    (set key value t).lookup k = if k = key then some value else t.lookup k := by
  induction t with
  | nil => by_cases h : k = key <;> simp [set, List.lookup_cons, h, beq_eq_false_iff_ne.2]
  | cons entry more ih =>
    obtain ⟨k', v'⟩ := entry
    by_cases h' : k' = key
    · by_cases h : k = key
      · simp [set, h', h]
      · have hk : (k == key) = false := beq_eq_false_iff_ne.2 h
        simp [set, h', h, List.lookup_cons, hk]
    · by_cases h : k = k'
      · subst h; simp [set, h']
      · have hk : (k == k') = false := beq_eq_false_iff_ne.2 h
        simp [set, h', List.lookup_cons, hk, ih]

end Table

end LayerLint
