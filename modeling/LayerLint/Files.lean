import LayerLint.Bytes.Utf8
import LayerLint.Text.Quoted
import LayerLint.Text.Split

/-!
# Files as the program sees them

The program looks at a few paths: it asks what is there and reads what is a
file.  A snapshot of a directory tree answers for every path by walking its
components; on the way every component has to be a directory, and `..` goes
back to the one before.

Besides files, the program knows where it was started, whose home directory it
may look into, and the environment's variables.
-/

namespace LayerLint

/-- What a path leads to. -/
inductive FileState where
  | missing
  /-- The path goes on below something that is no directory. -/
  | notDirectory
  /-- The path or one of its components is longer than the system takes. -/
  | tooLong
  | directory
  | file (bytes : List UInt8)
  deriving Repr, Inhabited

def FileState.exists : FileState → Bool
  | directory | file _ => true
  | missing | notDirectory | tooLong => false

def FileState.isFile : FileState → Bool
  | file _ => true
  | _ => false

/-- What the system says about a path that it cannot read. -/
def accessProblem (number : Nat) (words path : String) : String :=
  "[Errno " ++ toString number ++ "] " ++ words ++ ": " ++ Text.quote path

/-- The text at a path, or why there is none. -/
def FileState.text (path : String) : FileState → Except String (List Char)
  | missing => .error (accessProblem 2 "No such file or directory" path)
  | notDirectory => .error (accessProblem 20 "Not a directory" path)
  | tooLong => .error (accessProblem 36 "File name too long" path)
  | directory => .error (accessProblem 21 "Is a directory" path)
  | file bytes =>
    match Utf8.decode bytes with
    | .ok cs => .ok cs
    | .error f => .error f.message

/-- What there is at a path. -/
abbrev Files := String → FileState

/-- What the program can see around it. -/
structure Workplace where
  files : Files
  home : String
  work : String
  environment : String → Option String

/-- What a tree holds at a place; the places above it are directories. -/
inductive TreeEntry where
  | directory
  | file (bytes : List UInt8)
  deriving Repr, Inhabited

/-- A directory tree: entries by their components below the root. -/
structure FileTree where
  entries : List (List String × TreeEntry)

namespace FileTree

/-- The most bytes that the name of an entry has. -/
def maxNameBytes : Nat := 255

/-- The most bytes that a path has. -/
def maxPathBytes : Nat := 4095

/-- What is at some components below the root. -/
def stateAt (t : FileTree) (place : List String) : FileState :=
  match t.entries.lookup place with
  | some (.file bytes) => .file bytes
  | some .directory => .directory
  | none => if place = [] || t.entries.any (place.isPrefixOf ·.1) then .directory else .missing

/-- Walks the components of a path from a place, innermost component first. -/
def walk (t : FileTree) (place : List String) : List String → FileState
  | [] => t.stateAt place.reverse
  | c :: rest =>
    match t.stateAt place.reverse with
    | .missing => .missing
    | .directory =>
      if c = "" || c = "." then walk t place rest
      else if c = ".." then walk t place.tail rest
      else if c.utf8ByteSize > maxNameBytes then .tooLong
      else walk t (c :: place) rest
    | _ => .notDirectory

/-- What there is at a path, which is taken from `work` unless it starts at the root. -/
def files (t : FileTree) (work : List String) : Files := fun path =>
  if path.utf8ByteSize > maxPathBytes then .tooLong
  else if Text.startsWith "/" path then t.walk [] (Text.split '/' path)
  else t.walk work.reverse (Text.split '/' path)

end FileTree

end LayerLint
