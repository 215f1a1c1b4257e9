import LayerLint.Path.Canonical

/-!
# The parts of a path

A path read as a root and a list of names.  Unlike the canonical form this
keeps `..`, because the parts of a path are looked at one by one: the last
name has a stem and a suffix, and a parent leaves the last name out.
-/

namespace LayerLint.Path

/-- A path as its root and the components that are neither empty nor `.`. -/
structure Parts where
  root : Root
  names : List String
  deriving DecidableEq, Repr

namespace Parts

def ofPath (s : String) : Parts :=
  { root := Root.ofPath s
    names := (Text.split '/' s).filter fun c => c ≠ "" && c ≠ "." }

/-- The root, when there is one, and the names. -/
def toList (p : Parts) : List String :=
  (if p.root = .relative then [] else [p.root.text]) ++ p.names

def text (p : Parts) : String :=
  if p.root = .relative ∧ p.names = [] then "."
  else p.root.text ++ Text.join "/" p.names

/-- The last name, empty when there is none. -/
def name (p : Parts) : String := p.names.getLast?.getD ""

def parent (p : Parts) : Parts := { p with names := p.names.dropLast }

/-- A path below another one; a path with a root of its own stays where it is. -/
def child (p q : Parts) : Parts :=
  if q.root = .relative then { p with names := p.names ++ q.names } else q

end Parts

/-- A path as messages show it: without empty components and steps to the same place. -/
def shown (path : String) : String := (Parts.ofPath path).text

/-! ## Stem and suffix -/

/-- A name cut in front of its last dot, unless the dot is its first or last character. -/
def splitName (name : String) : String × String :=
  let cs := name.toList
  let tail := (cs.reverse.takeWhile (· ≠ '.')).length
  let dot := cs.length - 1 - tail
  if tail = 0 ∨ dot = 0 ∨ tail = cs.length then (name, "")
  else (String.ofList (cs.take dot), String.ofList (cs.drop dot))

def stemOf (name : String) : String := (splitName name).1

def suffixOf (name : String) : String := (splitName name).2

namespace Parts

def stem (p : Parts) : String := stemOf p.name

def suffix (p : Parts) : String := suffixOf p.name

/-- The last name loses its suffix. -/
def withoutSuffix (p : Parts) : Parts :=
  if p.suffix = "" then p else { p with names := p.names.dropLast ++ [p.stem] }

end Parts

example : splitName "x.tar.gz" = ("x.tar", ".gz") ∧ splitName ".hidden" = (".hidden", "") ∧
    splitName "x." = ("x.", "") := by decide +kernel

end LayerLint.Path
