import LayerLint.Fault
import LayerLint.Terminal.Grid

/-!
# Printouts

What is printed part by part.  A part that cannot be made stops the printing;
what was printed before it stays.
-/

namespace LayerLint

structure Printout where
  printed : String
  /-- What stopped the printing, if it did not come to its end. -/
  stop : Option Fault := none

namespace Printout

def ofText (s : String) : Printout := { printed := s }

def ofLines (lines : List String) : Printout := ofText (Terminal.printed lines)

/-- A table is printed as a whole or not at all. -/
def ofTable : Option (List String) → Printout
  | some lines => ofLines lines
  | none => { printed := "", stop := some (.outOfRange "list") }

/-- Nothing follows a part that stopped the printing. -/
def append (p q : Printout) : Printout :=
  match p.stop with
  | none => { q with printed := p.printed ++ q.printed }
  | some _ => p

instance : Append Printout := ⟨append⟩

/-- The text, when it was printed to its end. -/
def whole (p : Printout) : Except Fault String :=
  match p.stop with
  | none => .ok p.printed
  | some f => .error f

end Printout

end LayerLint
