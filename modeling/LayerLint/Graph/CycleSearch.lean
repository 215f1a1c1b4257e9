import Std.Data.ExtTreeSet
import LayerLint.Graph.Basic
import LayerLint.Graph.Rotation

/-!
# Searching for cycles

A depth-first search over the whole graph.  A module is unvisited, open or
finished; the open ones are the path that leads to where the search stands.
An edge back to an open module closes a cycle, which is read off the path.
One cycle per such edge is enough to act on, so no attempt is made to list
every simple cycle.

The search is a machine with one `step`, so that deep chains need no deep
recursion and its invariants can be stated for every state it passes through.
It stops because each step either visits a module, or leaves the unvisited
ones alone and works off a pending target, a frame or a root.

## Main results

* `size_lt_of_step`: every step makes the measure smaller.
* `step_run`: a finished search has no further step.
-/

namespace LayerLint

open Std (ExtTreeMap ExtTreeSet)

/-- A module on the path with the targets that are still to be looked at. -/
structure Frame where
  node : ModuleId
  pending : List ModuleId
  deriving DecidableEq, Repr

/-- Where a search stands. -/
structure CycleSearch where
  unvisited : ExtTreeSet ModuleId
  /-- Where to start when nothing is open. -/
  roots : List ModuleId
  /-- The open modules, the innermost first. -/
  frames : List Frame
  /-- The open modules, the outermost first. -/
  path : Array ModuleId
  /-- Where each open module stands on the path. -/
  position : ExtTreeMap ModuleId Nat
  /-- The cycles that were closed, in order. -/
  found : Array Cycle

namespace CycleSearch

/-- How far the search is with a module. -/
inductive Colour where
  | unvisited
  | opened
  | finished
  deriving DecidableEq, Repr

def colour (s : CycleSearch) (id : ModuleId) : Colour :=
  if s.unvisited.contains id then .unvisited
  else if s.position.contains id then .opened
  else .finished

/-- The search over a graph that starts from `roots`, and then from every module in
order. -/
def start (g : ModuleGraph) (roots : List ModuleId) : CycleSearch :=
  { unvisited := g.mentioned
    roots := roots ++ g.ids
    frames := []
    path := #[]
    position := ∅
    found := #[] }

/-- An unvisited module becomes the end of the path. -/
def enter (g : ModuleGraph) (id : ModuleId) (s : CycleSearch) : CycleSearch :=
  { s with
    unvisited := s.unvisited.erase id
    frames := ⟨id, (g.neighbors id).keys⟩ :: s.frames
    position := s.position.insert id s.path.size
    path := s.path.push id }

/-- The end of the path is finished. -/
def leave (id : ModuleId) (below : List Frame) (s : CycleSearch) : CycleSearch :=
  { s with
    frames := below
    position := s.position.erase id
    path := s.path.pop }

/-- One step: start at a root, look at a target, or leave the end of the path. -/
def step (g : ModuleGraph) (s : CycleSearch) : Option CycleSearch :=
  match s.frames with
  | [] =>
    match s.roots with
    | [] => none
    | root :: more =>
      let rest := { s with roots := more }
      if g.contains root && s.unvisited.contains root then some (enter g root rest) else some rest
  | ⟨node, []⟩ :: below => some (leave node below s)
  | ⟨node, target :: pending⟩ :: below =>
    let rest := { s with frames := ⟨node, pending⟩ :: below }
    if s.unvisited.contains target then some (enter g target rest)
    else
      match s.position[target]? with
      | some i => some { rest with found := s.found.push (s.path.toList.drop i) }
      | none => some rest

/-! ## The search stops -/

/-- The work that frames leave: their targets and their own ends. -/
def framesLeft : List Frame → Nat
  | [] => 0
  | f :: rest => f.pending.length + 1 + framesLeft rest

/-- The work that is waiting, apart from the unvisited modules. -/
def waiting (s : CycleSearch) : Nat := s.roots.length + framesLeft s.frames

/-- Fewer unvisited modules, or as many and less work waiting. -/
def Smaller (s t : CycleSearch) : Prop :=
  Prod.Lex (· < ·) (· < ·) (s.unvisited.size, s.waiting) (t.unvisited.size, t.waiting)

theorem size_erase_lt {u : ExtTreeSet ModuleId} {id : ModuleId}
    (h : u.contains id = true) : (u.erase id).size < u.size := by
  have hpos : u.size ≠ 0 := by
    intro hz
    have := ExtTreeSet.eq_empty_iff_size_eq_zero.2 hz
    rw [this] at h
    simp at h
  rw [ExtTreeSet.size_erase, if_pos h]
  omega

theorem size_lt_of_step {g : ModuleGraph} {s t : CycleSearch} (h : step g s = some t) :
    Smaller t s := by
  unfold step at h
  unfold Smaller
  split at h
  · next hf =>
    split at h
    · cases h
    · next root more hr =>
      dsimp only at h
      split at h
      · next hc =>
        rw [Bool.and_eq_true] at hc
        rw [← Option.some.inj h]
        exact Prod.Lex.left _ _ (size_erase_lt hc.2)
      · rw [← Option.some.inj h]
        apply Prod.Lex.right
        simp [waiting, hf, hr]
  · next node below hf =>
    rw [← Option.some.inj h]
    apply Prod.Lex.right
    simp [waiting, framesLeft, leave, hf]
  · next node target pending below hf =>
    dsimp only at h
    split at h
    · next hc =>
      rw [← Option.some.inj h]
      exact Prod.Lex.left _ _ (size_erase_lt hc)
    · split at h
      · rw [← Option.some.inj h]
        apply Prod.Lex.right
        simp [waiting, framesLeft, hf]
      · rw [← Option.some.inj h]
        apply Prod.Lex.right
        simp [waiting, framesLeft, hf]

/-- The search run to its end. -/
def run (g : ModuleGraph) (s : CycleSearch) : CycleSearch :=
  match _h : step g s with
  | none => s
  | some t => run g t
termination_by (s.unvisited.size, s.waiting)
decreasing_by exact size_lt_of_step ‹_›

theorem run_eq (g : ModuleGraph) (s : CycleSearch) :
    run g s = match step g s with | none => s | some t => run g t := by
  rw [run]
  split <;> simp_all

theorem step_run (g : ModuleGraph) (s : CycleSearch) : step g (run g s) = none := by
  rw [run_eq]
  cases h : step g s with
  | none => exact h
  | some t => exact step_run g t
termination_by (s.unvisited.size, s.waiting)
decreasing_by exact size_lt_of_step h

end CycleSearch

/-! ## The cycles of a graph -/

/-- The items that are neither in `seen` nor stand further in front. -/
def Cycle.firsts (seen : ExtTreeSet Cycle) : List Cycle → List Cycle
  | [] => []
  | c :: rest => if seen.contains c then firsts seen rest else c :: firsts (seen.insert c) rest

/-- One cycle for every edge back to an open module, in its canonical reading, each
once. -/
def ModuleGraph.findCycles (g : ModuleGraph) (roots : List ModuleId) : List Cycle :=
  Cycle.firsts ∅ (((CycleSearch.start g roots).run g).found.toList.map Cycle.canonical)

end LayerLint
