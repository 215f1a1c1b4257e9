import LayerLint.Value

/-!
# Workers

Few files are looked at one after the other.  Many are handed to a pool, whose
workers get done with them in an order of their own; whoever asked waits for the
files in their order and takes the results as they come up.  With one worker
there is no pool.

A number of workers may be set.  A setting that is not a number, although it is
of the kind of numbers, is no fewer than one and yet starts no worker.  Then
nothing is ever done, and waiting for the first file does not end.
-/

namespace LayerLint

/-- A pool in which every file is done at some time. -/
structure Pool where
  /-- The numbers of so many files, in the order in which the workers get done with
  them. -/
  order : Nat → List Nat
  complete : ∀ count i, i < count → i ∈ order count

/-- The pool that gets done with the files in their order. -/
def Pool.inOrder : Pool := ⟨List.range, fun _ _ h => List.mem_range.2 h⟩

/-- Who looks at the files. -/
inductive Workers where
  /-- No pool: the files are looked at one after the other. -/
  | alone
  | pool (p : Pool)
  /-- A pool that starts no worker. -/
  | idle

namespace Workers

/-- From so many files on a pool is used. -/
def manyFiles : Nat := 32

/-- The workers for a setting, where the pool stands for all numbers above one. -/
def ofValue (p : Pool) : Value → Workers
  | .int 1 | .bool true => alone
  | .float x => if x == 1 then alone else if x.isNaN then idle else pool p
  | _ => pool p

variable {α β : Type}

/-- The order in which a pool gets done with so many files; none when no pool is used. -/
def order? (w : Workers) (count : Nat) : Option (List Nat) :=
  if count < manyFiles then none
  else
    match w with
    | alone => none
    | pool p => some (p.order count)
    | idle => some []

/-- What a pool has laid down once it got done with the files in this order. -/
def finished (look : α → β) (files : List α) (order : List Nat) : List (Nat × β) :=
  order.filterMap fun i => files[i]?.map fun file => (i, look file)

/-- Waits for the files in turn; nothing when one of them is never done. -/
def await (files : List α) (done : List (Nat × β)) : Option (List β) :=
  files.zipIdx.mapM fun place => done.lookup place.2

/-- Looks at all files; nothing when that never ends. -/
def collect (w : Workers) (look : α → β) (files : List α) : Option (List β) :=
  match w.order? files.length with
  | none => some (files.map look)
  | some order => await files (finished look files order)

/-- So many files would be waited for in vain. -/
def waits (w : Workers) (count : Nat) : Bool :=
  match w with
  | idle => manyFiles ≤ count
  | _ => false

end Workers

end LayerLint
