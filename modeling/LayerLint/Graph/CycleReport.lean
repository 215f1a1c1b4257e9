import LayerLint.Fault
import LayerLint.Graph.CycleSearch
import LayerLint.Log

/-!
# Reporting cycles

Every cycle is one violation.  It is anchored at the import that closes the
canonical reading, from the last member to the first, so the place does not
depend on where the search started.  The advice looks at the layers the cycle
touches and, within one layer, at the roles that its file names tell.
-/

namespace LayerLint

namespace Cycle

/-- The last two components of an id. -/
def shortName (id : ModuleId) : String :=
  let parts := Text.split '/' id
  if parts.length > 2 then Text.join "/" (parts.drop (parts.length - 2)) else id

/-- What a cycle is reported as. -/
def message (first : ModuleId) (rest : List ModuleId) : String :=
  "Circular dependency detected: " ++
    if rest.isEmpty then first ++ " imports itself"
    else " → ".intercalate ((first :: rest ++ [first]).map shortName)

/-- The layers that members of the cycle are known to belong to, in order. -/
def knownLayers (g : ModuleGraph) (c : Cycle) : List LayerName :=
  (Std.ExtTreeSet.ofList
    ((c.map g.layerOf).filter fun l => l ≠ Layer.unknown && l ≠ Layer.external)).toList

/-- Some member's id holds one of the words. -/
def mentions (c : Cycle) (words : List String) : Bool :=
  c.any fun id => words.any fun word => Text.contains word (Text.lower id)

/-- How to break the cycle. -/
def suggestion (g : ModuleGraph) (c : Cycle) : String :=
  let layers := knownLayers g c
  if c.length = 1 then "Remove the self-import; a module never needs to import itself."
  else if layers.length > 1 then
    "The cycle spans layers (" ++ ", ".intercalate (layers.map Layer.titleOf) ++
      "). Break it with dependency inversion: " ++
      "define an abstraction in the inner layer that the outer layer implements."
  else if c.mentions ["repositor"] then
    "Depend on repository interfaces in the domain layer instead of " ++
      "importing repository implementations directly."
  else if c.mentions ["usecase", "use_case"] then
    "Use cases should not depend on each other directly. " ++
      "Combine them or extract the shared step into its own unit."
  else
    "Extract the shared functionality into a separate module, or inject " ++
      "the dependency instead of importing it."

/-- The violation of one cycle, provided that its last member imports its first.
No members have no last one. -/
def violation? (g : ModuleGraph) (severity : Severity) : Cycle → Except Fault Violation
  | [] => .error (.outOfRange "tuple")
  | first :: rest =>
    let last := rest.getLastD first
    match g.edge? last first with
    | none => .error (.graph last ("no edge back to " ++ first ++ " closes the cycle"))
    | some closing => .ok
      { kind := .cycle
        modules := first :: rest
        location := closing.location
        message := message first rest
        suggestion := suggestion g (first :: rest)
        severity := severity }

end Cycle

namespace ModuleGraph

/-- One violation for every cycle that the search finds. -/
def cycleViolations (g : ModuleGraph) (severity : Severity) : Except Fault (List Violation) :=
  (g.findCycles []).mapM (Cycle.violation? g severity)

def cycleLog (count : Nat) : Log :=
  if count = 0 then []
  else [⟨.debug, "Detected " ++ toString count ++ " circular dependencies"⟩]

end ModuleGraph

end LayerLint
