import LayerLint.Engine
import LayerLint.Offer

/-!
# The engine as a host sees it

A host hands over whatever it likes, and the engine remembers it as it is: the
first offer of every file by the file's id.  So what could not be read when it
came is still there when everything is built again.

A call that fails while offers are looked at leaves all as it was, except that
an update has remembered its offer by then, and a removal has forgotten one.  A
call may also never end; then there is no state after it.
-/

namespace LayerLint

structure HostedEngine where
  analysis : Analysis
  workers : Workers
  known : Known Offer := []
  last : Option Result := none

namespace HostedEngine

/-- An answer with the state after it; nothing when the call never ends. -/
abbrev Outcome := Option (Except Fault Result × HostedEngine)

/-- The engine that a configuration describes, with a pool for every number of workers
above one. -/
def ofConfig (p : Pool) (c : Config) (o : Analysis.Overrides) : Except Fault HostedEngine := do
  return { analysis := ← Analysis.ofConfig c o, workers := .ofValue p (c.get .workers) }

/-- Builds the graph from all offers and analyses it. -/
def run (h : HostedEngine) (offers : List Offer) : Outcome :=
  (h.analysis.builder.surveyOffers h.workers offers).map fun found =>
    match found with
    | .error f => (.error f, h)
    | .ok survey =>
      let next := { h with known := Offer.firsts ∅ offers }
      match h.analysis.resultOn survey with
      | .error f => (.error f, next)
      | .ok r => (.ok r, { next with last := some r })

/-- What is known, to be handed over again. -/
def offers (h : HostedEngine) : List Offer := h.known.map (·.2)

/-- Builds everything again from what is known. -/
def rebuild (h : HostedEngine) : Outcome := h.run h.offers

/-- Works out one file again on the last graph. -/
def amend (h : HostedEngine) (last : Result) (o : Offer) (id : ModuleId) :
    Except Fault Result × HostedEngine :=
  match o.readingFault? with
  | some f => (.error f, h)
  | none =>
    match h.analysis.amended last o.plain id with
    | .error f => (.error f, h)
    | .ok r => (.ok r, { h with last := some r })

/-- One file has changed, or is new. -/
def update (h : HostedEngine) (o : Offer) : Outcome :=
  match Builder.unitOf o.plain with
  | .error f => some (.error f, h)
  | .ok (id, _) =>
    let isNew := (h.known.lookup id).isNone
    let next := { h with known := h.known.set id o }
    match h.last with
    | some last => if isNew then next.rebuild else some (next.amend last o id)
    | none => next.rebuild

/-- A file was deleted. -/
def remove (h : HostedEngine) (path : Value) : Outcome :=
  match path with
  | .str s => { h with known := h.known.erase (Path.canonical s) : HostedEngine }.rebuild
  | other => some (.error (.noOperation other.fullKindName "strip"), h)

end HostedEngine

end LayerLint
