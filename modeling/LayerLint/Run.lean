import LayerLint.Config.Discovery
import LayerLint.Descriptor.Document
import LayerLint.Hosted

/-!
# A whole run

From what is found at a workplace to a result: the configuration is looked
for first, then the descriptors are read, and then the checks are run once.
-/

namespace LayerLint

/-- What a run looks at. -/
inductive Subject where
  | offers (items : List Offer)
  /-- A document in a file. -/
  | file (path : String)

namespace Subject

/-- The submissions of a subject, with what was noted while reading them. -/
def load (files : Files) : Subject → Except Fault (List Submission × Log)
  | offers items => .ok (items.map Offer.plain, [])
  | file path => (Document.loadFile files path path).map fun l =>
    (l.descriptors.map .descriptor, l.log)

/-- What a subject hands over. -/
def offered (files : Files) : Subject → Except Fault (List Offer)
  | offers items => .ok items
  | file path => (load files (file path)).map fun found => found.1.map .submission

end Subject

/-- The result of one run; nothing when it never ends. -/
def analyze (p : Pool) (w : Workplace) (subject : Subject) (configFile : Option String)
    (overrides : Table) : Option (Except Fault Result) :=
  let setUp := do
    let config ← Config.discover w configFile overrides
    let offers ← subject.offered w.files
    return (← HostedEngine.ofConfig p config {}, offers)
  match setUp with
  | .error f => some (.error f)
  | .ok (engine, offers) => (engine.run offers).map (·.1)

end LayerLint
