import LayerLint.Graph.Incremental
import LayerLint.Graph.Workers

/-!
# What a host may hand over

A host is free to hand over anything.  Whatever it is, it is asked for a path
first.  If the path names no file, it is shown in a message and left out; if it
names one, and is the first to name it, it is asked for a layer and for imports.

So an object without a layer goes unnoticed when it names no file or comes
second, and otherwise stops the whole survey.  The same goes for a layer that
cannot be written, and for imports that break while they are gone through.

A submission is an object that has all its parts, or has no path.
-/

namespace LayerLint

open Std (ExtTreeSet)

/-- What an object has in the place of the imports. -/
inductive OfferedImports where
  | list (l : ImportList)
  /-- Something that looks as if it could be gone through, and the fault of doing so. -/
  | broken (f : Fault)

/-- Any object, as far as it is looked at. -/
structure Thing where
  /-- The name of its kind. -/
  kind : String
  path : Option Value := none
  layer : Option Value := none
  imports : Option OfferedImports := none
  /-- How a message shows it, or the fault of showing it. -/
  shown : Except Fault String

/-- What is handed over. -/
inductive Offer where
  | submission (s : Submission)
  | thing (t : Thing)

/-! ## Asking for the parts -/

namespace Thing

/-- What the survey of the object takes from it, where a missing part is left out. -/
def descriptor (t : Thing) (path : Value) : Descriptor where
  path := path
  imports :=
    match t.imports with
    | some (.list l) => l
    | _ => .items []
  layer := t.layer.getD .null

/-- How the object is shown, when it can be shown. -/
def spelled (t : Thing) : String :=
  match t.shown with
  | .ok s => s
  | .error _ => ""

/-- The object as a submission, when all goes well. -/
def plain (t : Thing) : Submission :=
  match t.path with
  | none => .nameless t.spelled (.noOperation t.kind "path")
  | some path =>
    if (idOfPath? path).isSome then .descriptor (t.descriptor path)
    else .nameless t.spelled (Builder.pathFault path)

/-- The fault of reading the layer. -/
def layerFault? (t : Thing) : Option Fault :=
  match t.layer with
  | none => some (.noOperation t.kind "layer")
  | some layer => layer.unshowable?

/-- The fault of going through the imports. -/
def importsFault? (t : Thing) : Option Fault :=
  match t.imports with
  | none => some (.noOperation t.kind "imports")
  | some (.broken f) => some f
  | some (.list _) => none

end Thing

namespace Offer

def id? : Offer → Option ModuleId
  | submission s => s.id?
  | thing t => t.path.bind idOfPath?

def plain : Offer → Submission
  | submission s => s
  | thing t => t.plain

/-- Why an offer cannot be shown, if it cannot. -/
def unshowable? : Offer → Option Fault
  | submission s => s.unshowable?
  | thing t =>
    match t.shown with
    | .ok _ => none
    | .error f => some f

/-- The fault of showing what names no file; what names one is not shown. -/
def showingFault? (o : Offer) : Option Fault :=
  if o.id?.isSome then none else o.unshowable?

/-- The fault of asking what names a file for its other parts, the layer first. -/
def readingFault? : Offer → Option Fault
  | submission (.descriptor d) => d.layer.unshowable?
  | submission _ => none
  | thing t => t.layerFault?.or t.importsFault?

/-- The descriptor in an offer. -/
def read (o : Offer) : Except Fault Descriptor :=
  match o.readingFault? with
  | some f => .error f
  | none => (Builder.unitOf o.plain).map (·.2)

/-- The first offer of every file that is not yet among `seen`. -/
def firsts (seen : ExtTreeSet ModuleId) : List Offer → List (ModuleId × Offer)
  | [] => []
  | o :: rest =>
    match o.id? with
    | none => firsts seen rest
    | some id =>
      if seen.contains id then firsts seen rest else (id, o) :: firsts (seen.insert id) rest

end Offer

/-! ## Surveying offers -/

namespace Builder

/-- One file against the files of the project, as far as it can be read. -/
def surveyOffer (b : Builder) (r : Import.Resolver) (id : ModuleId) (o : Offer) :
    Except Fault Surveyed :=
  o.read.map (b.survey r id)

/-- The survey of all that is handed over; nothing when it never ends.  What names
no file is shown before any file is looked at. -/
def surveyOffers (b : Builder) (w : Workers) (offers : List Offer) :
    Option (Except Fault Survey) :=
  match offers.findSome? Offer.showingFault? with
  | some f => some (.error f)
  | none =>
    let units := Offer.firsts ∅ offers
    let skips := (Selection.ofSubmissions ∅ (offers.map Offer.plain)).skips
    let resolver := Import.Resolver.ofFiles (units.map (·.1)) b.packageNames
    (w.collect (fun u => b.surveyOffer resolver u.1 u.2) units).map fun found => do
      let files ← found.mapM id
      return ⟨files, skips ++ files.flatMap (·.skips)⟩

end Builder

end LayerLint
