import LayerLint.Graph.Basic
import LayerLint.Layer.Classifier
import LayerLint.Layer.Policy
import LayerLint.Log
import LayerLint.Path.Parts

/-!
# Checking the boundaries between layers

Two rules are applied to every edge between modules of the project.  The
layering rule asks the policy whether the one layer may import the other;
modules that wire the layers together, and shared code that everybody uses,
are not held to it.  The leakage rule forbids to import another layer's
implementation details, which are recognised by their file names and
directories.  An edge may break both.

Each rule looks at one edge with its two modules and nothing else, so the
violations of a graph are those of its edges, in order.
-/

namespace LayerLint

open Std (ExtTreeSet)

namespace Boundary

/-! ## Defaults -/

def defaultLeakMarkers : List String := ["_impl", "impl", "_internal", "_private"]

def defaultInternalSegments : List String := ["internal", "_internal"]

def defaultCompositionRoots : List String :=
  ["di", "injection", "injection_container", "dependency_injection", "service_locator",
    "locator", "main"]

def defaultSharedSegments : List String := ["utils", "constants"]

/-! ## Rules -/

/-- What the two rules are applied with; names are in lower case. -/
structure Rules where
  policy : LayerPolicy
  leakMarkers : List String
  internalSegments : ExtTreeSet String
  compositionRoots : ExtTreeSet String
  sharedSegments : ExtTreeSet String
  checksLayers : Bool
  checksLeakage : Bool
  layerSeverity : Severity
  leakageSeverity : Severity

/-- The names that rules are made from, as a configuration gives them. -/
structure Names where
  leakMarkers : List String := defaultLeakMarkers
  internalSegments : List String := defaultInternalSegments
  compositionRoots : List String := defaultCompositionRoots
  sharedSegments : List String := defaultSharedSegments

def Rules.make (policy : LayerPolicy) (names : Names) (checksLayers checksLeakage : Bool)
    (layerSeverity leakageSeverity : Severity) : Rules :=
  let set (xs : List String) : ExtTreeSet String := ExtTreeSet.ofList (xs.map Text.lower)
  { policy := policy
    leakMarkers := names.leakMarkers.map Text.lower
    internalSegments := set names.internalSegments
    compositionRoots := set names.compositionRoots
    sharedSegments := set names.sharedSegments
    checksLayers := checksLayers
    checksLeakage := checksLeakage
    layerSeverity := layerSeverity
    leakageSeverity := leakageSeverity }

/-- Both rules with the built-in policy and names. -/
def Rules.default (policy : LayerPolicy) : Rules :=
  .make policy {} true true .error .warning

/-- What to do about a forbidden import between two of the built-in layers. -/
def layerAdvice : List ((LayerName × LayerName) × String) := [
  ((Layer.domain, Layer.data),
    "Domain must remain pure. Invert the dependency: declare an abstraction " ++
      "(e.g. a repository interface) in Domain and implement it in Data."),
  ((Layer.domain, Layer.presentation),
    "Domain must stay independent of UI concerns. Move the UI-specific logic " ++
      "to Presentation, or expose an abstraction Presentation can implement."),
  ((Layer.presentation, Layer.data),
    "Presentation should go through Domain (use cases, repository interfaces) " ++
      "instead of reaching into Data directly."),
  ((Layer.data, Layer.presentation),
    "Data should depend only on Domain. Remove the presentation dependency " ++
      "or move the shared type into Domain.")]

/-- What to do about a forbidden import between any two layers. -/
def generalAdvice (source target : String) : String :=
  "Invert the dependency or introduce an abstraction in " ++ source ++ " that " ++ target ++
    " implements, so that " ++ source ++ " no longer imports " ++ target ++ " directly."

namespace Rules

/-- The file name of a module, in lower case and without suffix. -/
def lowerStem (id : ModuleId) : String := (Path.Parts.ofPath (Text.lower id)).stem

def isCompositionRoot (r : Rules) (id : ModuleId) : Bool :=
  r.compositionRoots.contains (lowerStem id) ||
    (directoriesOf id).any r.compositionRoots.contains

def isShared (r : Rules) (id : ModuleId) : Bool := (directoriesOf id).any r.sharedSegments.contains

def isImplementationDetail (r : Rules) (id : ModuleId) : Bool :=
  r.leakMarkers.any (Text.endsWith · (lowerStem id)) ||
    (directoriesOf id).any r.internalSegments.contains

/-- The policy forbids the edge, whoever imports whom. -/
def forbids (r : Rules) (source target : Module) : Bool :=
  !target.isExternal && !source.isExternal && !r.policy.allows source.layer target.layer

def layerViolation (r : Rules) (e : Edge) (source target : Module) : Violation :=
  let sourceTitle := Layer.titleOf source.layer
  let targetTitle := Layer.titleOf target.layer
  { kind := .layer
    modules := [e.source, e.target]
    location := e.location
    message := sourceTitle ++ " must not depend on " ++ targetTitle ++ ": " ++ e.source ++
      " imports " ++ e.target
    suggestion := (layerAdvice.lookup (source.layer, target.layer)).getD
      (generalAdvice sourceTitle targetTitle)
    severity := r.layerSeverity }

/-- The breach of the layering rule by an edge, if there is one. -/
def layering? (r : Rules) (e : Edge) (source target : Module) : Option Violation :=
  if r.forbids source target && !r.isCompositionRoot source.id && !r.isShared target.id then
    some (r.layerViolation e source target)
  else none

def leakViolation (r : Rules) (e : Edge) (source target : Module) : Violation :=
  let owner := Layer.titleOf target.layer
  { kind := .boundary
    modules := [e.source, e.target]
    location := e.location
    message := e.source ++ " (" ++ Layer.titleOf source.layer ++ ") imports " ++ e.target ++
      ", an implementation detail of the " ++ owner ++ " layer"
    suggestion := "Depend on the public abstraction " ++ owner ++ " exposes instead of its " ++
      "implementation, and let dependency injection supply the concrete type."
    severity := r.leakageSeverity }

/-- The breach of the leakage rule by an edge, if there is one. -/
def leakage? (r : Rules) (e : Edge) (source target : Module) : Option Violation :=
  if !source.isExternal && !target.isExternal && !r.policy.isExempt source.layer &&
      !r.policy.isExempt target.layer && source.layer != target.layer &&
      r.isImplementationDetail target.id then
    some (r.leakViolation e source target)
  else none

/-- What is wrong with one edge. -/
def violationsOf (r : Rules) (e : Edge) (source target : Module) : List Violation :=
  (if r.checksLayers then (r.layering? e source target).toList else []) ++
    (if r.checksLeakage then (r.leakage? e source target).toList else [])

/-- The edge with the modules at its ends, both of which have to be nodes. -/
def ends (g : ModuleGraph) (e : Edge) : Except Fault (Edge × Module × Module) :=
  match g.module? e.source, g.module? e.target with
  | some source, some target => .ok (e, source, target)
  | none, _ => .error (.noKey e.source)
  | _, none => .error (.noKey e.target)

/-- What is wrong with the edges of a graph, in their order. -/
def check (r : Rules) (g : ModuleGraph) : Except Fault (List Violation) := do
  let ends ← g.edges.mapM (ends g)
  return Violation.firsts [] <|
    ends.flatMap fun (e, source, target) => r.violationsOf e source target

/-- The modules that the layering rule let pass because they wire the layers together. -/
def log (r : Rules) (g : ModuleGraph) : Log :=
  let passed := g.edges.filterMap fun e =>
    match ends g e with
    | .ok (_, source, target) =>
      if r.checksLayers && r.forbids source target && r.isCompositionRoot source.id then
        some ⟨.debug, source.id ++ " is a composition root; layer check skipped"⟩
      else none
    | .error _ => none
  passed ++
    [⟨.debug, "Boundary validation: " ++ toString g.edgeCount ++ " edges, " ++
      toString ((r.check g).toOption.getD []).length ++ " violations"⟩]

end Rules

end Boundary

end LayerLint
