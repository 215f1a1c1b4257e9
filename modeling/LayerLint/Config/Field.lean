import LayerLint.Boundary
import LayerLint.Layer.Classifier
import LayerLint.Layer.Policy

/-!
# Configuration fields

The closed set of settings, each with its name in configuration files, the
shape that an environment variable can give it, and its default.
-/

namespace LayerLint.Config

inductive Field where
  /-- The runs of directories that name each layer. -/
  | layerSegments
  /-- Which layer may import which, by source and target. -/
  | policy
  /-- Whether the built-in rows stand below those of the policy. -/
  | useDefaultPolicy
  /-- The layers that are never judged. -/
  | exemptLayers
  /-- The packages whose addresses lead into the library directory at the top. -/
  | packageNames
  /-- Ends of file names that mark implementation details. -/
  | leakMarkers
  /-- Directories that mark implementation details. -/
  | internalSegments
  /-- File names and directories of modules that wire the layers together. -/
  | compositionRoots
  /-- Directories of code that every layer may use. -/
  | sharedSegments
  /-- How serious each kind of violation is. -/
  | severities
  /-- The checks to run, in order. -/
  | enabledChecks
  /-- Whether cycles alone fail a run. -/
  | failOnCycleOnly
  /-- How many files are looked at side by side. -/
  | workers
  /-- How much is logged. -/
  | verbosity
  deriving DecidableEq, Repr

namespace Field

def all : List Field :=
  [layerSegments, policy, useDefaultPolicy, exemptLayers, packageNames, leakMarkers,
    internalSegments, compositionRoots, sharedSegments, severities, enabledChecks,
    failOnCycleOnly, workers, verbosity]

def name : Field → String
  | layerSegments => "layer_segments"
  | policy => "policy"
  | useDefaultPolicy => "use_default_policy"
  | exemptLayers => "exempt_layers"
  | packageNames => "package_names"
  | leakMarkers => "leak_markers"
  | internalSegments => "internal_segments"
  | compositionRoots => "composition_roots"
  | sharedSegments => "shared_segments"
  | severities => "severities"
  | enabledChecks => "enabled_checks"
  | failOnCycleOnly => "fail_on_cycle_only"
  | workers => "workers"
  | verbosity => "verbosity"

def ofName? (s : String) : Option Field := all.find? (·.name == s)

/-- What a single text can say about a field. -/
inductive Shape where
  /-- Nothing: a table does not fit into one text. -/
  | table
  | list
  | flag
  | count
  | word
  deriving DecidableEq, Repr

def shape : Field → Shape
  | layerSegments | policy | severities => .table
  | useDefaultPolicy | failOnCycleOnly => .flag
  | workers => .count
  | verbosity => .word
  | _ => .list

/-- How serious a kind of violation is unless a configuration says otherwise. -/
def defaultSeverity : ViolationKind → Severity
  | .layer => .error
  | .cycle => .error
  | .boundary => .warning

private def texts (xs : List String) : Value := .list (xs.map .str)

def default : Field → Value
  | layerSegments => .dict (defaultSegments.map fun (layer, runs) => (layer, texts runs))
  | policy => .dict []
  | useDefaultPolicy => .bool true
  | exemptLayers => texts LayerPolicy.defaultExempt
  | packageNames => .list []
  | leakMarkers => texts Boundary.defaultLeakMarkers
  | internalSegments => texts Boundary.defaultInternalSegments
  | compositionRoots => texts Boundary.defaultCompositionRoots
  | sharedSegments => texts Boundary.defaultSharedSegments
  | severities =>
    .dict (ViolationKind.all.map fun kind => (kind.name, .str (defaultSeverity kind).name))
  | enabledChecks => texts (Check.all.map Check.name)
  | failOnCycleOnly => .bool false
  | workers => .null
  | verbosity => .str "normal"

end Field

end LayerLint.Config
