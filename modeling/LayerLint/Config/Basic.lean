import LayerLint.Config.Field

/-!
# Configurations

A configuration gives every field a value.  Values come from files and from
outside, so they are kept as they were given; `Config.ofTable` looks at each
of them once and refuses what cannot be meant, and the derived parts (checks,
severities, policy, classifier) are read off the values afterwards.

Some fields are not looked at until something is derived from them; a value
there that makes no sense is a fault of the derivation.
-/

namespace LayerLint

/-- A value for every field. -/
structure Config where
  get : Config.Field → Value

namespace Config

def default : Config := ⟨Field.default⟩

/-- The configuration of a table; fields that it leaves out have their default. -/
def fill (t : Table) : Config := ⟨fun f => (t.lookup f.name).getD f.default⟩

/-! ## What a configuration refuses -/

/-- A list of texts that are not blank. -/
def isNameList : Value → Bool
  | .list items => items.all fun
    | .str s => !Text.isBlankText s
    | _ => false
  | _ => false

def checkSegments : Value → Except Fault Unit
  | .dict entries => entries.forM fun (layer, runs) =>
    if isNameList runs then pure ()
    else throw (.ofSetting ("layers." ++ layer) runs "expected a list of directory names")
  | other => throw (.ofSetting "layers" other "expected a table")

def checkPackageNames (v : Value) : Except Fault Unit :=
  if isNameList v then pure ()
  else throw (.ofSetting "package_names" v "expected a list of package names")

def checkPolicy : Value → Except Fault Unit
  | .dict entries => (LayerPolicy.rowsOfTable entries).map fun _ => ()
  | other => throw (.ofSetting "policy" other "expected a table")

def checkSeverity (entry : String × Value) : Except Fault Unit :=
  let key := "severities." ++ entry.1
  match ViolationKind.ofName? entry.1, Severity.ofText? entry.2.text with
  | none, _ => throw (.ofSetting key entry.2 "unknown violation kind")
  | some _, none =>
    throw (.ofSetting key entry.2 (Fault.unknownSeverity entry.2.text).message)
  | some _, some _ => pure ()

def checkSeverities : Value → Except Fault Unit
  | .dict entries => entries.forM checkSeverity
  | other => throw (.noOperation other.fullKindName "items")

/-- The items of a value that has to be gone through. -/
def itemsOf (v : Value) : Except Fault (List Value) :=
  match v.items? with
  | some items => .ok items
  | none => .error (.notIterable v.fullKindName)

/-- The check that a value names. -/
def checkOf (v : Value) : Except Fault Check :=
  match Check.ofText? v.text with
  | some c => .ok c
  | none => .error (.about v (.unknownCheck v))

def checkEnabled (v : Value) : Except Fault Unit := do
  (← itemsOf v).forM fun item =>
    match checkOf item with
    | .ok _ => pure ()
    | .error f => throw (.ofSetting "enabled_checks" item f.message)

/-- Whether a number of workers is below one; what is no number has no order with one. -/
def belowOne : Value → Except Fault Bool
  | .bool b => .ok (!b)
  | .int i => .ok (i < 1)
  | .float x => .ok (x < 1)
  | other => .error (.notOrdered other.fullKindName)

/-- No number of workers leaves the choice open. -/
def checkWorkers : Value → Except Fault Unit
  | .null => pure ()
  | v => do if ← belowOne v then throw (.ofSetting "workers" v "must be at least 1")

def checkVerbosity (v : Value) : Except Fault Unit :=
  match v with
  | .str "quiet" | .str "normal" | .str "verbose" => pure ()
  | other => throw (.ofSetting "verbosity" other "expected quiet, normal or verbose")

def check (c : Config) : Except Fault Unit := do
  checkSegments (c.get .layerSegments)
  checkPackageNames (c.get .packageNames)
  checkPolicy (c.get .policy)
  checkSeverities (c.get .severities)
  checkEnabled (c.get .enabledChecks)
  checkWorkers (c.get .workers)
  checkVerbosity (c.get .verbosity)

/-- The configuration of a table, provided that it has no other keys than fields and
passes. -/
def ofTable (t : Table) : Except Fault Config := do
  if let some (key, _) := t.find? fun (key, _) => (Field.ofName? key).isNone then
    throw (.unknownField key)
  let c := fill t
  c.check
  return c

/-! ## What is derived from a configuration -/

/-- Each item once, at its first place. -/
def distinct (checks : List Check) : List Check :=
  checks.foldl (fun seen c => if seen.contains c then seen else seen ++ [c]) []

/-- The enabled checks in their order, each once. -/
def checks (c : Config) : Except Fault (List Check) := do
  return distinct (← (← itemsOf (c.get .enabledChecks)).mapM checkOf)

def severityOf (v : Value) : Except Fault Severity :=
  match v with
  | .str s =>
    match Severity.ofText? s with
    | some severity => .ok severity
    | none => .error (.unknownSeverity s)
  | other => .error (.noOperation other.fullKindName "strip")

def severityFor (c : Config) (kind : ViolationKind) : Except Fault Severity :=
  match c.get .severities with
  | .dict entries =>
    severityOf ((entries.lookup kind.name).getD (.str (Field.defaultSeverity kind).name))
  | other => .error (.noOperation other.fullKindName "get")

def policy (c : Config) : Except Fault LayerPolicy := do
  let rows ←
    match c.get .policy with
    | .dict entries => LayerPolicy.rowsOfTable entries
    | other => throw (.noOperation other.fullKindName "items")
  let exempt ← LayerPolicy.exemptOfValue (c.get .exemptLayers)
  let own := LayerPolicy.ofRows rows exempt
  if (c.get .useDefaultPolicy).isTruthy then
    return (LayerPolicy.ofRows LayerPolicy.defaultRows exempt).merge own
  else
    return own

def classifier (c : Config) : Except Fault Classifier :=
  (segmentsOfValue (c.get .layerSegments)).map Classifier.ofSegments

/-- The texts of a list of names; every item has to be a text. -/
def namesOf (v : Value) : Except Fault (List String) := do
  (← itemsOf v).mapM fun
    | .str s => pure s
    | other => throw (.noOperation other.fullKindName "lower")

def boundaryNames (c : Config) : Except Fault Boundary.Names := do
  return {
    leakMarkers := ← namesOf (c.get .leakMarkers)
    internalSegments := ← namesOf (c.get .internalSegments)
    compositionRoots := ← namesOf (c.get .compositionRoots)
    sharedSegments := ← namesOf (c.get .sharedSegments) }

def packageNames (c : Config) : List String :=
  (((c.get .packageNames).items?).getD []).map Value.text

def failsOnCycleOnly (c : Config) : Bool := (c.get .failOnCycleOnly).isTruthy

/-- All fields as they were given. -/
def toTable (c : Config) : Table := Field.all.map fun f => (f.name, c.get f)

end Config

end LayerLint
