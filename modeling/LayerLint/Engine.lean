import LayerLint.Analysis

/-!
# The engine

An engine remembers the current descriptors and its last result.  A run
replaces the descriptors and builds the graph from all of them.  An update of
a file that is already known works out only that file's edges on the last
graph; a new file, or a first one, leads to a full run, because it can change
what other imports resolve to.

Every call yields an answer and the next state.  A call that fails answers
with a fault, and what it had remembered by then stays remembered.
-/

namespace LayerLint

/-- What is known of files by their ids, in the order in which the files became known. -/
abbrev Known (α : Type) := List (ModuleId × α)

namespace Known

variable {α : Type}

/-- A new file goes to the end, a known one keeps its place. -/
def set (id : ModuleId) (a : α) : Known α → Known α
  | [] => [(id, a)]
  | (k, b) :: rest => if k = id then (k, a) :: rest else (k, b) :: set id a rest

def erase (id : ModuleId) (known : Known α) : Known α := known.filter fun entry => entry.1 ≠ id

end Known

/-- The current descriptors. -/
abbrev Descriptors := Known Descriptor

/-- The descriptors as they are handed over. -/
def Descriptors.submissions (ds : Descriptors) : List Submission :=
  ds.map fun entry => .descriptor entry.2

/-! ## Results of single steps -/

/-- The messages that are about a module. -/
def Engine.isAbout (id : ModuleId) (message : String) : Bool :=
  Text.startsWith (id ++ ":") message

namespace Analysis

/-- The result on a survey of all submissions. -/
def resultOn (a : Analysis) (survey : Survey) : Except Fault Result :=
  (a.report survey.graph).map fun violations =>
    ⟨survey.graph, violations, survey.skipped, a.checks⟩

/-- The result after one file has been worked out again on the last graph. -/
def amended (a : Analysis) (last : Result) (s : Submission) (id : ModuleId) :
    Except Fault Result := do
  let (graph, skipped) ← a.builder.update last.graph s
  let violations ← a.report graph
  let kept := last.skipped.filter fun message => !Engine.isAbout id message
  return ⟨graph, violations, kept ++ skipped, a.checks⟩

end Analysis

/-! ## The engine -/

structure Engine where
  analysis : Analysis
  descriptors : Descriptors := []
  last : Option Result := none

namespace Engine

/-- An answer with the state after it. -/
abbrev Outcome := Except Fault Result × Engine

/-- The descriptors that a list of submissions leaves known. -/
def knownFrom (submissions : List Submission) : Descriptors :=
  (Selection.ofSubmissions ∅ submissions).units

/-- Builds the graph from all submissions and analyses it. -/
def run (e : Engine) (submissions : List Submission) : Outcome :=
  let next := { e with descriptors := knownFrom submissions }
  match e.analysis.resultOn (e.analysis.builder.surveyAll submissions) with
  | .error f => (.error f, next)
  | .ok r => (.ok r, { next with last := some r })

/-- Builds everything again from the current descriptors. -/
def rebuild (e : Engine) : Outcome := e.run e.descriptors.submissions

/-- Works out one file again on the last graph. -/
def amend (e : Engine) (last : Result) (s : Submission) (id : ModuleId) : Outcome :=
  match e.analysis.amended last s id with
  | .error f => (.error f, e)
  | .ok r => (.ok r, { e with last := some r })

/-- One file has changed, or is new. -/
def update (e : Engine) (s : Submission) : Outcome :=
  match Builder.unitOf s with
  | .error f => (.error f, e)
  | .ok (id, d) =>
    let isNew := (e.descriptors.lookup id).isNone
    let next := { e with descriptors := e.descriptors.set id d }
    match e.last with
    | some last => if isNew then next.rebuild else next.amend last s id
    | none => next.rebuild

/-- A file was deleted. -/
def remove (e : Engine) (path : Value) : Outcome :=
  match path with
  | .str s => { e with descriptors := e.descriptors.erase (Path.canonical s) : Engine }.rebuild
  | other => (.error (.noOperation other.fullKindName "strip"), e)

/-- What a run notes about its work. -/
def runLog (a : Analysis) (submissions : List Submission) : Log :=
  let survey := a.builder.surveyAll submissions
  let violations := ((a.report survey.graph).toOption.getD []).length
  survey.log ++ a.log survey.graph false a.checks ++
    [⟨.info, "Analyzed " ++ toString survey.graph.stats.modules ++ " modules, " ++
      toString survey.graph.edgeCount ++ " edges: " ++ toString violations ++ " violations"⟩]

end Engine

end LayerLint
