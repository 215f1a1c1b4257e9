import LayerLint.Descriptor
import LayerLint.Graph.Basic
import LayerLint.Import.Resolver
import LayerLint.Log

/-!
# Building the module graph

Building goes in two steps.  The survey looks at every submission on its own
against the set of all files: it keeps the first descriptor of each file,
turns that file's import records into links, and notes what it had to leave
out.  Of a file's links to one target only the first becomes an edge, and of
those past all files to one package only the first is kept for the package.

Then the files are merged in two passes.  The first sets a node without edges
for every file; the second takes in file after file, adding the packages that
have no node yet and the edges whose target is new to the file's node.

An import that resolves to no file leads to the package it seems to come
from, so a link always has a target.

## Main results

* `getElem?_edgeMap`: of the links to one target the first is kept.
-/

namespace LayerLint

open Std (ExtTreeMap ExtTreeSet)

/-! ## What is left out

The texts are for what can be shown; whether it can is asked before a survey. -/

/-- A record that does not make it into the graph. -/
inductive Skip where
  | unusable (s : Submission)
  | duplicate (id : ModuleId)
  | noImportList (id : ModuleId) (kind : String)
  | badImport (id : ModuleId) (number : Nat) (problem : ImportProblem)
  deriving Repr

def Skip.text : Skip → String
  | unusable s => "Skipping module descriptor without a usable path: " ++ s.spelled
  | duplicate id => "Skipping duplicate descriptor for " ++ id
  | noImportList id kind => id ++ ": imports must be a list, got " ++ kind
  | badImport id number problem =>
    id ++ ": skipping import #" ++ toString number ++ ": " ++ problem.text

/-! ## One descriptor per file -/

/-- The descriptors that count, with their ids, and what stands beside them. -/
structure Selection where
  units : List (ModuleId × Descriptor)
  skips : List Skip

/-- The first descriptor of every file that is not yet among `seen`. -/
def Selection.ofSubmissions (seen : ExtTreeSet ModuleId) : List Submission → Selection
  | [] => ⟨[], []⟩
  | s :: rest =>
    match s.usable? with
    | none =>
      let more := ofSubmissions seen rest
      { more with skips := .unusable s :: more.skips }
    | some (id, d) =>
      if seen.contains id then
        let more := ofSubmissions seen rest
        { more with skips := .duplicate id :: more.skips }
      else
        let more := ofSubmissions (seen.insert id) rest
        { more with units := (id, d) :: more.units }

/-! ## Links -/

/-- An import with its target, which is a file of the project or a package. -/
structure Link where
  edge : Edge
  resolved : Bool
  deriving DecidableEq, Repr

/-- The links whose target is not among `seen` and is none of a link in front. -/
def firstLinks (seen : ExtTreeSet ModuleId) : List Link → List Link
  | [] => []
  | l :: rest =>
    if seen.contains l.edge.target then firstLinks seen rest
    else l :: firstLinks (seen.insert l.edge.target) rest

/-- One file as the survey found it. -/
structure Surveyed where
  record : Module
  links : List Link
  skips : List Skip

namespace Surveyed

/-- The edges that the file hands on: one to every target. -/
def edges (s : Surveyed) : List Edge := (firstLinks ∅ s.links).map (·.edge)

/-- The packages that the file hands on, each with the import that led there first. -/
def packages (s : Surveyed) : List Link := firstLinks ∅ (s.links.filter fun l => !l.resolved)

end Surveyed

/-- Edges join others; where there is one to the same target it stays. -/
def addEdges (outgoing : EdgeMap) (edges : List Edge) : EdgeMap :=
  edges.foldl (fun m e => m.insertIfNew e.target e) outgoing

/-- The edges by target; of several to one target the first. -/
def edgeMap (edges : List Edge) : EdgeMap := addEdges ∅ edges

theorem getElem?_edgeMap (edges : List Edge) (target : ModuleId) :
    (edgeMap edges)[target]? = edges.find? (·.target == target) := by
  suffices h : ∀ m : EdgeMap,
      (addEdges m edges)[target]? = (m[target]?).or (edges.find? (·.target == target)) by
    simpa [edgeMap] using h ∅
  unfold addEdges
  induction edges with
  | nil => simp
  | cons e rest ih =>
    intro m
    rw [List.foldl_cons, ih, ExtTreeMap.getElem?_insertIfNew, List.find?_cons]
    by_cases ht : e.target = target
    · subst ht
      by_cases hm : e.target ∈ m
      · simp [hm]
      · simp [hm]
    · simp [ht, beq_eq_false_iff_ne.2 ht]

/-- How graphs are built: what classifies a path, and the project's packages at its top
level. -/
structure Builder where
  classify : String → LayerName
  packageNames : List String := []

namespace Builder

/-- The link of a checked import record. -/
def linkOf (r : Import.Resolver) (id : ModuleId) (target : String) (location : Location) : Link :=
  match r.resolve? target id with
  | some file => ⟨⟨id, file, location, target⟩, true⟩
  | none => ⟨⟨id, Import.externalId target, location, target⟩, false⟩

/-- The links and the skips of an import list, whose items count from `number`. -/
def surveyItems (r : Import.Resolver) (id : ModuleId) (number : Nat) :
    List ImportItem → List Link × List Skip
  | [] => ([], [])
  | item :: rest =>
    let (links, skips) := surveyItems r id (number + 1) rest
    match item.check with
    | .ok (target, location) => (linkOf r id target location :: links, skips)
    | .error problem => (links, .badImport id number problem :: skips)

/-- The record of a file: the descriptor's layer, or else the one its path is classified
as.  Whether the layer can be written at all is asked before, as for every offer. -/
def recordOf (b : Builder) (id : ModuleId) (d : Descriptor) : Module :=
  { id := id
    layer := if d.layer.isNull then b.classify id else Layer.ofValue d.layer
    location := some { file := id } }

/-- One file against the files of the project. -/
def survey (b : Builder) (r : Import.Resolver) (id : ModuleId) (d : Descriptor) : Surveyed :=
  match d.imports.items? with
  | none => ⟨b.recordOf id d, [], [.noImportList id d.imports.kindName]⟩
  | some items =>
    let (links, skips) := surveyItems r id 1 items
    ⟨b.recordOf id d, links, skips⟩

end Builder

/-! ## The graph of a survey -/

namespace ModuleGraph

/-- The node of a package from outside. -/
def packageNode (id : ModuleId) : Node := ⟨{ id := id, layer := Layer.external }, ∅⟩

/-- Every target that is no file gets a node, unless it has one. -/
def addPackages (g : ModuleGraph) (links : List Link) : ModuleGraph :=
  links.foldl
    (fun g l =>
      if l.resolved then g else ⟨g.nodes.insertIfNew l.edge.target (packageNode l.edge.target)⟩)
    g

/-- A module without edges takes the place of whatever stood under its id. -/
def setModule (g : ModuleGraph) (m : Module) : ModuleGraph := ⟨g.nodes.insert m.id ⟨m, ∅⟩⟩

/-- What a file hands on joins the graph, in which the file has a node. -/
def takeIn (g : ModuleGraph) (s : Surveyed) : ModuleGraph :=
  ⟨(g.addPackages s.packages).nodes.modify s.record.id fun n =>
    { n with outgoing := addEdges n.outgoing s.edges }⟩

/-- The links for which `addPackages` adds a node. -/
def newPackages (g : ModuleGraph) : List Link → List Link
  | [] => []
  | l :: rest =>
    if l.resolved || g.contains l.edge.target then newPackages g rest
    else l :: newPackages (g.addPackages [l]) rest

end ModuleGraph

/-- What a look at all submissions found. -/
structure Survey where
  files : List Surveyed
  skips : List Skip

namespace Survey

/-- The files alone, without edges. -/
def bare (s : Survey) : ModuleGraph := s.files.foldl (fun g f => g.setModule f.record) .empty

def graph (s : Survey) : ModuleGraph := s.files.foldl ModuleGraph.takeIn s.bare

def skipped (s : Survey) : List String := s.skips.map Skip.text

/-- The record of a package that an import led to. -/
def packageRecord (l : Link) : LogRecord :=
  ⟨.debug, "Unresolved import " ++ Text.quote l.edge.written ++ " recorded as " ++ l.edge.target⟩

def log (s : Survey) : Log :=
  s.skipped.map (⟨.warning, ·⟩) ++
    (s.bare.newPackages (s.files.flatMap (·.packages))).map packageRecord ++
    [⟨.debug, "Built module graph: " ++ toString s.graph.size ++ " nodes, " ++
      toString s.graph.edgeCount ++ " edges, " ++ toString s.skips.length ++ " skipped records"⟩]

end Survey

namespace Builder

def surveyAll (b : Builder) (submissions : List Submission) : Survey :=
  let selection := Selection.ofSubmissions ∅ submissions
  let resolver := Import.Resolver.ofFiles (selection.units.map (·.1)) b.packageNames
  let files := selection.units.map fun (id, d) => b.survey resolver id d
  ⟨files, selection.skips ++ files.flatMap (·.skips)⟩

/-- The graph of all submissions. -/
def build (b : Builder) (submissions : List Submission) : ModuleGraph :=
  (b.surveyAll submissions).graph

end Builder

end LayerLint
