import Std.Data.ExtTreeMap
import Std.Data.ExtTreeSet
import LayerLint.Import.External
import LayerLint.Violation

/-!
# The module graph

A node for every module, with the module's record and its outgoing edges by
target; at most one edge leads from one module to another.  Nodes and edges
are kept in the order of their ids, so two graphs with the same content are
equal and every traversal is in order.

A target need not be a node.  The views below are all read off the nodes, and
the lemmas beside them say how they agree.

## Main results

* `mem_edges_iff`: the edges in order are exactly the stored ones.
* `getElem?_importers`: the importers are the transpose of the neighbours.
-/

namespace LayerLint

open Std (ExtTreeMap ExtTreeSet)

/-- A module of the project, or a package from outside. -/
structure Module where
  id : ModuleId
  layer : LayerName
  location : Option Location := none
  deriving DecidableEq, Repr

def Module.isExternal (m : Module) : Bool := Import.isExternalId m.id

/-- One import of one module by another, at its first place. -/
structure Edge where
  source : ModuleId
  target : ModuleId
  location : Location
  /-- The import as it is written. -/
  written : String := ""
  deriving DecidableEq, Repr

/-- Edges by one of their ends. -/
abbrev EdgeMap := ExtTreeMap ModuleId Edge

structure Node where
  record : Module
  outgoing : EdgeMap

structure ModuleGraph where
  nodes : ExtTreeMap ModuleId Node

namespace ModuleGraph

def empty : ModuleGraph := ⟨∅⟩

@[ext]
theorem ext {g h : ModuleGraph} (H : ∀ id : ModuleId, g.nodes[id]? = h.nodes[id]?) : g = h := by
  obtain ⟨g⟩ := g
  obtain ⟨h⟩ := h
  exact congrArg ModuleGraph.mk (ExtTreeMap.ext_getElem? H)

/-- The graph of a table of modules and a table of edges by source and target.
The edges of a source that is no module are left out. -/
def assemble (modules : ExtTreeMap ModuleId Module) (edges : ExtTreeMap ModuleId EdgeMap) :
    ModuleGraph :=
  ⟨modules.map fun id m => ⟨m, edges.getD id ∅⟩⟩

/-! ## Views -/

def contains (g : ModuleGraph) (id : ModuleId) : Bool := g.nodes.contains id

def size (g : ModuleGraph) : Nat := g.nodes.size

/-- The ids of the nodes, in order. -/
def ids (g : ModuleGraph) : List ModuleId := g.nodes.keys

def modules (g : ModuleGraph) : ExtTreeMap ModuleId Module := g.nodes.map fun _ n => n.record

/-- The edges by source and target. -/
def adjacency (g : ModuleGraph) : ExtTreeMap ModuleId EdgeMap := g.nodes.map fun _ n => n.outgoing

def module? (g : ModuleGraph) (id : ModuleId) : Option Module := (g.nodes[id]?).map (·.record)

/-- The layer of a module; what is no node has the unknown layer. -/
def layerOf (g : ModuleGraph) (id : ModuleId) : LayerName :=
  match g.module? id with
  | some m => m.layer
  | none => Layer.unknown

/-- The outgoing edges of a module by target. -/
def neighbors (g : ModuleGraph) (id : ModuleId) : EdgeMap :=
  match g.nodes[id]? with
  | some n => n.outgoing
  | none => ∅

/-- The incoming edges of a module by source. -/
def importers (g : ModuleGraph) (id : ModuleId) : EdgeMap :=
  g.nodes.filterMap fun _ n => n.outgoing[id]?

def edge? (g : ModuleGraph) (source target : ModuleId) : Option Edge :=
  (g.neighbors source)[target]?

/-- All edges in the order of source and target. -/
def edges (g : ModuleGraph) : List Edge :=
  g.nodes.toList.flatMap fun (_, n) => n.outgoing.toList.map (·.2)

def edgeCount (g : ModuleGraph) : Nat := g.edges.length

/-- Everything that some edge leads to. -/
def targets (g : ModuleGraph) : ExtTreeSet ModuleId :=
  ExtTreeSet.ofList (g.nodes.toList.flatMap fun (_, n) => n.outgoing.keys)

/-- Every id that the graph mentions, as a node or as a target. -/
def mentioned (g : ModuleGraph) : ExtTreeSet ModuleId := g.targets.insertMany g.ids

/-- The modules of the project, in order. -/
def internalModules (g : ModuleGraph) : List Module :=
  (g.nodes.toList.map fun (_, n) => n.record).filter (!·.isExternal)

/-- The packages from outside, in order. -/
def externalModules (g : ModuleGraph) : List Module :=
  (g.nodes.toList.map fun (_, n) => n.record).filter (·.isExternal)

/-- How many modules, packages and edges a graph has. -/
structure Stats where
  modules : Nat
  external : Nat
  edges : Nat
  deriving DecidableEq, Repr

def stats (g : ModuleGraph) : Stats :=
  ⟨g.internalModules.length, g.externalModules.length, g.edgeCount⟩

def Stats.toTable (s : Stats) : Table :=
  [("modules", .int s.modules), ("external_modules", .int s.external), ("edges", .int s.edges)]

/-- A one-line description. -/
def description (g : ModuleGraph) : String :=
  "ModuleGraph(modules=" ++ toString g.size ++ ", edges=" ++ toString g.edgeCount ++ ")"

/-! ## How the views agree -/

theorem edge?_eq (g : ModuleGraph) (source target : ModuleId) :
    g.edge? source target = (g.nodes[source]?).bind fun n => n.outgoing[target]? := by
  unfold edge? neighbors
  cases g.nodes[source]? <;> simp

theorem getElem?_importers (g : ModuleGraph) (source target : ModuleId) :
    (g.importers target)[source]? = g.edge? source target := by
  rw [edge?_eq, importers, ExtTreeMap.getElem?_filterMap']

theorem mem_edges_iff {g : ModuleGraph} {e : Edge} :
    e ∈ g.edges ↔ ∃ source target, g.edge? source target = some e := by
  simp only [edges, List.mem_flatMap, List.mem_map, Prod.exists, edge?_eq,
    ExtTreeMap.mem_toList_iff_getElem?_eq_some, Option.bind_eq_some_iff]
  constructor
  · rintro ⟨s, n, hn, t, e', he, rfl⟩
    exact ⟨s, t, n, hn, he⟩
  · rintro ⟨s, t, n, hn, he⟩
    exact ⟨s, n, hn, t, e, he, rfl⟩

theorem mem_targets_iff {g : ModuleGraph} {target : ModuleId} :
    target ∈ g.targets ↔ ∃ source, (g.edge? source target).isSome := by
  simp only [targets, ExtTreeSet.mem_ofList, List.contains_iff_mem, List.mem_flatMap, Prod.exists,
    ExtTreeMap.mem_toList_iff_getElem?_eq_some, ExtTreeMap.mem_keys, edge?_eq]
  constructor
  · rintro ⟨source, n, hn, ht⟩
    exact ⟨source, by simpa [hn, ← ExtTreeMap.mem_iff_isSome_getElem?] using ht⟩
  · rintro ⟨source, h⟩
    cases hn : g.nodes[source]? with
    | none => simp [hn] at h
    | some n =>
        rw [hn, Option.bind_some, ← ExtTreeMap.mem_iff_isSome_getElem?] at h
        exact ⟨source, n, hn, h⟩

theorem mem_mentioned_iff {g : ModuleGraph} {id : ModuleId} :
    id ∈ g.mentioned ↔ g.contains id = true ∨ ∃ source, (g.edge? source id).isSome := by
  rw [mentioned, ExtTreeSet.mem_insertMany_list, mem_targets_iff, List.contains_iff_mem, ids,
    ExtTreeMap.mem_keys, contains, ExtTreeMap.contains_iff_mem, or_comm]

end ModuleGraph

end LayerLint
