import LayerLint.Graph.Builder

/-!
# Changing one file of a graph

When one file changes, only its own record and its outgoing edges are worked
out again; the edges of all other files stay as they are.  Packages that no
edge leads to any more are dropped.  A new file does not redirect the imports
of others, for which the graph has to be built again from all descriptors.
-/

namespace LayerLint

namespace ModuleGraph

/-- The graph without the packages that no edge leads to. -/
def prune (g : ModuleGraph) : ModuleGraph :=
  let targets := g.targets
  ⟨g.nodes.filter fun id n => !n.record.isExternal || targets.contains id⟩

/-- The graph with a file as it was surveyed anew. -/
def replace (g : ModuleGraph) (s : Surveyed) : ModuleGraph :=
  ((g.setModule s.record).takeIn s).prune

/-- The graph without a module and the edges at it. -/
def without (g : ModuleGraph) (id : ModuleId) : ModuleGraph :=
  ⟨(g.nodes.erase id).map fun _ n => { n with outgoing := n.outgoing.erase id }⟩

end ModuleGraph

namespace Builder

/-- A file against the files of a graph and itself. -/
def resurvey (b : Builder) (g : ModuleGraph) (id : ModuleId) (d : Descriptor) : Surveyed :=
  let known := g.internalModules.map (·.id)
  let known := if g.contains id then known else known ++ [id]
  b.survey (Import.Resolver.ofFiles known b.packageNames) id d

/-- The fault of a path value that names no file: it is a blank text, or no text at all.
-/
def pathFault : Value → Fault
  | .str s => .graph (Text.quote s) "descriptor has no usable path"
  | other => .noOperation other.fullKindName "strip"

/-- A path value taken as a file's id. -/
def idOf (path : Value) : Except Fault ModuleId :=
  match idOfPath? path with
  | some id => .ok id
  | none => .error (pathFault path)

/-- The descriptor in a submission with its id. -/
def unitOf (s : Submission) : Except Fault (ModuleId × Descriptor) :=
  match s with
  | .descriptor d => (idOf d.path).map fun id => (id, d)
  | .other v => .error (.noOperation v.fullKindName "path")
  | .nameless _ refusal => .error refusal

/-- The graph after a change of one file, and what was left out of that file.
A file whose own id looks like a package's, and that nothing imports, is
dropped with the packages and cannot be counted. -/
def update (b : Builder) (g : ModuleGraph) (s : Submission) :
    Except Fault (ModuleGraph × List String) := do
  let (id, d) ← unitOf s
  let found := b.resurvey g id d
  let after := g.replace found
  if after.contains id then
    return (after, found.skips.map Skip.text)
  else
    throw (.noKey id)

/-- The graph after a file was deleted. -/
def remove (g : ModuleGraph) (path : Value) : Except Fault ModuleGraph :=
  match path with
  | .str s =>
    let id := Path.canonical s
    if g.contains id then .ok (g.without id).prune
    else .error (.graph id "module is not part of the graph")
  | other => .error (.noOperation other.fullKindName "strip")

end Builder

end LayerLint
