import LayerLint.Graph.Basic
import LayerLint.Json.Printer
import LayerLint.Output.Overview

/-!
# Views of a graph

The module graph itself, without any check: as a document for other programs,
or as tables of its layers and, if wanted, of its modules.
-/

namespace LayerLint.ModuleGraph

open Terminal (Column Grid)

/-! ## As a document -/

def moduleValue (g : ModuleGraph) (m : Module) : Value :=
  .dict [
    ("id", .str m.id),
    ("layer", .str m.layer),
    ("external", .bool m.isExternal),
    ("imports", .list ((g.neighbors m.id).keys.map .str)),
    ("imported_by", .list ((g.importers m.id).keys.map .str))]

def edgeValue (e : Edge) : Value :=
  .dict [
    ("source", .str e.source),
    ("target", .str e.target),
    ("location", e.location.toValue),
    ("import", .str e.written)]

def toValue (g : ModuleGraph) : Value :=
  .dict [
    ("summary", .dict g.stats.toTable),
    ("modules", .list (g.modules.toList.map fun (_, m) => g.moduleValue m)),
    ("edges", .list (g.edges.map edgeValue))]

/-- The text of the document, in ASCII. -/
def document (g : ModuleGraph) : String := Json.pretty true g.toValue

/-! ## As tables -/

/-- The layers of the project's modules in order, each with the number of its modules. -/
def layerCounts (g : ModuleGraph) : List (LayerName × Nat) :=
  let layers := g.internalModules.map (·.layer)
  ((layers.mergeSort fun a b => (compare a b).isLE).eraseDups).map fun layer =>
    (layer, layers.count layer)

def layerGrid (g : ModuleGraph) : Grid where
  columns := [{ heading := "Layer" }, { heading := "Modules", atRight := true }]
  rows := g.layerCounts.map fun (layer, n) => [Terminal.shown layer, toString n]

def moduleGrid (g : ModuleGraph) : Grid where
  columns :=
    [{ heading := "Module" }, { heading := "Layer" }, { heading := "Imports", atRight := true },
      { heading := "Imported by", atRight := true }]
  rows := g.internalModules.map fun m =>
    [Terminal.shown m.id, Terminal.shown m.layer, toString (g.neighbors m.id).size,
      toString (g.importers m.id).size]

/-- Tables of the layers and, with `everyModule`, of the modules. -/
def overview (g : ModuleGraph) (everyModule : Bool) : Printout :=
  .ofLines [Overview.statsLine "Module graph" g.stats, ""] ++
    .ofTable (g.layerGrid.titled? "Layers") ++
    if everyModule then .ofTable (g.moduleGrid.titled? "Modules") else .ofLines []

end LayerLint.ModuleGraph
