import Mathlib.Algebra.GroupWithZero.Nat
import LayerLint.Proofs.Cycle.Arcs
import LayerLint.Proofs.Tables

/-!
# The views of a graph

A graph is made from a table of modules and a table of edges by source and
target.  The tables need not fit together: edges may lead from or to what is no
module, and a record may say another id than the key that it stands under.  What
is said here of ids holds of the keys, whatever the records and the edges say.

The views of a graph are read off its nodes.  `EdgeIndex` comes to them on
another way.  It goes through the modules once, in any order, and enters the
edges of each under their source and under their targets; so it counts edges
without listing them, and has keys that are no modules among the targets.  Both
ways lead to the same edges and the same numbers.

## Main results

* `edge?_assemble`: the edges of a graph are those of its modules in the table.
* `assemble_modules_adjacency`: a graph is made again from its own modules and edges.
* `showsInOrder_edges`: the edges are listed once each, in the order of their keys.
* `EdgeIndex.bySource_fill`, `EdgeIndex.getD_byTarget_fill`, `EdgeIndex.stats_fill`: what one pass
  over the modules enters and counts.
* `assemble_views`: how the views of a graph agree.
-/

namespace LayerLint

open Std (ExtTreeMap)

/-! ## Lists in the order of keys -/

/-- The list shows what is stored under the keys, once for each key under which there is
something, and in the order of the keys. -/
def ShowsInOrder {κ α : Type} (lt : κ → κ → Prop) (stored : κ → Option α) (shown : List α) : Prop :=
  ∃ keys : List κ, keys.Pairwise lt ∧ (∀ k, k ∈ keys ↔ (stored k).isSome) ∧
    keys.map stored = shown.map some

/-- The values of a table that pass a test, in the order of the table. -/
theorem showsInOrder_filter {α : Type} (m : ExtTreeMap String α) (p : α → Bool) :
    ShowsInOrder (· < ·) (fun k : String => (m[k]?).filter p) ((m.toList.map (·.2)).filter p) := by
  refine ⟨(m.toList.filter (p ·.2)).map (·.1), ?_, fun k => ?_, ?_⟩
  · rw [List.pairwise_map]
    exact (m.ordered_keys_toList.filter _).imp compare_lt_iff_lt.1
  · simp only [List.mem_map, List.mem_filter, Prod.exists, exists_and_right, exists_eq_right,
      ExtTreeMap.mem_toList_iff_getElem?_eq_some, Option.isSome_iff_exists,
      Option.filter_eq_some_iff]
  · rw [List.filter_map, List.map_map, List.map_map]
    refine List.map_congr_left fun u hu => ?_
    obtain ⟨hmem, hp⟩ := List.mem_filter.1 hu
    exact Option.filter_eq_some_iff.2 ⟨ExtTreeMap.mem_toList_iff_getElem?_eq_some.1 hmem, hp⟩

/-- If the keys can be read off what is shown, this is in the order of the keys. -/
theorem ShowsInOrder.pairwise {κ α : Type} {lt : κ → κ → Prop} {stored : κ → Option α}
    {shown : List α} (h : ShowsInOrder lt stored shown) {key : α → κ}
    (hkey : ∀ k v, stored k = some v → key v = k) :
    shown.Pairwise fun v w => lt (key v) (key w) := by
  obtain ⟨keys, hordered, -, hmap⟩ := h
  have hlength : keys.length = shown.length := by simpa using congrArg List.length hmap
  have hkeys : shown.map key = keys := by
    refine List.ext_getElem (by simpa using hlength.symm) fun i hi hi' => ?_
    have hshown : i < shown.length := by simpa using hi
    rw [List.getElem_map]
    refine hkey _ _ ?_
    have hget := congrArg (·[i]?) hmap
    simpa [hi', hshown] using hget
  rw [← hkeys] at hordered
  exact List.pairwise_map.1 hordered

namespace ModuleGraph

variable {modules : ExtTreeMap ModuleId Module} {edges : ExtTreeMap ModuleId EdgeMap}
  {source target id : ModuleId}

/-! ## A graph of two tables -/

theorem getElem?_nodes_assemble : (assemble modules edges).nodes[id]? =
    (modules[id]?).map fun m => ⟨m, edges.getD id ∅⟩ :=
  ExtTreeMap.getElem?_map

theorem modules_assemble : (assemble modules edges).modules = modules := by
  refine ExtTreeMap.ext_getElem? fun id => ?_
  rw [ModuleGraph.modules, ExtTreeMap.getElem?_map, getElem?_nodes_assemble, Option.map_map]
  exact Option.map_id'

theorem getElem?_adjacency_assemble : (assemble modules edges).adjacency[id]? =
    if id ∈ modules then some (edges.getD id ∅) else none := by
  rw [adjacency, ExtTreeMap.getElem?_map, getElem?_nodes_assemble]
  by_cases hid : id ∈ modules
  · obtain ⟨m, hm⟩ := Tables.exists_getElem? hid
    rw [hm, if_pos hid]
    rfl
  · rw [ExtTreeMap.getElem?_eq_none hid, if_neg hid]
    rfl

theorem getD_adjacency (g : ModuleGraph) (id : ModuleId) :
    g.adjacency.getD id ∅ = g.neighbors id := by
  rw [ExtTreeMap.getD_eq_getD_getElem?, adjacency, ExtTreeMap.getElem?_map, neighbors]
  cases g.nodes[id]? <;> rfl

/-- What is no module has no edges. -/
theorem neighbors_assemble : (assemble modules edges).neighbors source =
    if source ∈ modules then edges.getD source ∅ else ∅ := by
  rw [← getD_adjacency, ExtTreeMap.getD_eq_getD_getElem?, getElem?_adjacency_assemble]
  by_cases hs : source ∈ modules
  · rw [if_pos hs, if_pos hs, Option.getD_some]
  · rw [if_neg hs, if_neg hs, Option.getD_none]

theorem edge?_assemble : (assemble modules edges).edge? source target =
    if source ∈ modules then (edges.getD source ∅)[target]? else none := by
  rw [edge?, neighbors_assemble]
  by_cases hs : source ∈ modules
  · rw [if_pos hs, if_pos hs]
  · rw [if_neg hs, if_neg hs, ExtTreeMap.getElem?_empty]

/-- A graph is made again from its own modules and edges. -/
theorem assemble_modules_adjacency (g : ModuleGraph) : assemble g.modules g.adjacency = g := by
  refine ModuleGraph.ext fun id => ?_
  rw [getElem?_nodes_assemble, getD_adjacency, ModuleGraph.modules, ExtTreeMap.getElem?_map,
    neighbors]
  cases g.nodes[id]? <;> rfl

/-- Edges from what is no module make no difference. -/
theorem assemble_filter :
    assemble modules (edges.filter fun source _ => source ∈ modules) = assemble modules edges := by
  refine ModuleGraph.ext fun id => ?_
  rw [getElem?_nodes_assemble, getElem?_nodes_assemble]
  cases hm : modules[id]? with
  | none => rfl
  | some m =>
      have hid : id ∈ modules := Tables.mem_of_getElem? hm
      have hkept : (edges.filter fun source _ => source ∈ modules)[id]? = edges[id]? := by
        rw [ExtTreeMap.getElem?_filter']
        cases edges[id]? with
        | none => rfl
        | some outgoing => exact Option.filter_some_pos (decide_eq_true hid)
      rw [ExtTreeMap.getD_eq_getD_getElem?, ExtTreeMap.getD_eq_getD_getElem?, hkept]

/-! ## Listing -/

theorem pairwise_arcs (g : ModuleGraph) : g.arcs.Pairwise (Prod.Lex (· < ·) (· < ·)) := by
  rw [arcs, List.pairwise_flatMap]
  constructor
  · rintro ⟨source, n⟩ -
    rw [List.pairwise_map]
    exact n.outgoing.ordered_keys.imp fun hlt => Prod.Lex.right source (compare_lt_iff_lt.1 hlt)
  · refine g.nodes.ordered_keys_toList.imp fun hlt a ha b hb => ?_
    obtain ⟨target, -, rfl⟩ := List.mem_map.1 ha
    obtain ⟨target', -, rfl⟩ := List.mem_map.1 hb
    exact Prod.Lex.left target target' (compare_lt_iff_lt.1 hlt)

theorem map_edge?_arcs (g : ModuleGraph) :
    g.arcs.map (fun a => g.edge? a.1 a.2) = g.edges.map some := by
  rw [arcs, edges, List.map_flatMap, List.map_flatMap]
  refine List.flatMap_congr fun u hu => ?_
  obtain ⟨source, n⟩ := u
  have hn := ExtTreeMap.mem_toList_iff_getElem?_eq_some.1 hu
  dsimp only
  rw [← ExtTreeMap.map_fst_toList_eq_keys, List.map_map, List.map_map, List.map_map]
  refine List.map_congr_left fun v hv => ?_
  simpa [edge?_eq, hn] using ExtTreeMap.mem_toList_iff_getElem?_eq_some.1 hv

/-- Every edge is listed once, in the order of its source and target. -/
theorem showsInOrder_edges (g : ModuleGraph) :
    ShowsInOrder (Prod.Lex (· < ·) (· < ·)) (fun a => g.edge? a.1 a.2) g.edges :=
  ⟨g.arcs, g.pairwise_arcs, fun _ => mem_arcs_iff, g.map_edge?_arcs⟩

theorem map_record_toList (g : ModuleGraph) :
    g.nodes.toList.map (fun (_, n) => n.record) = g.modules.toList.map (·.2) := by
  rw [ModuleGraph.modules, ExtTreeMap.toList_map, List.map_map]
  rfl

/-- The modules of the project are in order. -/
theorem showsInOrder_internalModules (g : ModuleGraph) :
    ShowsInOrder (· < ·) (fun id : ModuleId => (g.modules[id]?).filter (!·.isExternal))
      g.internalModules := by
  rw [internalModules, map_record_toList]
  exact showsInOrder_filter g.modules _

/-- The packages from outside are in order. -/
theorem showsInOrder_externalModules (g : ModuleGraph) :
    ShowsInOrder (· < ·) (fun id : ModuleId => (g.modules[id]?).filter (·.isExternal))
      g.externalModules := by
  rw [externalModules, map_record_toList]
  exact showsInOrder_filter g.modules _

theorem internal_append_external_perm (g : ModuleGraph) :
    (g.internalModules ++ g.externalModules).Perm (g.modules.toList.map (·.2)) := by
  rw [internalModules, externalModules, map_record_toList]
  exact List.perm_append_comm.trans (List.filter_append_perm Module.isExternal _)

theorem length_externalModules (g : ModuleGraph) :
    g.externalModules.length = g.modules.toList.countP (·.2.isExternal) := by
  rw [externalModules, map_record_toList, ← List.countP_eq_length_filter, List.countP_map]
  rfl

/-- What is no package is a module of the project. -/
theorem length_internalModules (g : ModuleGraph) : g.internalModules.length =
    g.modules.size - g.modules.toList.countP (·.2.isExternal) := by
  have hall := g.internal_append_external_perm.length_eq
  rw [List.length_append, List.length_map, ExtTreeMap.length_toList, length_externalModules] at hall
  omega

end ModuleGraph

/-! ## One pass over the modules -/

/-- The edges of a graph, to be looked up by source and by target. -/
structure EdgeIndex where
  bySource : ExtTreeMap ModuleId EdgeMap
  byTarget : ExtTreeMap ModuleId EdgeMap

namespace EdgeIndex

/-- An edge is entered under its target, beside those that are there. -/
def enterEdge (source : ModuleId) (byTarget : ExtTreeMap ModuleId EdgeMap)
    (entry : ModuleId × Edge) : ExtTreeMap ModuleId EdgeMap :=
  byTarget.insert entry.1 ((byTarget.getD entry.1 ∅).insert source entry.2)

/-- All edges of a module are entered. -/
def enter (edges : ExtTreeMap ModuleId EdgeMap) (index : EdgeIndex) (source : ModuleId) :
    EdgeIndex :=
  let outgoing := edges.getD source ∅
  { bySource := index.bySource.insert source outgoing
    byTarget := outgoing.toList.foldl (enterEdge source) index.byTarget }

/-- The pass over the modules in some order.  Every module has its place among the
targets from the start; what is no module gets one when an edge leads to it. -/
def fill (modules : ExtTreeMap ModuleId Module) (edges : ExtTreeMap ModuleId EdgeMap)
    (order : List ModuleId) : EdgeIndex :=
  order.foldl (enter edges) ⟨∅, modules.map fun _ _ => ∅⟩

/-- How many edges were entered. -/
def count (index : EdgeIndex) : Nat := (index.bySource.toList.map (·.2.size)).sum

/-- The sizes of a graph: the packages are counted, and all other modules are the
project's. -/
def stats (modules : ExtTreeMap ModuleId Module) (index : EdgeIndex) : ModuleGraph.Stats :=
  let external := modules.toList.countP (·.2.isExternal)
  ⟨modules.size - external, external, index.count⟩

variable {modules : ExtTreeMap ModuleId Module} {edges : ExtTreeMap ModuleId EdgeMap}
  {byTarget : ExtTreeMap ModuleId EdgeMap} {index : EdgeIndex} {order : List ModuleId}
  {source target id : ModuleId}

theorem getElem?_enterEdge {entry : ModuleId × Edge} :
    ((enterEdge source byTarget entry).getD target ∅)[id]? =
      if source = id ∧ entry.1 = target then some entry.2 else (byTarget.getD target ∅)[id]? := by
  rw [enterEdge, ExtTreeMap.getD_eq_getD_getElem?, Tables.getElem?_insert]
  by_cases ht : entry.1 = target
  · rw [if_pos ht, Option.getD_some, Tables.getElem?_insert, ht]
    simp only [and_true]
  · rw [if_neg ht, if_neg (fun h => ht h.2), ExtTreeMap.getD_eq_getD_getElem?]

/-- Entering a part of the edges of a module. -/
theorem getElem?_foldl_enterEdge {outgoing : EdgeMap} (entries : List (ModuleId × Edge))
    (h : ∀ u ∈ entries, outgoing[u.1]? = some u.2) :
    ((entries.foldl (enterEdge source) byTarget).getD target ∅)[id]? =
      if source = id ∧ target ∈ entries.map Prod.fst then outgoing[target]?
      else (byTarget.getD target ∅)[id]? := by
  induction entries generalizing byTarget with
  | nil => simp
  | cons entry rest ih =>
      have hEntry := h entry List.mem_cons_self
      rw [List.foldl_cons, ih fun u hu => h u (List.mem_cons_of_mem entry hu), getElem?_enterEdge]
      by_cases ht : entry.1 = target
      · have hfirst : target ∈ (entry :: rest).map Prod.fst := ht ▸ List.mem_cons_self
        rw [ht] at hEntry
        by_cases hs : source = id
        · simp only [hs, ht, hfirst, hEntry, and_self, if_true, ite_self]
        · simp only [hs, false_and, if_false]
      · have hrest : target ∈ (entry :: rest).map Prod.fst ↔ target ∈ rest.map Prod.fst := by
          rw [List.map_cons, List.mem_cons, or_iff_right (Ne.symm ht)]
        simp only [hrest, ht, and_false, if_false]

theorem getElem?_byTarget_enter :
    ((enter edges index source).byTarget.getD target ∅)[id]? =
      if source = id then
        ((edges.getD source ∅)[target]?).or (index.byTarget.getD target ∅)[id]?
      else (index.byTarget.getD target ∅)[id]? := by
  rw [enter]
  dsimp only
  rw [getElem?_foldl_enterEdge _ fun _ => ExtTreeMap.mem_toList_iff_getElem?_eq_some.1,
    ExtTreeMap.map_fst_toList_eq_keys]
  by_cases ht : target ∈ edges.getD source ∅
  · obtain ⟨e, he⟩ := Tables.exists_getElem? ht
    simp only [ExtTreeMap.mem_keys, ht, and_true, he, Option.some_or]
  · simp only [ExtTreeMap.mem_keys, ht, and_false, if_false, ExtTreeMap.getElem?_eq_none ht,
      Option.none_or, ite_self]

/-- What a pass enters under a target, whatever was there before. -/
theorem getElem?_byTarget_foldl_enter (order : List ModuleId) (index : EdgeIndex) :
    ((order.foldl (enter edges) index).byTarget.getD target ∅)[id]? =
      if id ∈ order then ((edges.getD id ∅)[target]?).or (index.byTarget.getD target ∅)[id]?
      else (index.byTarget.getD target ∅)[id]? := by
  induction order generalizing index with
  | nil => simp
  | cons source rest ih =>
      rw [List.foldl_cons, ih, getElem?_byTarget_enter]
      simp only [List.mem_cons]
      by_cases hs : source = id
      · subst hs
        -- A module that comes up again has the same edges again.
        simp [← Option.or_assoc]
      · simp [hs, Ne.symm hs]

theorem getElem?_bySource_foldl_enter (order : List ModuleId) (index : EdgeIndex) :
    (order.foldl (enter edges) index).bySource[id]? =
      if id ∈ order then some (edges.getD id ∅) else index.bySource[id]? := by
  induction order generalizing index with
  | nil => simp
  | cons source rest ih =>
      rw [List.foldl_cons, ih, enter, Tables.getElem?_insert]
      simp only [List.mem_cons]
      by_cases hs : source = id
      · simp [hs]
      · simp [hs, Ne.symm hs]

/-! ## The pass and the views -/

section

variable (h : order.Perm modules.keys)

include h

private theorem mem_order_iff : id ∈ order ↔ id ∈ modules :=
  h.mem_iff.trans ExtTreeMap.mem_keys

/-- Under the sources stand the neighbors. -/
theorem bySource_fill :
    (fill modules edges order).bySource = (ModuleGraph.assemble modules edges).adjacency := by
  refine ExtTreeMap.ext_getElem? fun id => ?_
  rw [fill, getElem?_bySource_foldl_enter, ModuleGraph.getElem?_adjacency_assemble]
  simp only [mem_order_iff h, ExtTreeMap.getElem?_empty]

/-- Under the targets stand the importers. -/
theorem getD_byTarget_fill (target : ModuleId) :
    (fill modules edges order).byTarget.getD target ∅ =
      (ModuleGraph.assemble modules edges).importers target := by
  refine ExtTreeMap.ext_getElem? fun id => ?_
  have hnone : ((modules.map fun _ _ => (∅ : EdgeMap)).getD target ∅)[id]? = none := by
    rw [ExtTreeMap.getD_eq_getD_getElem?, ExtTreeMap.getElem?_map]
    cases modules[target]? <;> exact ExtTreeMap.getElem?_empty
  rw [fill, getElem?_byTarget_foldl_enter, ModuleGraph.getElem?_importers,
    ModuleGraph.edge?_assemble, hnone, Option.or_none]
  simp only [mem_order_iff h]

/-- The edges that were entered are as many as those that are listed. -/
theorem count_fill :
    (fill modules edges order).count = (ModuleGraph.assemble modules edges).edges.length := by
  rw [count, bySource_fill h, ModuleGraph.adjacency, ModuleGraph.edges, ExtTreeMap.toList_map,
    List.map_map, List.length_flatMap]
  simp only [List.length_map, ExtTreeMap.length_toList]
  rfl

/-- What is counted is what is listed. -/
theorem stats_fill :
    (fill modules edges order).stats modules = (ModuleGraph.assemble modules edges).stats := by
  rw [stats, count_fill h, ModuleGraph.stats, ModuleGraph.length_internalModules,
    ModuleGraph.length_externalModules, ModuleGraph.modules_assemble]
  rfl

end

end EdgeIndex

/-! ## The views agree -/

/-- **The views of a graph agree.**  Whatever the two tables are, a module has an
importer just where this one has it for a neighbor, and both see one edge, which is the
one in the table; what is no module has no edges, and the table might as well do without
them.  All stored edges are listed, once each and strictly in the order of source and
target.  So are the modules of the project and the packages, in the order of the ids
they stand under, and they share out the modules between them.  One pass over the
modules, in whatever order, enters the same neighbors and importers and counts the same
numbers.  From its own modules and edges the same graph is made again. -/
theorem ModuleGraph.assemble_views (modules : ExtTreeMap ModuleId Module)
    (edges : ExtTreeMap ModuleId EdgeMap) :
    let g := assemble modules edges
    let stored : Arc → Option Edge := fun a =>
      if a.1 ∈ modules then (edges.getD a.1 ∅)[a.2]? else none
    (∀ source target, (g.importers target)[source]? = (g.neighbors source)[target]? ∧
      (g.neighbors source)[target]? = stored (source, target)) ∧
    (∀ source, source ∉ modules →
      g.neighbors source = ∅ ∧ ∀ target, source ∉ g.importers target) ∧
    assemble modules (edges.filter fun source _ => source ∈ modules) = g ∧
    ShowsInOrder (Prod.Lex (· < ·) (· < ·)) stored g.edges ∧
    ShowsInOrder (· < ·) (fun id : ModuleId => (modules[id]?).filter (!·.isExternal))
      g.internalModules ∧
    ShowsInOrder (· < ·) (fun id : ModuleId => (modules[id]?).filter (·.isExternal))
      g.externalModules ∧
    (g.internalModules ++ g.externalModules).Perm (modules.toList.map (·.2)) ∧
    ((∀ (id : ModuleId) (m : Module), modules[id]? = some m → m.id = id) →
      g.internalModules.Pairwise (·.id < ·.id) ∧ g.externalModules.Pairwise (·.id < ·.id)) ∧
    (∀ order : List ModuleId, order.Perm modules.keys →
      let index := EdgeIndex.fill modules edges order
      index.bySource = g.adjacency ∧
      (∀ source, index.bySource.getD source ∅ = g.neighbors source) ∧
      (∀ target, index.byTarget.getD target ∅ = g.importers target) ∧
      index.count = g.edges.length ∧ index.stats modules = g.stats) ∧
    g.modules = modules ∧ assemble g.modules g.adjacency = g := by
  intro g stored
  have hedge : ∀ a : Arc, g.edge? a.1 a.2 = stored a := fun _ => edge?_assemble
  have hmodules : g.modules = modules := modules_assemble
  have hinternal := g.showsInOrder_internalModules
  have hexternal := g.showsInOrder_externalModules
  rw [hmodules] at hinternal hexternal
  refine ⟨fun source target => ⟨getElem?_importers g source target, hedge (source, target)⟩, ?_,
    assemble_filter, ?_, hinternal, hexternal, ?_, ?_, ?_, hmodules, g.assemble_modules_adjacency⟩
  · intro source hs
    have hnone : g.neighbors source = ∅ := neighbors_assemble.trans (if_neg hs)
    refine ⟨hnone, fun target hmem => ?_⟩
    obtain ⟨e, he⟩ := Tables.exists_getElem? hmem
    rw [getElem?_importers, edge?, hnone, ExtTreeMap.getElem?_empty] at he
    cases he
  · rw [← funext hedge]
    exact g.showsInOrder_edges
  · exact hmodules ▸ g.internal_append_external_perm
  · intro hids
    have hkey : ∀ (p : Module → Bool) (id : ModuleId) (m : Module),
        (modules[id]?).filter p = some m → m.id = id :=
      fun p id m hm => hids id m (Option.filter_eq_some_iff.1 hm).1
    exact ⟨hinternal.pairwise (hkey _), hexternal.pairwise (hkey _)⟩
  · intro order horder
    have hsources : (EdgeIndex.fill modules edges order).bySource = g.adjacency :=
      EdgeIndex.bySource_fill horder
    exact ⟨hsources, fun source => hsources ▸ g.getD_adjacency source,
      EdgeIndex.getD_byTarget_fill horder, EdgeIndex.count_fill horder,
      EdgeIndex.stats_fill horder⟩

/-- A target that is no module has importers and nothing else, and a source that is none
has nothing at all. -/
example :
    let row (source target : ModuleId) : ModuleId × EdgeMap :=
      let e : Edge := { source, target, location := { file := source } }
      (source, .ofList [(target, e)])
    let m : Module := { id := "a.py", layer := "domain" }
    let g := ModuleGraph.assemble (.ofList [(m.id, m)])
      (.ofList [row "a.py" "c.py", row "b.py" "a.py"])
    (g.importers "c.py").keys = ["a.py"] ∧ (g.importers "a.py").keys = [] ∧
      g.ids = ["a.py"] ∧ g.stats = ⟨1, 0, 1⟩ := by decide +kernel

end LayerLint
