import LayerLint.Graph.Incremental
import LayerLint.Proofs.Tables

/-!
# The stages of a merge

Two stages may drop an edge.  A file hands on one edge for every target, the
first in import order; and the merge adds an edge only when the file's node has
none to that target.  Packages pass two stages of the same kind, with links of
their own.

At the second stage the node of a file has no edges yet, so nothing is dropped
there, and what the first stage drops does not come up later either.  Hence the
two stages together do what one look at all links of a file would do: of the
links to one target the first becomes the edge, and every package that some link
leads to has a node.

## Main results

* `find?_firstLinks`: the first stage keeps the first link to every target.
* `takeIn_setModule`: taking in a file anew sets its node and adds its packages.
* `getElem?_foldl_takeIn_of_mem`, `getElem?_foldl_takeIn_of_not_mem`: the nodes
  after all files have been taken in.
-/

namespace LayerLint

open Std (ExtTreeMap ExtTreeSet)

/-! ## First links -/

section FirstLinks

variable {seen : ExtTreeSet ModuleId} {links : List Link} {l : Link} {t : ModuleId}

theorem mem_of_mem_firstLinks (h : l ∈ firstLinks seen links) : l ∈ links := by
  induction links generalizing seen with
  | nil => exact h
  | cons first rest ih =>
      rw [firstLinks] at h
      split at h
      · exact List.mem_cons_of_mem _ (ih h)
      · rcases List.mem_cons.1 h with rfl | h
        · exact List.mem_cons_self
        · exact List.mem_cons_of_mem _ (ih h)

/-- The first link to a target is kept, unless the target was seen before. -/
theorem find?_firstLinks (ht : t ∉ seen) :
    (firstLinks seen links).find? (·.edge.target == t) =
      links.find? (·.edge.target == t) := by
  induction links generalizing seen with
  | nil => rfl
  | cons first rest ih =>
      rw [firstLinks, List.find?_cons]
      by_cases hfirst : first.edge.target = t
      · have hnew : ¬seen.contains first.edge.target = true := by
          rwa [ExtTreeSet.contains_iff_mem, hfirst]
        rw [if_neg hnew, List.find?_cons, beq_iff_eq.2 hfirst]
      · rw [beq_eq_false_iff_ne.2 hfirst]
        split
        · exact ih ht
        · rw [List.find?_cons, beq_eq_false_iff_ne.2 hfirst]
          refine ih ?_
          rw [ExtTreeSet.mem_insert, Std.LawfulEqCmp.compare_eq_iff_eq]
          exact not_or.2 ⟨hfirst, ht⟩

theorem exists_mem_firstLinks_iff :
    (∃ l ∈ firstLinks ∅ links, l.edge.target = t) ↔ ∃ l ∈ links, l.edge.target = t := by
  have hfind : (firstLinks ∅ links).find? (·.edge.target == t) =
      links.find? (·.edge.target == t) := find?_firstLinks ExtTreeSet.not_mem_empty
  have hsome := congrArg Option.isSome hfind
  simpa using Bool.eq_iff_iff.1 hsome

end FirstLinks

/-- Nothing is lost for a map of all links by handing on the first ones only. -/
theorem Surveyed.edgeMap_edges (s : Surveyed) :
    edgeMap s.edges = edgeMap (s.links.map (·.edge)) := by
  refine ExtTreeMap.ext_getElem? fun target => ?_
  rw [getElem?_edgeMap, getElem?_edgeMap, edges, List.find?_map, List.find?_map]
  exact congrArg _ (find?_firstLinks ExtTreeSet.not_mem_empty)

namespace ModuleGraph

variable {g : ModuleGraph} {s : Surveyed} {id : ModuleId}

/-! ## Packages -/

/-- Some of the links leads past all files to the package. -/
def LeadsTo (links : List Link) (id : ModuleId) : Prop :=
  ∃ l ∈ links, l.resolved = false ∧ l.edge.target = id

instance (links : List Link) (id : ModuleId) : Decidable (LeadsTo links id) :=
  inferInstanceAs (Decidable (∃ l ∈ links, l.resolved = false ∧ l.edge.target = id))

/-- The packages that a file hands on are those that its links lead to. -/
theorem leadsTo_packages_iff : LeadsTo s.packages id ↔ LeadsTo s.links id := by
  have hunresolved : ∀ l, l ∈ s.links.filter (fun l => !l.resolved) ↔
      l ∈ s.links ∧ l.resolved = false := by
    simp
  constructor
  · rintro ⟨l, hl, hresolved, htarget⟩
    exact ⟨l, ((hunresolved l).1 (mem_of_mem_firstLinks hl)).1, hresolved, htarget⟩
  · rintro ⟨l, hl, hresolved, htarget⟩
    obtain ⟨first, hfirst, htarget⟩ :=
      exists_mem_firstLinks_iff.2 ⟨l, (hunresolved l).2 ⟨hl, hresolved⟩, htarget⟩
    exact ⟨first, hfirst, ((hunresolved first).1 (mem_of_mem_firstLinks hfirst)).2, htarget⟩

/-- Adding packages changes no node that is there. -/
theorem getElem?_addPackages (g : ModuleGraph) (links : List Link) (id : ModuleId) :
    (g.addPackages links).nodes[id]? =
      (g.nodes[id]?).or (if LeadsTo links id then some (packageNode id) else none) := by
  unfold addPackages
  induction links generalizing g with
  | nil => simp [LeadsTo]
  | cons l rest ih =>
      have hcons : LeadsTo (l :: rest) id ↔
          l.resolved = false ∧ l.edge.target = id ∨ LeadsTo rest id := by
        simp [LeadsTo, or_and_right, exists_or]
      rw [List.foldl_cons, ih]
      by_cases hl : l.resolved = true
      · simp [hcons, hl]
      · rw [if_neg hl]
        dsimp only
        rw [Tables.getElem?_insertIfNew, Option.or_assoc]
        by_cases ht : l.edge.target = id
        · subst ht
          simp [hcons, hl]
        · simp [hcons, ht]

/-! ## One file -/

/-- The node of a surveyed file. -/
def fileNode (s : Surveyed) : Node := ⟨s.record, edgeMap (s.links.map (·.edge))⟩

/-- A file with its edges takes the place of whatever stood under its id. -/
def setFile (g : ModuleGraph) (s : Surveyed) : ModuleGraph :=
  ⟨g.nodes.insert s.record.id (fileNode s)⟩

theorem getElem?_setFile (g : ModuleGraph) (s : Surveyed) (id : ModuleId) :
    (g.setFile s).nodes[id]? = if s.record.id = id then some (fileNode s) else g.nodes[id]? :=
  Tables.getElem?_insert

theorem getElem?_setModule (g : ModuleGraph) (m : Module) (id : ModuleId) :
    (g.setModule m).nodes[id]? = if m.id = id then some ⟨m, ∅⟩ else g.nodes[id]? :=
  Tables.getElem?_insert

/-- A file whose node has no edges gets all of its own, and its packages get nodes. -/
theorem getElem?_takeIn (h : g.nodes[s.record.id]? = some ⟨s.record, ∅⟩) (id : ModuleId) :
    (g.takeIn s).nodes[id]? =
      if s.record.id = id then some (fileNode s)
      else (g.nodes[id]?).or (if LeadsTo s.links id then some (packageNode id) else none) := by
  rw [takeIn, ExtTreeMap.getElem?_modify, getElem?_addPackages, getElem?_addPackages, h]
  simp only [Std.LawfulEqCmp.compare_eq_iff_eq, leadsTo_packages_iff, Option.some_or,
    Option.map_some]
  rw [fileNode, ← s.edgeMap_edges]
  rfl

/-- Taking in a file anew sets its node and adds its packages. -/
theorem takeIn_setModule (g : ModuleGraph) (s : Surveyed) :
    (g.setModule s.record).takeIn s = (g.setFile s).addPackages s.links := by
  refine ModuleGraph.ext fun id => ?_
  rw [getElem?_takeIn (by rw [getElem?_setModule, if_pos rfl]), getElem?_addPackages,
    getElem?_setModule, getElem?_setFile]
  split
  · rw [Option.some_or]
  · rfl

theorem replace_eq (g : ModuleGraph) (s : Surveyed) :
    g.replace s = ((g.setFile s).addPackages s.links).prune := by
  rw [replace, takeIn_setModule]

/-! ## All files -/

theorem getElem?_foldl_setModule_of_not_mem {files : List Surveyed}
    (hid : id ∉ files.map (·.record.id)) :
    (files.foldl (fun g f => g.setModule f.record) g).nodes[id]? = g.nodes[id]? := by
  induction files generalizing g with
  | nil => rfl
  | cons f rest ih =>
      rw [List.map_cons, List.mem_cons, not_or] at hid
      rw [List.foldl_cons, ih hid.2, getElem?_setModule, if_neg (Ne.symm hid.1)]

/-- Of files with different ids each keeps the node that it was set to. -/
theorem getElem?_foldl_setModule_of_mem {files : List Surveyed}
    (hnodup : (files.map (·.record.id)).Nodup) (hs : s ∈ files) :
    (files.foldl (fun g f => g.setModule f.record) g).nodes[s.record.id]? =
      some ⟨s.record, ∅⟩ := by
  induction files generalizing g with
  | nil => exact absurd hs List.not_mem_nil
  | cons f rest ih =>
      rw [List.map_cons, List.nodup_cons] at hnodup
      rw [List.foldl_cons]
      rcases List.mem_cons.1 hs with rfl | hs
      · rw [getElem?_foldl_setModule_of_not_mem hnodup.1, getElem?_setModule, if_pos rfl]
      · exact ih hnodup.2 hs

/-- Taking in a file leaves the nodes of the other files as they are. -/
theorem getElem?_takeIn_of_ne {n : Node} (h : g.nodes[s.record.id]? = some ⟨s.record, ∅⟩)
    (hne : s.record.id ≠ id) (hn : g.nodes[id]? = some n) :
    (g.takeIn s).nodes[id]? = some n := by
  rw [getElem?_takeIn h, if_neg hne, hn, Option.some_or]

/-- So files that were set and not taken in yet are there as they were set. -/
theorem getElem?_takeIn_of_mem {files : List Surveyed}
    (h : g.nodes[s.record.id]? = some ⟨s.record, ∅⟩) (hs : s.record.id ∉ files.map (·.record.id))
    (hfiles : ∀ f ∈ files, g.nodes[f.record.id]? = some ⟨f.record, ∅⟩) :
    ∀ f ∈ files, (g.takeIn s).nodes[f.record.id]? = some ⟨f.record, ∅⟩ := by
  intro f hf
  have hne : s.record.id ≠ f.record.id := fun heq => hs (heq ▸ List.mem_map_of_mem hf)
  exact getElem?_takeIn_of_ne h hne (hfiles f hf)

theorem getElem?_foldl_takeIn_of_not_mem {files : List Surveyed}
    (hnodup : (files.map (·.record.id)).Nodup)
    (hfiles : ∀ s ∈ files, g.nodes[s.record.id]? = some ⟨s.record, ∅⟩)
    (hid : id ∉ files.map (·.record.id)) :
    (files.foldl takeIn g).nodes[id]? =
      (g.nodes[id]?).or
        (if LeadsTo (files.flatMap (·.links)) id then some (packageNode id) else none) := by
  induction files generalizing g with
  | nil => simp [LeadsTo]
  | cons f rest ih =>
      rw [List.map_cons, List.nodup_cons] at hnodup
      rw [List.map_cons, List.mem_cons, not_or] at hid
      obtain ⟨hf, hrest⟩ := List.forall_mem_cons.1 hfiles
      have hnext := getElem?_takeIn_of_mem hf hnodup.1 hrest
      have hleads : LeadsTo ((f :: rest).flatMap (·.links)) id ↔
          LeadsTo f.links id ∨ LeadsTo (rest.flatMap (·.links)) id := by
        simp only [LeadsTo, List.flatMap_cons, List.mem_append, or_and_right, exists_or]
      rw [List.foldl_cons, ih hnodup.2 hnext hid.2, getElem?_takeIn hf, if_neg (Ne.symm hid.1),
        Option.or_assoc]
      congr 1
      by_cases hlead : LeadsTo f.links id
      · rw [if_pos hlead, if_pos (hleads.2 (Or.inl hlead)), Option.some_or]
      · simp only [hleads, hlead, if_false, false_or, Option.none_or]

/-- After all files have been taken in each has the node of a surveyed file. -/
theorem getElem?_foldl_takeIn_of_mem {files : List Surveyed}
    (hnodup : (files.map (·.record.id)).Nodup)
    (hfiles : ∀ s ∈ files, g.nodes[s.record.id]? = some ⟨s.record, ∅⟩) (hs : s ∈ files) :
    (files.foldl takeIn g).nodes[s.record.id]? = some (fileNode s) := by
  induction files generalizing g with
  | nil => exact absurd hs List.not_mem_nil
  | cons f rest ih =>
      rw [List.map_cons, List.nodup_cons] at hnodup
      obtain ⟨hf, hrest⟩ := List.forall_mem_cons.1 hfiles
      have hnext := getElem?_takeIn_of_mem hf hnodup.1 hrest
      rw [List.foldl_cons]
      rcases List.mem_cons.1 hs with rfl | hs
      · rw [getElem?_foldl_takeIn_of_not_mem hnodup.2 hnext hnodup.1, getElem?_takeIn hf,
          if_pos rfl, Option.some_or]
      · exact ih hnodup.2 hnext hs

end ModuleGraph

end LayerLint
