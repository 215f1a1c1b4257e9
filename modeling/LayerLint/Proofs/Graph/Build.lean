import LayerLint.Proofs.Graph.Project
import LayerLint.Proofs.Graph.Stages

/-!
# What a built graph shows

A graph *depicts* a project when it has a node for every file, with the edges
that the file's records make, a node for every package that some import could
not be resolved past, and no other node.  A project has one such graph, and
building yields it.

The stages at which edges are dropped keep the first one of each file to a
target.  That is why the node of a file depends on that file's records and on
the set of files alone.

## Main results

* `Depicts.unique`: a project is depicted by one graph.
* `depicts_build`: building depicts the project that the submissions declare.
-/

namespace LayerLint

open Std (ExtTreeMap ExtTreeSet)

namespace Builder

/-! ## Graphs that depict a project -/

/-- The resolver for the files of a project. -/
def resolver (b : Builder) (p : Project) : Import.Resolver := .ofFiles p.keys b.packageNames

/-- Some import of a file of the project resolves to no file and comes from the package.
-/
def Needs (b : Builder) (p : Project) (id : ModuleId) : Prop :=
  ∃ (m : ModuleId) (d : Descriptor), p[m]? = some d ∧
    ModuleGraph.LeadsTo (b.survey (b.resolver p) m d).links id

/-- The graph has the files of the project, the packages that they need, and nothing
else. -/
structure Depicts (b : Builder) (p : Project) (g : ModuleGraph) : Prop where
  files : ∀ (id : ModuleId) (d : Descriptor), p[id]? = some d →
    g.nodes[id]? = some (ModuleGraph.fileNode (b.survey (b.resolver p) id d))
  packages : ∀ (id : ModuleId) (n : Node), id ∉ p →
    (g.nodes[id]? = some n ↔ b.Needs p id ∧ n = ModuleGraph.packageNode id)

/-- A project is depicted by one graph. -/
theorem Depicts.unique {b : Builder} {p : Project} {g h : ModuleGraph} (hg : Depicts b p g)
    (hh : Depicts b p h) : g = h := by
  refine ModuleGraph.ext fun id => ?_
  by_cases hid : id ∈ p
  · obtain ⟨d, hd⟩ := Tables.exists_getElem? hid
    rw [hg.files id d hd, hh.files id d hd]
  · refine Option.ext fun n => ?_
    rw [hg.packages id n hid, hh.packages id n hid]

@[simp]
theorem survey_record_id (b : Builder) (r : Import.Resolver) (id : ModuleId) (d : Descriptor) :
    (b.survey r id d).record.id = id := by
  rw [survey_eq]
  rfl

/-- The resolver of all submissions is that of the project they declare. -/
theorem ofFiles_unitsOf (b : Builder) (ss : List Submission) :
    Import.Resolver.ofFiles ((unitsOf ss).map (·.1)) b.packageNames =
      b.resolver (.ofSubmissions ss) := by
  refine Import.Resolver.ofFiles_congr fun id => ?_
  rw [ExtTreeMap.mem_keys, Project.mem_ofSubmissions]

/-- What the survey of all submissions finds. -/
theorem surveyAll_eq (b : Builder) (ss : List Submission) :
    b.surveyAll ss =
      ⟨(unitsOf ss).map fun u => b.survey (b.resolver (.ofSubmissions ss)) u.1 u.2,
        refusalsOf ss ++ (unitsOf ss).flatMap fun u => u.2.omissions u.1⟩ := by
  have hskips : ∀ u : ModuleId × Descriptor,
      (b.survey (b.resolver (.ofSubmissions ss)) u.1 u.2).skips = u.2.omissions u.1 := by
    intro u
    rw [survey_eq]
  unfold surveyAll
  rw [selection_eq]
  dsimp only
  rw [ofFiles_unitsOf, List.flatMap_map]
  simp only [hskips]

/-- Building depicts the project that the submissions declare. -/
theorem depicts_build (b : Builder) (ss : List Submission) :
    Depicts b (.ofSubmissions ss) (b.build ss) := by
  have hids : (b.surveyAll ss).files.map (·.record.id) = (unitsOf ss).map (·.1) := by
    rw [surveyAll_eq, List.map_map]
    simp [Function.comp_def]
  have hnodup : ((b.surveyAll ss).files.map (·.record.id)).Nodup := hids ▸ nodup_unitsOf ss
  have hbare : ∀ s ∈ (b.surveyAll ss).files,
      (b.surveyAll ss).bare.nodes[s.record.id]? = some ⟨s.record, ∅⟩ := fun s hs =>
    ModuleGraph.getElem?_foldl_setModule_of_mem (g := .empty) hnodup hs
  have hleads : ∀ id, ModuleGraph.LeadsTo ((b.surveyAll ss).files.flatMap (·.links)) id ↔
      b.Needs (.ofSubmissions ss) id := by
    intro id
    simp only [ModuleGraph.LeadsTo, surveyAll_eq, Needs, List.mem_flatMap,
      List.mem_map, Prod.exists, Project.getElem?_ofSubmissions]
    constructor
    · rintro ⟨l, ⟨s, ⟨m, d, hmem, rfl⟩, hl⟩, hlead⟩
      exact ⟨m, d, hmem, l, hl, hlead⟩
    · rintro ⟨m, d, hmem, l, hl, hlead⟩
      exact ⟨l, ⟨_, ⟨m, d, hmem, rfl⟩, hl⟩, hlead⟩
  refine ⟨?_, ?_⟩
  · intro id d hd
    have hmem : b.survey (b.resolver (.ofSubmissions ss)) id d ∈ (b.surveyAll ss).files := by
      rw [surveyAll_eq]
      exact List.mem_map.2 ⟨(id, d), Project.getElem?_ofSubmissions.1 hd, rfl⟩
    have hnode := ModuleGraph.getElem?_foldl_takeIn_of_mem hnodup hbare hmem
    rwa [survey_record_id] at hnode
  · intro id n hid
    have hout : id ∉ (b.surveyAll ss).files.map (·.record.id) := by
      rw [hids]
      exact mt Project.mem_ofSubmissions.2 hid
    have hnone : (b.surveyAll ss).bare.nodes[id]? = none := by
      rw [Survey.bare, ModuleGraph.getElem?_foldl_setModule_of_not_mem hout]
      exact ExtTreeMap.getElem?_empty
    rw [build, Survey.graph, ModuleGraph.getElem?_foldl_takeIn_of_not_mem hnodup hbare hout,
      hnone, Option.none_or, Option.ite_none_right_eq_some, Option.some.injEq, hleads,
      eq_comm (a := n)]

/-! ## What a depicting graph shows -/

section Depicting

variable {b : Builder} {p : Project} {g : ModuleGraph}

theorem leadsTo_survey_iff {r : Import.Resolver} {m id : ModuleId} {d : Descriptor} :
    ModuleGraph.LeadsTo (b.survey r m d).links id ↔
      ∃ x ∈ d.records, r.resolve? x.1 m = none ∧ Import.externalId x.1 = id := by
  have hlink : ∀ x : String × Location,
      ((linkOf r m x.1 x.2).resolved = false ∧ (linkOf r m x.1 x.2).edge.target = id) ↔
        r.resolve? x.1 m = none ∧ Import.externalId x.1 = id := by
    intro x
    rw [linkOf_eq, Import.Resolver.targetOf]
    cases r.resolve? x.1 m <;> simp
  rw [survey_eq, ModuleGraph.LeadsTo]
  simp only [List.mem_map]
  constructor
  · rintro ⟨l, ⟨x, hx, rfl⟩, hl⟩
    exact ⟨x, hx, (hlink x).1 hl⟩
  · rintro ⟨x, hx, hl⟩
    exact ⟨linkOf r m x.1 x.2, ⟨x, hx, rfl⟩, (hlink x).2 hl⟩

theorem Depicts.contains_iff (h : Depicts b p g) {id : ModuleId} :
    g.contains id = true ↔ id ∈ p ∨ b.Needs p id := by
  rw [ModuleGraph.contains, ExtTreeMap.contains_iff_mem, ExtTreeMap.mem_iff_isSome_getElem?,
    Option.isSome_iff_exists]
  by_cases hid : id ∈ p
  · obtain ⟨d, hd⟩ := Tables.exists_getElem? hid
    simp [h.files id d hd, hid]
  · simp [h.packages id _ hid, hid]

/-- The edges of a file's node: of the records with one target the first. -/
theorem getElem?_fileNode_outgoing {r : Import.Resolver} {m t : ModuleId} {d : Descriptor}
    {e : Edge} : (ModuleGraph.fileNode (b.survey r m d)).outgoing[t]? = some e ↔
      ∃ x, d.records.find? (fun x => r.targetOf m x.1 == t) = some x ∧ e = ⟨m, t, x.2, x.1⟩ := by
  rw [ModuleGraph.fileNode, getElem?_edgeMap, survey_eq, List.map_map, List.find?_map,
    Option.map_eq_some_iff]
  simp only [Function.comp_def, linkOf_eq]
  constructor
  · rintro ⟨x, hx, rfl⟩
    have ht : r.targetOf m x.1 = t := by simpa using List.find?_some hx
    exact ⟨x, hx, by rw [ht]⟩
  · rintro ⟨x, hx, rfl⟩
    have ht : r.targetOf m x.1 = t := by simpa using List.find?_some hx
    exact ⟨x, hx, by rw [ht]⟩

theorem Depicts.edge?_of_file (h : Depicts b p g) {m : ModuleId} {d : Descriptor}
    (hd : p[m]? = some d) (t : ModuleId) :
    g.edge? m t = (ModuleGraph.fileNode (b.survey (b.resolver p) m d)).outgoing[t]? := by
  rw [ModuleGraph.edge?_eq, h.files m d hd, Option.bind_some]

theorem Depicts.edge?_of_not_mem (h : Depicts b p g) {m : ModuleId} (hm : m ∉ p)
    (t : ModuleId) : g.edge? m t = none := by
  rw [ModuleGraph.edge?_eq]
  cases hn : g.nodes[m]? with
  | none => rfl
  | some n =>
      rw [((h.packages m n hm).1 hn).2, Option.bind_some]
      exact ExtTreeMap.getElem?_empty

theorem Depicts.edge?_eq_some_iff (h : Depicts b p g) {m t : ModuleId} {e : Edge} :
    g.edge? m t = some e ↔ ∃ d, p[m]? = some d ∧
      ∃ x, d.records.find? (fun x => (b.resolver p).targetOf m x.1 == t) = some x ∧
        e = ⟨m, t, x.2, x.1⟩ := by
  by_cases hm : m ∈ p
  · obtain ⟨d, hd⟩ := Tables.exists_getElem? hm
    rw [h.edge?_of_file hd, getElem?_fileNode_outgoing]
    simp [hd]
  · rw [h.edge?_of_not_mem hm, ExtTreeMap.getElem?_eq_none hm]
    simp

end Depicting

end Builder

end LayerLint
