import LayerLint.Graph.Incremental
import LayerLint.Proofs.Graph.Build

/-!
# Changing one file of a depicting graph

When a file of the project gets another descriptor, the set of files stays the
same, and with it what every import resolves to.  So the edges of the other
files are still right, and the node that the file gets is the one a full build
would give it.  What remains are the packages: those that the file no longer
needs go, unless another file needs them, and pruning finds out which, because
the packages that some edge leads to are exactly those that some file needs.

## Main results

* `getElem?_prune_eq_some_iff`: pruning drops the packages without importers.
* `Depicts.replace`: the changed graph depicts the changed project.
* `Depicts.update`: updating a file of the project does not fail.
-/

namespace LayerLint

open Std (ExtTreeMap ExtTreeSet)

namespace ModuleGraph

/-! ## Pruning -/

theorem getElem?_prune_eq_some_iff {g : ModuleGraph} {id : ModuleId} {n : Node} :
    g.prune.nodes[id]? = some n ↔ g.nodes[id]? = some n ∧
      (n.record.isExternal = true → ∃ source, (g.edge? source id).isSome) := by
  rw [prune]
  dsimp only
  rw [ExtTreeMap.getElem?_filter', Option.filter_eq_some_iff]
  simp only [Bool.or_eq_true, Bool.not_eq_true', ExtTreeSet.contains_iff_mem, mem_targets_iff]
  cases n.record.isExternal <;> simp

/-! ## Edges of a changed graph -/

/-- Packages have no edges of their own. -/
theorem edge?_addPackages (g : ModuleGraph) (links : List Link) (source target : ModuleId) :
    (g.addPackages links).edge? source target = g.edge? source target := by
  rw [edge?_eq, edge?_eq, getElem?_addPackages]
  cases g.nodes[source]? with
  | some n => rfl
  | none =>
      rw [Option.none_or, Option.bind_none]
      by_cases h : LeadsTo links source
      · rw [if_pos h, Option.bind_some]
        exact ExtTreeMap.getElem?_empty
      · rw [if_neg h, Option.bind_none]

theorem edge?_setFile (g : ModuleGraph) (s : Surveyed) (source target : ModuleId) :
    (g.setFile s).edge? source target =
      if s.record.id = source then (fileNode s).outgoing[target]?
      else g.edge? source target := by
  rw [edge?_eq, edge?_eq, getElem?_setFile]
  by_cases h : s.record.id = source
  · rw [if_pos h, if_pos h, Option.bind_some]
  · rw [if_neg h, if_neg h]

/-- The nodes of a graph with a file surveyed anew, before packages are dropped. -/
theorem getElem?_changed (g : ModuleGraph) (s : Surveyed) (id : ModuleId) :
    ((g.setFile s).addPackages s.links).nodes[id]? =
      (if s.record.id = id then some (fileNode s) else g.nodes[id]?).or
        (if LeadsTo s.links id then some (packageNode id) else none) := by
  rw [getElem?_addPackages, getElem?_setFile]

theorem isSome_outgoing_iff {s : Surveyed} {target : ModuleId} :
    ((fileNode s).outgoing[target]?).isSome ↔ ∃ l ∈ s.links, l.edge.target = target := by
  rw [fileNode, getElem?_edgeMap, List.find?_isSome]
  simp only [List.mem_map, beq_iff_eq]
  constructor
  · rintro ⟨e, ⟨l, hl, rfl⟩, ht⟩
    exact ⟨l, hl, ht⟩
  · rintro ⟨l, hl, ht⟩
    exact ⟨l.edge, ⟨l, hl, rfl⟩, ht⟩

end ModuleGraph

theorem Import.isExternalId_externalId (imp : String) :
    Import.isExternalId (Import.externalId imp) = true := by
  rw [Import.isExternalId, Import.externalId, Text.startsWith, String.toList_append]
  exact List.isPrefixOf_iff_prefix.2 (List.prefix_append _ _)

namespace Builder

section Packages

variable {b : Builder} {p : Project} {m id : ModuleId} {d : Descriptor}

theorem isExternal_survey_record (b : Builder) (r : Import.Resolver) (m : ModuleId)
    (d : Descriptor) : (b.survey r m d).record.isExternal = Import.isExternalId m := by
  rw [Module.isExternal, survey_record_id]

/-- What an import leads to, when it resolves to no file, has the id of a package. -/
theorem isExternalId_of_leadsTo {r : Import.Resolver}
    (h : ModuleGraph.LeadsTo (b.survey r m d).links id) : Import.isExternalId id = true := by
  obtain ⟨x, -, -, rfl⟩ := leadsTo_survey_iff.1 h
  exact Import.isExternalId_externalId x.1

/-- The links that lead to no file of the project are those to packages. -/
theorem isSome_outgoing_iff_leadsTo (hid : id ∉ p) :
    ((ModuleGraph.fileNode (b.survey (b.resolver p) m d)).outgoing[id]?).isSome ↔
      ModuleGraph.LeadsTo (b.survey (b.resolver p) m d).links id := by
  rw [ModuleGraph.isSome_outgoing_iff, ModuleGraph.LeadsTo]
  constructor
  · rintro ⟨l, hl, ht⟩
    refine ⟨l, hl, ?_, ht⟩
    rw [survey_eq] at hl
    obtain ⟨x, -, rfl⟩ := List.mem_map.1 hl
    rw [linkOf_eq, Import.Resolver.targetOf] at ht ⊢
    cases hr : (b.resolver p).resolve? x.1 m with
    | none => rfl
    | some file =>
        rw [hr, Option.getD_some] at ht
        dsimp only at ht
        have hfile : file ∈ p.keys := Import.Resolver.resolve?_mem hr
        exact absurd (ExtTreeMap.mem_keys.1 hfile) (ht ▸ hid)
  · rintro ⟨l, hl, -, ht⟩
    exact ⟨l, hl, ht⟩

end Packages

/-- No file of the project has an id that is one of a package. -/
def Internal (p : Project) : Prop := ∀ id ∈ p, Import.isExternalId id = false

theorem Internal.ofSubmissions {ss : List Submission}
    (h : ∀ s ∈ ss, ∀ id ∈ s.id?, Import.isExternalId id = false) :
    Internal (.ofSubmissions ss) := by
  intro id hid
  obtain ⟨s, hs, hsid⟩ := mem_ids_unitsOf.1 (Project.mem_ofSubmissions.1 hid)
  exact h s hs id hsid

section Changing

variable {b : Builder} {p : Project} {g : ModuleGraph} {id : ModuleId} {d : Descriptor}

/-- Another descriptor of a file leaves the set of files as it is. -/
theorem resolver_insert (hid : id ∈ p) : b.resolver (p.insert id d) = b.resolver p := by
  refine Import.Resolver.ofFiles_congr fun x => ?_
  rw [ExtTreeMap.mem_keys, ExtTreeMap.mem_keys, Tables.mem_insert]
  constructor
  · rintro (rfl | hx)
    · exact hid
    · exact hx
  · exact Or.inr

/-- The packages of the changed project: those of the file, and those of the others. -/
theorem needs_insert_iff (hid : id ∈ p) {x : ModuleId} :
    b.Needs (p.insert id d) x ↔ ModuleGraph.LeadsTo (b.survey (b.resolver p) id d).links x ∨
      ∃ m e, m ≠ id ∧ p[m]? = some e ∧
        ModuleGraph.LeadsTo (b.survey (b.resolver p) m e).links x := by
  rw [Needs, resolver_insert hid]
  constructor
  · rintro ⟨m, e, he, hlead⟩
    rw [Tables.getElem?_insert] at he
    by_cases hm : id = m
    · subst hm
      rw [if_pos rfl] at he
      rw [Option.some.inj he]
      exact Or.inl hlead
    · rw [if_neg hm] at he
      exact Or.inr ⟨m, e, Ne.symm hm, he, hlead⟩
  · rintro (hlead | ⟨m, e, hm, he, hlead⟩)
    · exact ⟨id, d, ExtTreeMap.getElem?_insert_self, hlead⟩
    · refine ⟨m, e, ?_, hlead⟩
      rw [Tables.getElem?_insert, if_neg (Ne.symm hm)]
      exact he

/-- The changed graph, before packages are dropped, has the edges of the changed
project. -/
private theorem isSome_edge?_changed (h : Depicts b p g) (hid : id ∈ p) {x : ModuleId}
    (hx : x ∉ p) :
    (∃ source, (((g.setFile (b.survey (b.resolver p) id d)).addPackages
      (b.survey (b.resolver p) id d).links).edge? source x).isSome) ↔
      b.Needs (p.insert id d) x := by
  rw [needs_insert_iff hid]
  simp only [ModuleGraph.edge?_addPackages, ModuleGraph.edge?_setFile, survey_record_id]
  constructor
  · rintro ⟨source, hs⟩
    by_cases hsource : id = source
    · rw [if_pos hsource] at hs
      exact Or.inl ((isSome_outgoing_iff_leadsTo hx).1 hs)
    · rw [if_neg hsource] at hs
      by_cases hmem : source ∈ p
      · obtain ⟨e, he⟩ := Tables.exists_getElem? hmem
        rw [h.edge?_of_file he] at hs
        exact Or.inr ⟨source, e, Ne.symm hsource, he, (isSome_outgoing_iff_leadsTo hx).1 hs⟩
      · rw [h.edge?_of_not_mem hmem] at hs
        cases hs
  · rintro (hlead | ⟨m, e, hm, he, hlead⟩)
    · refine ⟨id, ?_⟩
      rw [if_pos rfl]
      exact (isSome_outgoing_iff_leadsTo hx).2 hlead
    · refine ⟨m, ?_⟩
      rw [if_neg (Ne.symm hm), h.edge?_of_file he]
      exact (isSome_outgoing_iff_leadsTo hx).2 hlead

/-- The changed graph depicts the changed project. -/
theorem Depicts.replace (h : Depicts b p g) (hp : Internal p) (hid : id ∈ p) :
    Depicts b (p.insert id d) (g.replace (b.survey (b.resolver p) id d)) := by
  refine ⟨?_, ?_⟩
  · -- Pruning does not touch the files, whose ids are none of packages.
    have hkept : ∀ (x : ModuleId) (e : Descriptor), x ∈ p →
        (b.survey (b.resolver p) x e).record.isExternal ≠ true := by
      intro x e hx
      rw [isExternal_survey_record, hp x hx]
      exact Bool.false_ne_true
    intro x e he
    rw [ModuleGraph.replace_eq, ModuleGraph.getElem?_prune_eq_some_iff, resolver_insert hid,
      ModuleGraph.getElem?_changed, survey_record_id]
    rw [Tables.getElem?_insert] at he
    by_cases hx : id = x
    · subst hx
      rw [if_pos rfl] at he
      rw [if_pos rfl, Option.some_or, Option.some.inj he]
      exact ⟨rfl, fun hext => absurd hext (hkept id e hid)⟩
    · rw [if_neg hx] at he
      rw [if_neg hx, h.files x e he, Option.some_or]
      exact ⟨rfl, fun hext => absurd hext (hkept x e (Tables.mem_of_getElem? he))⟩
  · intro x n hx
    rw [Tables.mem_insert, not_or] at hx
    rw [ModuleGraph.replace_eq, ModuleGraph.getElem?_prune_eq_some_iff,
      isSome_edge?_changed h hid hx.2, ModuleGraph.getElem?_changed, survey_record_id,
      if_neg hx.1, Option.or_eq_some_iff, h.packages x n hx.2, Option.ite_none_right_eq_some,
      Option.some.injEq]
    constructor
    · rintro ⟨⟨hneeds, rfl⟩ | ⟨-, hlead, rfl⟩, hdropped⟩
      · obtain ⟨m, e, -, hlead⟩ := hneeds
        exact ⟨hdropped (isExternalId_of_leadsTo hlead), rfl⟩
      · exact ⟨hdropped (isExternalId_of_leadsTo hlead), rfl⟩
    · rintro ⟨hneeds, rfl⟩
      refine ⟨?_, fun _ => hneeds⟩
      rcases (needs_insert_iff hid).1 hneeds with hlead | ⟨m, e, -, he, hlead⟩
      · cases hn : g.nodes[x]? with
        | none => exact Or.inr ⟨rfl, hlead, rfl⟩
        | some n => exact Or.inl ⟨((h.packages x n hx.2).1 hn).1, rfl⟩
      · exact Or.inl ⟨⟨m, e, he, hlead⟩, rfl⟩

/-! ## Updating -/

/-- The modules that are no packages are the files. -/
theorem Depicts.mem_internalModules (h : Depicts b p g) (hp : Internal p) {x : ModuleId} :
    x ∈ g.internalModules.map (·.id) ↔ x ∈ p := by
  simp only [ModuleGraph.internalModules, List.mem_map, List.mem_filter, Prod.exists,
    ExtTreeMap.mem_toList_iff_getElem?_eq_some, Bool.not_eq_true']
  constructor
  · rintro ⟨m, ⟨⟨k, n, hn, rfl⟩, hinternal⟩, rfl⟩
    by_cases hk : k ∈ p
    · obtain ⟨e, he⟩ := Tables.exists_getElem? hk
      have hnode := Option.some.inj (hn.symm.trans (h.files k e he))
      have hrecord : n.record.id = k := by
        rw [hnode]
        exact survey_record_id b _ k e
      rwa [hrecord]
    · obtain ⟨⟨m, e, -, hlead⟩, rfl⟩ := (h.packages k n hk).1 hn
      have hexternal : Import.isExternalId k = true := isExternalId_of_leadsTo hlead
      cases hexternal.symm.trans hinternal
  · intro hx
    obtain ⟨e, he⟩ := Tables.exists_getElem? hx
    have hrecord : (ModuleGraph.fileNode (b.survey (b.resolver p) x e)).record.id = x :=
      survey_record_id b _ x e
    refine ⟨_, ⟨⟨x, _, h.files x e he, rfl⟩, ?_⟩, hrecord⟩
    rw [Module.isExternal, hrecord]
    exact hp x hx

/-- A file is looked at against the same files as in a full build. -/
theorem Depicts.resurvey_eq (h : Depicts b p g) (hp : Internal p) (hid : id ∈ p) :
    b.resurvey g id d = b.survey (b.resolver p) id d := by
  have hknown : g.contains id = true := h.contains_iff.2 (Or.inl hid)
  have hresolver : Import.Resolver.ofFiles (g.internalModules.map (·.id)) b.packageNames =
      b.resolver p := by
    refine Import.Resolver.ofFiles_congr fun x => ?_
    rw [h.mem_internalModules hp, ExtTreeMap.mem_keys]
  rw [resurvey, if_pos hknown, hresolver]

theorem idOf_of_idOfPath? {path : Value} (h : idOfPath? path = some id) :
    idOf path = .ok id := by
  rw [idOf, h]

theorem unitOf_of_usable? {s : Submission} (hs : s.usable? = some (id, d)) :
    unitOf s = .ok (id, d) := by
  obtain ⟨rfl, hpath⟩ := Submission.usable?_eq_some_iff.1 hs
  rw [unitOf, idOf_of_idOfPath? hpath]
  rfl

/-- Updating a file of the project does not fail, and the graph depicts the project with
the file's other descriptor. -/
theorem Depicts.update (h : Depicts b p g) (hp : Internal p) (hid : id ∈ p) {s : Submission}
    (hs : s.usable? = some (id, d)) :
    ∃ g' skipped, b.update g s = .ok (g', skipped) ∧ Depicts b (p.insert id d) g' := by
  have hafter := h.replace (d := d) hp hid
  have hcontains : (g.replace (b.survey (b.resolver p) id d)).contains id = true :=
    hafter.contains_iff.2 (Or.inl ExtTreeMap.mem_insert_self)
  refine ⟨_, (b.survey (b.resolver p) id d).skips.map Skip.text, ?_, hafter⟩
  rw [Builder.update, unitOf_of_usable? hs]
  change (if (g.replace (b.resurvey g id d)).contains id then _ else _) = _
  rw [h.resurvey_eq hp hid, if_pos hcontains]
  rfl

end Changing

end Builder

end LayerLint
