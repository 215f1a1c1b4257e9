import LayerLint.Proofs.Graph.Consistency

/-!
# What holds of every graph that changes lead to

A graph is built from submissions and then changed file by file: a file gets
another descriptor, a new file comes in, a module is taken away.  Through all
of this the graph stays *well formed*.  Modules and edges stand under their own
ids, no edge has a loose end, files are known from their beginning on, and
packages import nothing and are imported by someone.

A change has two stages.  The first one touches nodes and edges and leaves a
graph in which everything is in its place; only a package may have lost its
last importer.  The second one prunes.  Packages have no edges, so dropping
them takes away no edge and leaves no other package without importers, which
is why one pass is enough.

What a file is surveyed against are the files of the graph, so what a new edge
leads to is a file of the graph, the file itself, or a package.

## Main results

* `Filed.prune`: pruning drops no edge and leaves no package without importers.
* `WellFormed.perform`: every single change keeps a graph well formed.
* `wellFormed_of_changes`: so do all changes to a built graph.
-/

namespace LayerLint

open Std (ExtTreeMap)

/-! ## Being in place -/

/-- The node is in its place under the id. -/
structure Node.WellFiled (id : ModuleId) (n : Node) : Prop where
  label : n.record.id = id
  /-- A package is of the layer of packages and imports nothing. -/
  package : Import.isExternalId id = true → n.record.layer = Layer.external ∧ n.outgoing = ∅
  /-- A file is known from its beginning on. -/
  file : Import.isExternalId id = false →
    n.record.location = some { file := id, line := 1, column := 1 }

namespace ModuleGraph

/-- All nodes and edges are in their place, and no edge has a loose end. -/
structure Filed (g : ModuleGraph) : Prop where
  nodes : ∀ (id : ModuleId) (n : Node), g.nodes[id]? = some n → n.WellFiled id
  edges : ∀ (source target : ModuleId) (e : Edge), g.edge? source target = some e →
    e.source = source ∧ e.target = target ∧
      g.contains source = true ∧ g.contains target = true

/-- Besides, every package is imported by some module. -/
structure WellFormed (g : ModuleGraph) : Prop extends Filed g where
  imported : ∀ id : ModuleId, g.contains id = true → Import.isExternalId id = true →
    ∃ source, (g.edge? source id).isSome

variable {g : ModuleGraph} {id source target : ModuleId}

theorem wellFiled_packageNode (hid : Import.isExternalId id = true) :
    (packageNode id).WellFiled id where
  label := rfl
  package := fun _ => ⟨rfl, rfl⟩
  file := fun hfile => by rw [hid] at hfile; cases hfile

/-- A graph in which all is in its place has no loose ends. -/
theorem Filed.consistent (h : g.Filed) : g.Consistent where
  records := fun id n hn => (h.nodes id n hn).label
  edges := h.edges

theorem Filed.closed (h : g.Filed) : g.Closed := h.consistent.closed

theorem Filed.isExternal (h : g.Filed) {n : Node} (hn : g.nodes[id]? = some n) :
    n.record.isExternal = Import.isExternalId id :=
  h.consistent.isExternal hn

/-- The files of a graph. -/
theorem Filed.mem_internalModules (h : g.Filed) :
    x ∈ g.internalModules.map (·.id) ↔ g.contains x = true ∧ Import.isExternalId x = false :=
  h.consistent.mem_internalModules

/-! ## Pruning -/

/-- What pruning drops has no edges. -/
theorem Filed.edge?_prune (h : g.Filed) (source target : ModuleId) :
    g.prune.edge? source target = g.edge? source target := by
  refine Option.ext fun e => ?_
  simp only [edge?_eq_some_iff, getElem?_prune_eq_some_iff]
  constructor
  · rintro ⟨n, ⟨hn, -⟩, he⟩
    exact ⟨n, hn, he⟩
  · rintro ⟨n, hn, he⟩
    refine ⟨n, ⟨hn, fun hexternal => ?_⟩, he⟩
    rw [h.isExternal hn] at hexternal
    rw [((h.nodes source n hn).package hexternal).2, ExtTreeMap.getElem?_empty] at he
    cases he

/-- Pruning drops no edge, and leaves no package without importers. -/
theorem Filed.prune (h : g.Filed) : g.prune.WellFormed where
  nodes := fun id n hn => h.nodes id n (getElem?_prune_eq_some_iff.1 hn).1
  edges := h.consistent.prune.edges
  imported := by
    intro id hid hexternal
    obtain ⟨n, hn⟩ := contains_iff_exists.1 hid
    obtain ⟨hn, himported⟩ := getElem?_prune_eq_some_iff.1 hn
    simp only [h.edge?_prune]
    exact himported ((h.isExternal hn).trans hexternal)

/-! ## Taking a module away -/

theorem Filed.without (h : g.Filed) (id : ModuleId) : (g.without id).Filed where
  nodes := by
    intro x n hn
    rw [getElem?_without, Option.ite_none_left_eq_some, Option.map_eq_some_iff] at hn
    obtain ⟨-, m, hm, rfl⟩ := hn
    have hfiled := h.nodes x m hm
    refine ⟨hfiled.label, fun hx => ⟨(hfiled.package hx).1, ?_⟩, hfiled.file⟩
    dsimp only
    rw [(hfiled.package hx).2]
    exact ExtTreeMap.erase_empty
  edges := (h.consistent.without id).edges

end ModuleGraph

/-! ## Setting a file -/

/-- The file is none of the packages, and its links lead from it to files that are there
or to packages. -/
structure Surveyed.Fits (files : ModuleId → Prop) (s : Surveyed) : Prop where
  internal : Import.isExternalId s.record.id = false
  location : s.record.location = some { file := s.record.id, line := 1, column := 1 }
  source : ∀ l ∈ s.links, l.edge.source = s.record.id
  resolved : ∀ l ∈ s.links, l.resolved = true → files l.edge.target
  unresolved : ∀ l ∈ s.links, l.resolved = false → Import.isExternalId l.edge.target = true

theorem Surveyed.Fits.linked {files : ModuleId → Prop} {s : Surveyed} (h : s.Fits files) :
    s.Linked files :=
  ⟨h.source, h.resolved⟩

namespace Builder

/-- A file that is surveyed against some files fits them. -/
theorem fits_survey (b : Builder) (known : List ModuleId) {id : ModuleId} (d : Descriptor)
    (hid : Import.isExternalId id = false) :
    (b.survey (.ofFiles known b.packageNames) id d).Fits (· ∈ known) where
  internal := by rwa [survey_record_id]
  location := by
    rw [survey_eq]
    rfl
  source := (b.linked_survey known id d).source
  resolved := (b.linked_survey known id d).resolved
  unresolved := by
    intro l hl hres
    obtain ⟨x, rfl⟩ := exists_of_mem_links hl
    dsimp only at hres ⊢
    rw [Option.isSome_eq_false_iff, Option.isNone_iff_eq_none] at hres
    rw [Import.Resolver.targetOf, hres]
    exact Import.isExternalId_externalId x.1

end Builder

namespace ModuleGraph

variable {g : ModuleGraph} {s : Surveyed} {files : ModuleId → Prop}

theorem wellFiled_fileNode (hs : s.Fits files) : (fileNode s).WellFiled s.record.id where
  label := rfl
  package := fun hid => by rw [hs.internal] at hid; cases hid
  file := fun _ => hs.location

/-- A graph with a file surveyed anew, before packages are dropped. -/
theorem Filed.changed (h : g.Filed)
    (hs : s.Fits fun id => g.contains id = true ∨ id = s.record.id) :
    ((g.setFile s).addPackages s.links).Filed where
  nodes := by
    intro id n hn
    rw [getElem?_changed, Option.or_eq_some_iff] at hn
    rcases hn with hn | ⟨-, hn⟩
    · by_cases hid : s.record.id = id
      · subst hid
        rw [if_pos rfl] at hn
        rw [← Option.some.inj hn]
        exact wellFiled_fileNode hs
      · rw [if_neg hid] at hn
        exact h.nodes id n hn
    · rw [Option.ite_none_right_eq_some, Option.some.injEq] at hn
      obtain ⟨⟨l, hl, hres, rfl⟩, rfl⟩ := hn
      exact wellFiled_packageNode (hs.unresolved l hl hres)
  edges := (h.consistent.changed hs.linked).edges

/-- A graph with a file surveyed anew is well formed. -/
theorem Filed.replace (h : g.Filed)
    (hs : s.Fits fun id => g.contains id = true ∨ id = s.record.id) :
    (g.replace s).WellFormed := by
  rw [replace_eq]
  exact (h.changed hs).prune

end ModuleGraph

namespace Builder

variable {b : Builder} {g : ModuleGraph} {id : ModuleId} {d : Descriptor}

/-- A graph that depicts a project is well formed, provided that no file has the id of a
package. -/
theorem Depicts.wellFormed {p : Project} (h : Depicts b p g) (hp : Internal p) :
    g.WellFormed where
  nodes := by
    intro id n hn
    by_cases hid : id ∈ p
    · obtain ⟨d, hd⟩ := Tables.exists_getElem? hid
      rw [h.files id d hd, Option.some.injEq] at hn
      have hfits := b.fits_survey p.keys d (hp id hid)
      have hfiled := ModuleGraph.wellFiled_fileNode hfits
      rw [survey_record_id] at hfiled
      exact hn ▸ hfiled
    · obtain ⟨⟨m, d, -, hlead⟩, rfl⟩ := (h.packages id n hid).1 hn
      exact ModuleGraph.wellFiled_packageNode (isExternalId_of_leadsTo hlead)
  edges := by
    intro source target e he
    have hends := h.closed e (ModuleGraph.mem_edges_iff.2 ⟨source, target, he⟩)
    obtain ⟨d, -, x, -, rfl⟩ := h.edge?_eq_some_iff.1 he
    exact ⟨rfl, rfl, hends⟩
  imported := by
    intro id hid hexternal
    have hout : id ∉ p := fun hmem => by
      rw [hp id hmem] at hexternal
      cases hexternal
    obtain ⟨m, d, hd, hlead⟩ := (h.contains_iff.1 hid).resolve_left hout
    refine ⟨m, ?_⟩
    rw [h.edge?_of_file hd]
    exact (isSome_outgoing_iff_leadsTo hout).2 hlead

/-- A file that is surveyed against a graph fits it. -/
theorem fits_resurvey (h : g.Filed) (b : Builder) (d : Descriptor)
    (hid : Import.isExternalId id = false) :
    (b.resurvey g id d).Fits fun x => g.contains x = true ∨ x = (b.resurvey g id d).record.id := by
  obtain ⟨known, heq, hknown⟩ := exists_known h.consistent b id d
  have hfits := b.fits_survey known d hid
  rw [heq, survey_record_id]
  exact { hfits with resolved := fun l hl hres => hknown _ (hfits.resolved l hl hres) }

/-! ## Changes -/

/-- A file is changed, or added, by surveying it against the graph, which does not fail.
-/
theorem update_eq_replace (h : g.Filed) {s : Submission} (hs : s.usable? = some (id, d))
    (hid : Import.isExternalId id = false) :
    b.update g s =
      .ok (g.replace (b.resurvey g id d), (b.resurvey g id d).skips.map Skip.text) := by
  have hfits := fits_resurvey h b d hid
  have hrecord : (b.resurvey g id d).record.id = id := survey_record_id b _ id d
  have hcontains : (g.replace (b.resurvey g id d)).contains id = true := by
    obtain ⟨n, hn⟩ := ModuleGraph.contains_iff_exists.1
      (ModuleGraph.contains_changed_iff.2 (Or.inl hrecord) :
        ((g.setFile (b.resurvey g id d)).addPackages (b.resurvey g id d).links).contains id = true)
    rw [ModuleGraph.replace_eq]
    refine ModuleGraph.contains_iff_exists.2 ⟨n, ?_⟩
    refine ModuleGraph.getElem?_prune_eq_some_iff.2 ⟨hn, fun hexternal => ?_⟩
    rw [(h.changed hfits).isExternal hn, hid] at hexternal
    cases hexternal
  rw [update_eq b g hs, if_pos hcontains]

namespace Change

/-- A file that is changed or added does not have the id of a package. -/
def Admissible : Change → Prop
  | update s => ∀ id ∈ s.id?, Import.isExternalId id = false
  | remove _ => True

instance : (c : Change) → Decidable c.Admissible
  | update s => inferInstanceAs (Decidable (∀ id ∈ s.id?, Import.isExternalId id = false))
  | remove _ => .isTrue trivial

/-- The file that such a change sets is none of the packages. -/
theorem Admissible.perform_cases {c : Change} (hc : c.Admissible) (b : Builder)
    (g : ModuleGraph) :
    c.perform b g = g ∨
      (∃ id d, Import.isExternalId id = false ∧ c.perform b g = g.replace (b.resurvey g id d)) ∨
      ∃ id, c.perform b g = (g.without id).prune := by
  rcases Change.perform_cases b g c with heq | ⟨s, id, d, rfl, hs, heq⟩ | hremoved
  · exact Or.inl heq
  · exact Or.inr (Or.inl ⟨id, d, hc id (by rw [Submission.id?, hs]; rfl), heq⟩)
  · exact Or.inr (Or.inr hremoved)

end Change

end Builder

namespace ModuleGraph

open Builder (Change)

/-- Every single change keeps a graph well formed. -/
theorem WellFormed.perform {g : ModuleGraph} (h : g.WellFormed) (b : Builder) {c : Change}
    (hc : c.Admissible) : (c.perform b g).WellFormed := by
  rcases hc.perform_cases b g with heq | ⟨id, d, hid, heq⟩ | ⟨id, heq⟩
  · rwa [heq]
  · rw [heq]
    exact h.toFiled.replace (Builder.fits_resurvey h.toFiled b d hid)
  · rw [heq]
    exact (h.without id).prune

/-- So does a sequence of changes. -/
theorem WellFormed.performAll {g : ModuleGraph} (h : g.WellFormed) (b : Builder)
    {changes : List Change} (hchanges : ∀ c ∈ changes, c.Admissible) :
    (changes.foldl (Change.perform b) g).WellFormed := by
  induction changes generalizing g with
  | nil => exact h
  | cons c rest ih =>
      have hnext := h.perform b (hchanges c List.mem_cons_self)
      exact ih hnext fun d hd => hchanges d (List.mem_cons_of_mem c hd)

end ModuleGraph

namespace Builder

/-- **Every graph that changes lead to is well formed.**  Build a graph, and then
change, add and remove files and modules as often as you like, in any order.
Provided that no file has the id of a package, every module of the graph stands
under its own id, every edge stands under its own source and target, which are
modules of the graph, every package is of the layer of packages, imports nothing
and is imported by some module, and every file is known from its first line and
column on.  So checking the edges does not fail, and neither does a further
change of a file. -/
theorem wellFormed_of_changes (b : Builder) (ss : List Submission) (changes : List Change)
    (hss : ∀ s ∈ ss, ∀ id ∈ s.id?, Import.isExternalId id = false)
    (hchanges : ∀ c ∈ changes, c.Admissible) :
    let g := changes.foldl (Change.perform b) (b.build ss)
    g.WellFormed ∧
    (∀ rules : Boundary.Rules, ∃ found, rules.check g = .ok found) ∧
    (∀ s id d, s.usable? = some (id, d) → Import.isExternalId id = false →
      ∃ after, b.update g s = .ok after) := by
  intro g
  have hbuilt : (b.build ss).WellFormed := (depicts_build b ss).wellFormed (.ofSubmissions hss)
  have hg : g.WellFormed := hbuilt.performAll b hchanges
  refine ⟨hg, ?_, ?_⟩
  · intro rules
    exact rules.exists_check hg.closed
  · intro s id d hs hid
    exact ⟨_, update_eq_replace hg.toFiled hs hid⟩

/-- A file is changed so that its package goes, another comes in with a package of its
own, and the file that it imports is removed. -/
theorem wellFormed_of_changes_of_three_files :
    let b : Builder := ⟨Classifier.default.classify, []⟩
    let file (path : String) (targets : List String) : Submission :=
      .descriptor ⟨.str path,
        .items (targets.map fun t => .record (.str t) (.at { file := path })), .null⟩
    let ss := [file "lib/data/a.dart" ["package:http/http.dart"], file "lib/b.dart" ["data/a.dart"]]
    let changes : List Change := [
      .update (file "lib/data/a.dart" ["../b.dart"]),
      .update (file "lib/c.dart" ["b.dart", "dart:async"]),
      .remove (.str "lib/b.dart")]
    let g := changes.foldl (Change.perform b) (b.build ss)
    g.WellFormed ∧
    (∀ rules : Boundary.Rules, ∃ found, rules.check g = .ok found) ∧
    (∀ s id d, s.usable? = some (id, d) → Import.isExternalId id = false →
      ∃ after, b.update g s = .ok after) := by
  intro b file ss changes
  have hss : ∀ s ∈ ss, ∀ id ∈ s.id?, Import.isExternalId id = false := by decide +kernel
  have hchanges : ∀ c ∈ changes, c.Admissible := by decide +kernel
  exact wellFormed_of_changes b ss changes hss hchanges

end Builder

end LayerLint
