import LayerLint.Proofs.Boundary

/-!
# Files and packages of a built graph

A graph has two kinds of modules, the files that were described and the packages
of imports that lead to no file.  Which of them a module is was known when it was
added, but is read off its id again: packages have a mark in front, and so has a
file whose path begins with the same word.  Such a file is listed with the
packages, it is not counted as a module, and no rule looks at its imports.

A graph without such files has its files on the one side and packages on the other.

## Main results

* `mem_internalModules_build`, `mem_externalModules_build`: the two sides of a built graph.
* `forbids_iff`: a rule looks only at edges with both ends on the first side.
* `sides_of_build`: how the files and the packages of a built graph are told apart.
* `exists_file_among_packages`: a forbidden import that is not found.
-/

namespace LayerLint

/-! ## Which edges the rules look at -/

section Edges

variable {g : ModuleGraph} {e : Edge} {source target m : Module} {id : ModuleId}

/-- A module of a graph is on the first side unless its id has the mark of a package. -/
theorem ModuleGraph.Consistent.isExternal_eq_false_iff (hg : g.Consistent)
    (hm : g.module? id = some m) :
    m.isExternal = false ↔ id ∈ g.internalModules.map (·.id) := by
  obtain ⟨n, hn, -⟩ := Option.map_eq_some_iff.1 hm
  rw [hg.module_isExternal hm, hg.mem_internalModules, contains_iff_exists]
  exact ⟨fun h => ⟨⟨n, hn⟩, h⟩, And.right⟩

namespace Boundary.Rules

/-- The policy is asked only about edges with both ends on the first side. -/
theorem forbids_iff (r : Rules) (hg : g.Consistent) (h : g.Joins e source target) :
    r.forbids source target = true ↔ e.source ∈ g.internalModules.map (·.id) ∧
      e.target ∈ g.internalModules.map (·.id) ∧
        r.policy.allows source.layer target.layer = false := by
  rw [← hg.isExternal_eq_false_iff h.source, ← hg.isExternal_eq_false_iff h.target, forbids]
  simp only [Bool.and_eq_true, Bool.not_eq_true']
  constructor
  · rintro ⟨⟨ht, hs⟩, hpolicy⟩
    exact ⟨hs, ht, hpolicy⟩
  · rintro ⟨hs, ht, hpolicy⟩
    exact ⟨⟨ht, hs⟩, hpolicy⟩

/-- No rule finds fault with the other edges. -/
theorem violationsOf_eq_nil_of_end (r : Rules) (hg : g.Consistent) (h : g.Joins e source target)
    (hend : e.source ∉ g.internalModules.map (·.id) ∨ e.target ∉ g.internalModules.map (·.id)) :
    r.violationsOf e source target = [] := by
  rw [← hg.isExternal_eq_false_iff h.source, ← hg.isExternal_eq_false_iff h.target,
    Bool.not_eq_false, Bool.not_eq_false] at hend
  exact r.violationsOf_eq_nil e (hend.imp_right Or.inl)

end Boundary.Rules

end Edges

/-! ## The two sides of a built graph -/

namespace Builder

variable {b : Builder} {ss : List Submission} {id : ModuleId}

/-- Some import of a file resolves to no file and leads to this package. -/
def Imports (b : Builder) (ss : List Submission) (package : ModuleId) : Prop :=
  let r := Import.Resolver.ofFiles ((unitsOf ss).map (·.1)) b.packageNames
  ∃ m d, (m, d) ∈ unitsOf ss ∧
    ∃ x ∈ d.records, r.resolve? x.1 m = none ∧ Import.externalId x.1 = package

theorem contains_build_iff :
    (b.build ss).contains id = true ↔ id ∈ (unitsOf ss).map (·.1) ∨ b.Imports ss id := by
  unfold Imports
  rw [ofFiles_unitsOf, (depicts_build b ss).contains_iff, Project.mem_ofSubmissions, Needs]
  simp only [leadsTo_survey_iff, Project.getElem?_ofSubmissions]

theorem Imports.isExternalId (h : b.Imports ss id) : Import.isExternalId id = true := by
  obtain ⟨m, d, -, x, -, -, rfl⟩ := h
  exact Import.isExternalId_externalId x.1

/-- On the one side are the files without the mark of a package. -/
theorem mem_internalModules_build : id ∈ (b.build ss).internalModules.map (·.id) ↔
    id ∈ (unitsOf ss).map (·.1) ∧ Import.isExternalId id = false := by
  rw [(depicts_build b ss).consistent.mem_internalModules, contains_build_iff]
  constructor
  · rintro ⟨hfile | hpackage, hinternal⟩
    · exact ⟨hfile, hinternal⟩
    · cases hpackage.isExternalId.symm.trans hinternal
  · rintro ⟨hfile, hinternal⟩
    exact ⟨Or.inl hfile, hinternal⟩

/-- On the other side are the packages of imports, and the files with their mark. -/
theorem mem_externalModules_build : id ∈ (b.build ss).externalModules.map (·.id) ↔
    b.Imports ss id ∨ (id ∈ (unitsOf ss).map (·.1) ∧ Import.isExternalId id = true) := by
  rw [(depicts_build b ss).consistent.mem_externalModules, contains_build_iff]
  constructor
  · rintro ⟨hfile | hpackage, hexternal⟩
    · exact Or.inr ⟨hfile, hexternal⟩
    · exact Or.inl hpackage
  · rintro (hpackage | ⟨hfile, hexternal⟩)
    · exact ⟨Or.inr hpackage, hpackage.isExternalId⟩
    · exact ⟨Or.inl hfile, hexternal⟩

/-- The modules that are counted are the files without the mark. -/
theorem stats_build_modules : (b.build ss).stats.modules =
    (((unitsOf ss).map (·.1)).filter fun id => !Import.isExternalId id).length := by
  have hcounted : ((b.build ss).internalModules.map (·.id)).Perm
      (((unitsOf ss).map (·.1)).filter fun id => !Import.isExternalId id) := by
    refine (List.perm_ext_iff_of_nodup (depicts_build b ss).consistent.nodup_internalModules
      ((nodup_unitsOf ss).filter _)).2 fun id => ?_
    rw [mem_internalModules_build, List.mem_filter, Bool.not_eq_true']
  rw [← hcounted.length_eq, List.length_map]
  rfl

/-- **Files and packages are told apart by the mark.**  The files are what the usable
submissions describe.  Of them those without the mark of a package are listed and
counted as modules.  Listed as packages are those of the imports that resolve to no
file, and the files with the mark.  So the modules are just the files as long as no file
has the mark, and only then.  The policy decides about an edge between two such modules,
and no rule finds fault with any other edge. -/
theorem sides_of_build (b : Builder) (ss : List Submission) :
    let files := (unitsOf ss).map (·.1)
    let g := b.build ss
    let internal := g.internalModules.map (·.id)
    let external := g.externalModules.map (·.id)
    (∀ id, id ∈ files ↔ ∃ s ∈ ss, s.id? = some id) ∧
    (∀ id, id ∈ internal ↔ id ∈ files ∧ Import.isExternalId id = false) ∧
    (∀ id, id ∈ external ↔ b.Imports ss id ∨ (id ∈ files ∧ Import.isExternalId id = true)) ∧
    g.stats.modules = (files.filter fun id => !Import.isExternalId id).length ∧
    ((∀ id, id ∈ internal ↔ id ∈ files) ↔ ∀ id ∈ files, Import.isExternalId id = false) ∧
    ∀ (r : Boundary.Rules) (e : Edge) (source target : Module), g.Joins e source target →
      (r.forbids source target = true ↔ e.source ∈ internal ∧ e.target ∈ internal ∧
        r.policy.allows source.layer target.layer = false) ∧
      (e.source ∉ internal ∨ e.target ∉ internal → r.violationsOf e source target = []) := by
  intro files g internal external
  have hconsistent : g.Consistent := (depicts_build b ss).consistent
  have hinternal : ∀ id, id ∈ internal ↔ id ∈ files ∧ Import.isExternalId id = false :=
    fun _ => mem_internalModules_build
  refine ⟨fun _ => mem_ids_unitsOf, hinternal, fun _ => mem_externalModules_build,
    stats_build_modules, ?_, fun r e source target hjoins =>
      ⟨r.forbids_iff hconsistent hjoins, r.violationsOf_eq_nil_of_end hconsistent hjoins⟩⟩
  constructor
  · intro hsame id hfile
    exact ((hinternal id).1 ((hsame id).2 hfile)).2
  · intro hplain id
    rw [hinternal]
    exact ⟨And.left, fun hfile => ⟨hfile, hplain id hfile⟩⟩

/-- The path of a file of the domain begins with the mark of a package.  The file is
listed as one, and what it imports from the data layer is not reported, though the
policy does not allow it. -/
theorem exists_file_among_packages :
    let b : Builder := ⟨Classifier.default.classify, []⟩
    let file (path layer : String) (targets : List String) : Submission :=
      .descriptor ⟨.str path,
        .items (targets.map fun t => .record (.str t) (.at { file := path })), .str layer⟩
    let ss := [file "external:a.py" "domain" ["lib/b.py"], file "lib/b.py" "data" []]
    let g := b.build ss
    let r : Boundary.Rules := .default .default
    g.internalModules.map (·.id) = ["lib/b.py"] ∧
      g.externalModules.map (·.id) = ["external:a.py"] ∧
      g.stats = ⟨1, 1, 1⟩ ∧
      g.edges.map (fun e => (e.source, e.target)) = [("external:a.py", "lib/b.py")] ∧
      r.policy.allows (g.layerOf "external:a.py") (g.layerOf "lib/b.py") = false ∧
      r.check g = .ok [] := by
  intro b file ss g r
  have hconsistent : g.Consistent := (depicts_build b ss).consistent
  have hinternal : g.internalModules.map (·.id) = ["lib/b.py"] := by decide +kernel
  have hsource : ∀ e ∈ g.edges, e.source = "external:a.py" := by decide +kernel
  have hshown : g.edges.flatMap (r.verdict g) = [] := by
    refine List.flatMap_eq_nil_iff.2 fun e he => ?_
    obtain ⟨source, target, hjoins⟩ := hconsistent.closed.exists_joins he
    rw [r.verdict_eq hjoins]
    refine r.violationsOf_eq_nil_of_end hconsistent hjoins (Or.inl ?_)
    rw [hsource e he, hinternal]
    decide
  refine ⟨hinternal, by decide +kernel, by decide +kernel, by decide +kernel,
    by decide +kernel, ?_⟩
  rw [r.check_eq hconsistent, hshown]

end Builder

end LayerLint
