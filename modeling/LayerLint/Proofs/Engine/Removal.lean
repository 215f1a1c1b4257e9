import LayerLint.Proofs.Engine.Failure
import LayerLint.Proofs.Path.Settled

/-!
# Modules taken away by their ids

A module that a graph lists is taken away by its path, and its id is a path.  But
the path is brought into canonical form first, and for an id with a blank at one of
its ends this is another id.  So such a module stays, and if the other id is one of
a module as well, that module goes in its place.

The engine forgets descriptors in the same way, whichever calls came before.

## Main results

* `Builder.located_of_changes`: the ids of files are canonical paths, however a graph came about.
* `Builder.exists_remove`: a module whose id is its own canonical form is taken away.
* `Builder.contains_of_remove`: every other file stays.
* `KnowsProject.lookup_remove_eq_none_iff`: an engine forgets the descriptors of just these ids.
* `Engine.remove_by_id`: both in terms of blanks, and where ids with such blanks come from.
* `Engine.exists_unsettled_id`: one of them.
-/

namespace LayerLint

open Std (ExtTreeMap)

/-! ## The ids of files -/

namespace ModuleGraph

variable {g : ModuleGraph} {id x : ModuleId}

/-- Every module that is no package has the canonical form of some path as its id. -/
structure Located (g : ModuleGraph) : Prop extends Consistent g where
  path : ∀ id, g.contains id = true → Import.isExternalId id = false →
    ∃ path, id = Path.canonical path

theorem contains_of_prune (h : g.prune.contains id = true) : g.contains id = true := by
  obtain ⟨n, hn⟩ := contains_iff_exists.1 h
  exact contains_iff_exists.2 ⟨n, (getElem?_prune_eq_some_iff.1 hn).1⟩

theorem contains_of_without (h : (g.without x).contains id = true) :
    x ≠ id ∧ g.contains id = true := by
  obtain ⟨n, hn⟩ := contains_iff_exists.1 h
  rw [getElem?_without, Option.ite_none_left_eq_some, Option.map_eq_some_iff] at hn
  obtain ⟨hne, m, hm, -⟩ := hn
  exact ⟨hne, contains_iff_exists.2 ⟨m, hm⟩⟩

/-- A change brings in one file, by its path, and otherwise packages only. -/
theorem Located.perform (h : g.Located) (b : Builder) (c : Builder.Change) :
    (c.perform b g).Located where
  toConsistent := h.toConsistent.perform b c
  path := by
    intro id hmem hinternal
    rcases c.perform_cases b g with heq | ⟨s, m, d, -, hs, heq⟩ | ⟨m, heq⟩
    · rw [heq] at hmem
      exact h.path id hmem hinternal
    · rw [heq, replace_eq] at hmem
      rcases contains_changed_iff.1 (contains_of_prune hmem) with hself | hold | hlead
      · have hid : m = id := (Builder.survey_record_id b _ m d).symm.trans hself
        exact exists_path_of_idOfPath? (hid ▸ (Submission.usable?_eq_some_iff.1 hs).2)
      · exact h.path id hold hinternal
      · cases (Builder.isExternalId_of_leadsTo hlead).symm.trans hinternal
    · rw [heq] at hmem
      exact h.path id (contains_of_without (contains_of_prune hmem)).2 hinternal

end ModuleGraph

namespace Builder

theorem Depicts.located {b : Builder} {p : Project} {g : ModuleGraph} (h : Depicts b p g)
    (hp : p.Labelled) : g.Located where
  toConsistent := h.consistent
  path := by
    intro id hmem hinternal
    rcases h.contains_iff.1 hmem with hfile | ⟨m, d, -, hlead⟩
    · exact hp.exists_path hfile
    · cases (isExternalId_of_leadsTo hlead).symm.trans hinternal

/-- So it is however a built graph is changed. -/
theorem located_of_changes (b : Builder) (ss : List Submission) (changes : List Change) :
    (changes.foldl (Change.perform b) (b.build ss)).Located := by
  have hbuilt : (b.build ss).Located :=
    (depicts_build b ss).located (Project.labelled_ofSubmissions ss)
  generalize b.build ss = g at hbuilt
  induction changes generalizing g with
  | nil => exact hbuilt
  | cons c rest ih => exact ih _ (hbuilt.perform b c)

/-! ## Modules of a graph -/

variable {g after : ModuleGraph} {id : ModuleId}

/-- A module whose id is its own canonical form is taken away. -/
theorem exists_remove (hmem : g.contains id = true) (hid : Path.canonical id = id) :
    ∃ after, remove g (.str id) = .ok after ∧ after.contains id = false := by
  refine ⟨(g.without id).prune, ?_, ?_⟩
  · simp only [remove, hid, if_pos hmem]
  · rw [← Bool.not_eq_true]
    intro hkept
    exact (ModuleGraph.contains_of_without (ModuleGraph.contains_of_prune hkept)).1 rfl

/-- Every other file stays, whatever is taken away. -/
theorem contains_of_remove (hg : g.Consistent) (hmem : id ∈ g.internalModules.map (·.id))
    (hid : Path.canonical id ≠ id) (hremove : remove g (.str id) = .ok after) :
    after.contains id = true := by
  obtain ⟨hcontains, hinternal⟩ := hg.mem_internalModules.1 hmem
  obtain ⟨n, hn⟩ := ModuleGraph.contains_iff_exists.1 hcontains
  have hkept : (g.without (Path.canonical id)).nodes[id]? =
      some { n with outgoing := n.outgoing.erase (Path.canonical id) } := by
    rw [ModuleGraph.getElem?_without, if_neg hid, hn, Option.map_some]
  simp only [remove] at hremove
  split at hremove
  · rw [← Except.ok.inj hremove]
    refine ModuleGraph.contains_iff_exists.2 ⟨_, ModuleGraph.getElem?_prune_eq_some_iff.2
      ⟨hkept, fun hexternal => ?_⟩⟩
    rw [hg.isExternal hn, hinternal] at hexternal
    cases hexternal
  · cases hremove

end Builder

/-! ## Descriptors of an engine -/

namespace Engine

variable {e : Engine} {id : ModuleId}

/-- The descriptors that an engine knows are those of a project. -/
def KnowsProject (e : Engine) : Prop := ∃ p : Project, p.Labelled ∧ e.descriptors.Lists p

theorem knowsProject_run (e : Engine) (ss : List Submission) : (e.run ss).2.KnowsProject := by
  obtain ⟨r, hrun, -⟩ := e.exists_run ss
  rw [hrun]
  exact ⟨.ofSubmissions ss, Project.labelled_ofSubmissions ss, Descriptors.lists_knownFrom ss⟩

/-- Working out one file again forgets no descriptor. -/
theorem descriptors_amend (e : Engine) (last : Result) (s : Submission) (id : ModuleId) :
    (e.amend last s id).2.descriptors = e.descriptors := by
  unfold amend
  split <;> rfl

theorem KnowsProject.perform (h : e.KnowsProject) (c : Call) : (c.perform e).2.KnowsProject := by
  cases c with
  | run ss => exact knowsProject_run e ss
  | remove path => exact knowsProject_run _ _
  | rebuild => exact knowsProject_run _ _
  | update s =>
      cases hs : s.usable? with
      | none =>
          obtain ⟨f, hupdate⟩ := e.exists_update_eq_error hs
          rw [Call.perform, hupdate]
          exact h
      | some u =>
          obtain ⟨x, d⟩ := u
          obtain ⟨p, hlabelled, hlists⟩ := h
          have hpath := (Submission.usable?_eq_some_iff.1 hs).2
          -- The descriptor is set before the graph is changed, so it is known even if that fails.
          have hset : KnowsProject { e with descriptors := e.descriptors.set x d } :=
            ⟨p.insert x d, hlabelled.insert hpath, hlists.set x d⟩
          rw [Call.perform, update, Builder.unitOf_of_usable? hs]
          dsimp only
          split
          · split
            · exact knowsProject_run _ _
            · rw [KnowsProject, descriptors_amend]
              exact hset
          · exact knowsProject_run _ _

/-- So it is after any calls, whether they fail or not. -/
theorem KnowsProject.after (h : e.KnowsProject) (calls : List Call) :
    (e.after calls).KnowsProject := by
  induction calls generalizing e with
  | nil => exact h
  | cons c rest ih => exact ih (h.perform c)

theorem knowsProject_fresh (a : Analysis) : (fresh a).KnowsProject :=
  ⟨∅, fun _ _ h => by simp at h, List.nodup_nil, by simp [fresh]⟩

/-- The engine forgets a descriptor when it is taken away by an id that is its own
canonical form, and by no other one. -/
theorem KnowsProject.lookup_remove_eq_none_iff (h : e.KnowsProject)
    (hid : (e.descriptors.lookup id).isSome = true) :
    (e.remove (.str id)).2.descriptors.lookup id = none ↔ Path.canonical id = id := by
  obtain ⟨p, hlabelled, hlists⟩ := h
  have hmem : id ∈ p := hlists.mem_of_isSome_lookup hid
  have herased := hlists.erase (Path.canonical id)
  have hproject := herased.ofSubmissions_eq (hlabelled.erase _)
  obtain ⟨r, hrun, -⟩ := exists_run
    { e with descriptors := e.descriptors.erase (Path.canonical id) }
    (Descriptors.submissions (e.descriptors.erase (Path.canonical id)))
  have hafter : (e.remove (.str id)).2.descriptors.Lists (p.erase (Path.canonical id)) := by
    rw [remove, rebuild]
    dsimp only
    rw [hrun, ← hproject]
    exact Descriptors.lists_knownFrom _
  rw [hafter.lookup_eq_none_iff, ExtTreeMap.mem_erase, Ne, Std.LawfulEqCmp.compare_eq_iff_eq]
  constructor
  · intro hout
    by_contra hne
    exact hout ⟨hne, hmem⟩
  · exact fun heq hin => hin.1 heq

/-- **Modules are taken away by their ids, unless these have blanks at their ends.**
The id of a file is its own canonical form if it has no blanks at its ends, and only
then; and it has none when no component of the path has one at its ends.  A module that
a graph lists, as it was built or as it was changed since, is then taken away by its id,
and an engine forgets its descriptor.  By an id with such a blank neither graph nor
engine loses the module, whichever other one they may lose. -/
theorem remove_by_id (path : String) (b : Builder) (ss : List Submission)
    (changes : List Builder.Change) (a : Analysis) (calls : List Call) (id : ModuleId) :
    let g := changes.foldl (Builder.Change.perform b) (b.build ss)
    let e := (fresh a).after calls
    (Path.canonical (Path.canonical path) = Path.canonical path ↔
      Text.strip (Path.canonical path) = Path.canonical path) ∧
    ((∀ c ∈ Text.split '/' (Path.slashed (Text.strip path)), Text.strip c = c) →
      Text.strip (Path.canonical path) = Path.canonical path) ∧
    (id ∈ g.internalModules.map (·.id) →
      (Text.strip id = id →
        ∃ after, Builder.remove g (.str id) = .ok after ∧ after.contains id = false) ∧
      (Text.strip id ≠ id →
        ∀ after, Builder.remove g (.str id) = .ok after → after.contains id = true)) ∧
    ((e.descriptors.lookup id).isSome = true →
      ((e.remove (.str id)).2.descriptors.lookup id = none ↔ Text.strip id = id)) := by
  intro g e
  refine ⟨Path.canonical_canonical_iff path, Path.strip_canonical, fun hid => ?_, fun hid => ?_⟩
  · have hlocated : g.Located := Builder.located_of_changes b ss changes
    obtain ⟨hmem, hinternal⟩ := hlocated.toConsistent.mem_internalModules.1 hid
    obtain ⟨path, rfl⟩ := hlocated.path id hmem hinternal
    constructor
    · intro hstrip
      exact Builder.exists_remove hmem (Path.canonical_eq_self_of_strip hstrip)
    · intro hstrip after hremove
      exact Builder.contains_of_remove hlocated.toConsistent hid
        (mt Path.strip_eq_self_of_canonical hstrip) hremove
  · have hknows : e.KnowsProject := (knowsProject_fresh a).after calls
    rw [hknows.lookup_remove_eq_none_iff hid]
    obtain ⟨p, hlabelled, hlists⟩ := hknows
    obtain ⟨path, rfl⟩ := hlabelled.exists_path (hlists.mem_of_isSome_lookup hid)
    exact Path.canonical_canonical_iff path

/-- A step up takes back the name behind a blank.  The file gets an id that ends with
the blank, and is not taken away by it. -/
theorem exists_unsettled_id :
    let b : Builder := ⟨Classifier.default.classify, []⟩
    let a : Analysis := ⟨Check.all, b, .default .default, .error⟩
    let ss : List Submission := [.descriptor ⟨.str "a /b/..", .items [], .null⟩]
    let e := (fresh a).after [.run ss]
    Path.canonical "a /b/.." = "a " ∧ Path.canonical "a " = "a" ∧
      (b.build ss).internalModules.map (·.id) = ["a "] ∧
      Builder.remove (b.build ss) (.str "a ") =
        .error (.graph "a" "module is not part of the graph") ∧
      (e.descriptors.lookup "a ").isSome = true ∧
      ((e.remove (.str "a ")).2.descriptors.lookup "a ").isSome = true := by
  intro b a ss e
  have hcanonical : Path.canonical "a " = "a" := by decide +kernel
  have hids : (b.build ss).internalModules.map (·.id) = ["a "] := by decide +kernel
  have hgone : (b.build ss).contains "a" = false := by decide +kernel
  have hknown : ((knownFrom ss).lookup "a ").isSome = true := by decide +kernel
  obtain ⟨r, hrun, -⟩ := (fresh a).exists_run ss
  have he : e = { fresh a with descriptors := knownFrom ss, last := some r } :=
    congrArg Prod.snd hrun
  have hlookup : (e.descriptors.lookup "a ").isSome = true := by
    rw [he]
    exact hknown
  refine ⟨by decide +kernel, hcanonical, hids, ?_, hlookup, ?_⟩
  · simp [Builder.remove, hcanonical, hgone]
  · have hknows : e.KnowsProject := (knowsProject_fresh a).after [.run ss]
    rw [Option.isSome_iff_ne_none, Ne, hknows.lookup_remove_eq_none_iff hlookup, hcanonical]
    decide

end Engine

end LayerLint
