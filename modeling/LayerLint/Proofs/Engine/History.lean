import LayerLint.Engine
import LayerLint.Proofs.Engine.Analysis
import LayerLint.Proofs.Graph.Update

/-!
# Histories of calls

A history is a list of calls to one engine.  Beside the engine it moves a
*project*, which knows nothing of graphs: a run replaces it, an update sets one
descriptor, and a removal takes one away.  The engine keeps in step with it:
its descriptors are those of the project, and the graph of its last result, if
there is one, depicts the project.

An amended graph and one that is built from all descriptors depict the same
project, and so are one and the same.  A report is worked out from the graph
alone, so it is the same as well.

## Main results

* `Keeps.answers`: one call keeps the engine in step, and answers rightly.
* `Keeps.after`: so does a history of calls.
* `answer_eq_fresh_run`: the last call answers as a fresh engine does.
-/

namespace LayerLint

open Std (ExtTreeMap)

/-! ## What is known of files -/

namespace Known

variable {α : Type} {id x : ModuleId} {a b : α} {known : Known α}

theorem mem_keys_set : x ∈ (known.set id a).map (·.1) ↔ x = id ∨ x ∈ known.map (·.1) := by
  induction known with
  | nil => simp [set]
  | cons entry rest ih =>
      obtain ⟨k, b⟩ := entry
      rw [set]
      by_cases hk : k = id
      · simp [hk]
      · rw [if_neg hk, List.map_cons, List.mem_cons, ih, List.map_cons, List.mem_cons,
          or_left_comm]

theorem mem_of_mem_set {entry : ModuleId × α} (h : entry ∈ known.set id a) :
    entry = (id, a) ∨ entry ∈ known := by
  induction known with
  | nil => exact Or.inl (List.mem_singleton.1 h)
  | cons first rest ih =>
      rw [set] at h
      split at h
      · next hk =>
        rcases List.mem_cons.1 h with rfl | h
        · exact Or.inl (by rw [hk])
        · exact Or.inr (List.mem_cons_of_mem _ h)
      · rcases List.mem_cons.1 h with rfl | h
        · exact Or.inr List.mem_cons_self
        · exact (ih h).imp_right (List.mem_cons_of_mem _)

theorem nodup_keys_set (h : (known.map (·.1)).Nodup) :
    ((known.set id a).map (·.1)).Nodup := by
  induction known with
  | nil => exact List.nodup_singleton id
  | cons entry rest ih =>
      obtain ⟨k, b⟩ := entry
      rw [List.map_cons, List.nodup_cons] at h
      rw [set]
      by_cases hk : k = id
      · rw [if_pos hk]
        exact List.nodup_cons.2 h
      · rw [if_neg hk, List.map_cons, List.nodup_cons, mem_keys_set, not_or]
        exact ⟨⟨hk, h.1⟩, ih h.2⟩

theorem mem_set_iff (h : (known.map (·.1)).Nodup) :
    (x, b) ∈ known.set id a ↔ if id = x then a = b else (x, b) ∈ known := by
  induction known with
  | nil =>
      by_cases hx : id = x
      · simp [set, hx, eq_comm]
      · simp [set, hx, Ne.symm hx]
  | cons entry rest ih =>
      obtain ⟨k, c⟩ := entry
      rw [List.map_cons, List.nodup_cons] at h
      have hrest : (k, b) ∉ rest := fun hmem => h.1 (List.mem_map.2 ⟨(k, b), hmem, rfl⟩)
      rw [set]
      by_cases hk : k = id
      · subst hk
        by_cases hx : k = x
        · subst hx
          simp [hrest, eq_comm]
        · simp [hx, Ne.symm hx]
      · rw [if_neg hk, List.mem_cons, ih h.2]
        by_cases hx : id = x
        · simp [hx, show x ≠ k from fun hxk => hk (hxk.symm.trans hx.symm)]
        · simp [hx]

end Known

namespace Descriptors

/-- The list holds the descriptors of the project, each once. -/
structure Lists (ds : Descriptors) (p : Project) : Prop where
  nodup : (ds.map (·.1)).Nodup
  mem : ∀ (id : ModuleId) (d : Descriptor), (id, d) ∈ ds ↔ p[id]? = some d

theorem Lists.set {ds : Descriptors} {p : Project} (h : ds.Lists p) (id : ModuleId)
    (d : Descriptor) : Lists (ds.set id d) (p.insert id d) := by
  refine ⟨Known.nodup_keys_set h.nodup, fun x e => ?_⟩
  rw [Known.mem_set_iff h.nodup, h.mem, Tables.getElem?_insert]
  by_cases hx : id = x
  · rw [if_pos hx, if_pos hx, Option.some.injEq]
  · rw [if_neg hx, if_neg hx]

theorem Lists.erase {ds : Descriptors} {p : Project} (h : ds.Lists p) (id : ModuleId) :
    Lists (Known.erase id ds) (p.erase id) := by
  refine ⟨h.nodup.sublist (List.filter_sublist.map _), fun x e => ?_⟩
  rw [Known.erase, List.mem_filter, h.mem, Tables.getElem?_erase]
  by_cases hx : id = x
  · simp [hx]
  · simp [hx, Ne.symm hx]

theorem Lists.mem_of_lookup {ds : Descriptors} {p : Project} (h : ds.Lists p) {id : ModuleId}
    (hid : ¬ (ds.lookup id).isNone = true) : id ∈ p := by
  cases hl : ds.lookup id with
  | none => exact absurd (hl ▸ rfl) hid
  | some d =>
      obtain ⟨before, after, rfl, -⟩ := List.lookup_eq_some_iff.1 hl
      have hmem := (h.mem id d).1 (List.mem_append_right before List.mem_cons_self)
      exact Tables.mem_of_getElem? hmem

/-- A file is looked up where the project has it. -/
theorem Lists.lookup_eq_none_iff {ds : Descriptors} {p : Project} (h : ds.Lists p)
    {id : ModuleId} : ds.lookup id = none ↔ id ∉ p := by
  constructor
  · intro hnone hid
    obtain ⟨d, hd⟩ := Tables.exists_getElem? hid
    have hentry := List.lookup_eq_none_iff.1 hnone (id, d) ((h.mem id d).2 hd)
    simp at hentry
  · intro hid
    by_contra hsome
    exact hid (h.mem_of_lookup (mt Option.isNone_iff_eq_none.1 hsome))

theorem Lists.mem_of_isSome_lookup {ds : Descriptors} {p : Project} (h : ds.Lists p)
    {id : ModuleId} (hid : (ds.lookup id).isSome = true) : id ∈ p := by
  by_contra hout
  rw [h.lookup_eq_none_iff.2 hout] at hid
  cases hid

theorem lists_knownFrom (ss : List Submission) :
    (Engine.knownFrom ss).Lists (.ofSubmissions ss) := by
  rw [Engine.knownFrom, selection_eq]
  exact ⟨nodup_unitsOf ss, fun _ _ => Project.getElem?_ofSubmissions.symm⟩

theorem Lists.ofSubmissions_eq {ds : Descriptors} {p : Project} (h : ds.Lists p)
    (hp : p.Labelled) : Project.ofSubmissions ds.submissions = p := by
  refine Project.ofSubmissions_eq hp fun s => ?_
  simp only [submissions, List.mem_map, Prod.exists, h.mem, eq_comm]

end Descriptors

/-- The descriptors of a project, to be handed over. -/
def Project.submissions (p : Project) : List Submission := p.toList.map fun u => .descriptor u.2

namespace Engine

/-! ## Calls -/

/-- A call of an engine. -/
inductive Call where
  | run (submissions : List Submission)
  | update (s : Submission)
  | remove (path : String)
  | rebuild

namespace Call

def perform (e : Engine) : Call → Outcome
  | run submissions => e.run submissions
  | update s => e.update s
  | remove path => e.remove (.str path)
  | rebuild => e.rebuild

/-- What a call makes of the project. -/
def advance (p : Project) : Call → Project
  | run submissions => .ofSubmissions submissions
  | update s =>
    match s.usable? with
    | none => p
    | some (id, d) => p.insert id d
  | remove path => p.erase (Path.canonical path)
  | rebuild => p

/-- An update is of a file, and no file that is described has the id of a package. -/
def Admissible : Call → Prop
  | run submissions => ∀ s ∈ submissions, ∀ id ∈ s.id?, Import.isExternalId id = false
  | update s => ∃ id ∈ s.id?, Import.isExternalId id = false
  | remove _ => True
  | rebuild => True

instance : (c : Call) → Decidable c.Admissible
  | run submissions =>
    inferInstanceAs (Decidable (∀ s ∈ submissions, ∀ id ∈ s.id?, Import.isExternalId id = false))
  | update s => inferInstanceAs (Decidable (∃ id ∈ s.id?, Import.isExternalId id = false))
  | remove _ => .isTrue trivial
  | rebuild => .isTrue trivial

end Call

/-- The engine after some calls. -/
def after (e : Engine) (calls : List Call) : Engine :=
  calls.foldl (fun e c => (c.perform e).2) e

/-- An engine that has not been called. -/
def fresh (a : Analysis) : Engine := { analysis := a }

/-! ## Keeping in step -/

section Steps

variable {a : Analysis} {p : Project} {e : Engine}

/-- The engine knows the descriptors of the project. -/
structure Knows (a : Analysis) (p : Project) (e : Engine) : Prop where
  analysis : e.analysis = a
  lists : e.descriptors.Lists p
  labelled : p.Labelled
  internal : Builder.Internal p

/-- The engine is in step with the project. -/
structure Keeps (a : Analysis) (p : Project) (e : Engine) : Prop extends Knows a p e where
  last : ∀ r, e.last = some r → Builder.Depicts a.builder p r.graph

/-- The outcome is a result with the project's graph and its report, and an engine in
step. -/
structure Answers (a : Analysis) (p : Project) (o : Outcome) : Prop where
  keeps : Keeps a p o.2
  result : ∃ r, o.1 = .ok r ∧ Builder.Depicts a.builder p r.graph ∧
    a.report r.graph = .ok r.violations

/-- A run answers rightly for the project that its submissions declare. -/
theorem answers_run (ha : e.analysis = a) {ss : List Submission}
    (hp : Builder.Internal (.ofSubmissions ss)) : Answers a (.ofSubmissions ss) (e.run ss) := by
  subst ha
  obtain ⟨r, hrun, hgraph, hreport, -⟩ := e.exists_run ss
  have hdepicts : Builder.Depicts e.analysis.builder (.ofSubmissions ss) r.graph :=
    hgraph ▸ Builder.depicts_build e.analysis.builder ss
  rw [hrun]
  refine ⟨{ analysis := rfl, lists := Descriptors.lists_knownFrom ss,
            labelled := Project.labelled_ofSubmissions ss, internal := hp, last := ?_ },
    r, rfl, hdepicts, hreport⟩
  intro r' hr'
  rwa [← Option.some.inj hr']

/-- Building again answers rightly, whatever the last result was. -/
theorem Knows.answers_rebuild (h : Knows a p e) : Answers a p e.rebuild := by
  have heq := h.lists.ofSubmissions_eq h.labelled
  have hrun : Answers a (.ofSubmissions e.descriptors.submissions) e.rebuild :=
    answers_run h.analysis (heq ▸ h.internal)
  rwa [heq] at hrun

/-- Another descriptor of a file, or a new one. -/
theorem Knows.set (h : Knows a p e) {id : ModuleId} {d : Descriptor}
    (hpath : idOfPath? d.path = some id) (hid : Import.isExternalId id = false) :
    Knows a (p.insert id d) { e with descriptors := e.descriptors.set id d } := by
  refine ⟨h.analysis, h.lists.set id d, h.labelled.insert hpath, fun x hx => ?_⟩
  rw [Tables.mem_insert] at hx
  rcases hx with rfl | hx
  · exact hid
  · exact h.internal x hx

theorem Knows.erase (h : Knows a p e) (id : ModuleId) :
    Knows a (p.erase id) { e with descriptors := e.descriptors.erase id } :=
  ⟨h.analysis, h.lists.erase id, h.labelled.erase id,
    fun x hx => h.internal x (ExtTreeMap.mem_erase.1 hx).2⟩

/-- Working out one file again answers rightly. -/
theorem Keeps.answers_amend (h : Keeps a p e) {id : ModuleId} {d : Descriptor} {s : Submission}
    (hs : s.usable? = some (id, d)) (hmem : id ∈ p) {last : Result} (hlast : e.last = some last)
    (hknows : Knows a (p.insert id d) { e with descriptors := e.descriptors.set id d }) :
    Answers a (p.insert id d)
      (amend { e with descriptors := e.descriptors.set id d } last s id) := by
  obtain ⟨g, skipped, hupdate, hdepicts⟩ := (h.last last hlast).update h.internal hmem hs
  obtain rfl := h.analysis
  obtain ⟨r, hr, rfl, hreport, -⟩ :=
    e.analysis.exists_amended id hupdate hdepicts.closed
  rw [amend, hr]
  refine ⟨⟨⟨rfl, hknows.lists, hknows.labelled, hknows.internal⟩, ?_⟩, r, rfl, hdepicts, hreport⟩
  intro r' hr'
  obtain rfl := Option.some.inj hr'
  exact hdepicts

/-- One call keeps the engine in step with the project, and answers rightly. -/
theorem Keeps.answers (h : Keeps a p e) {c : Call} (hc : c.Admissible) :
    Answers a (c.advance p) (c.perform e) := by
  cases c with
  | run ss =>
      exact answers_run h.analysis (.ofSubmissions hc)
  | update s =>
      obtain ⟨id, hsid, hid⟩ := hc
      obtain ⟨⟨x, d⟩, hs, rfl⟩ := Option.map_eq_some_iff.1 hsid
      have hpath := (Submission.usable?_eq_some_iff.1 hs).2
      have hknows := h.toKnows.set hpath hid
      rw [Call.perform, Call.advance, hs, update, Builder.unitOf_of_usable? hs]
      dsimp only
      split
      · rename_i last hlast
        by_cases hnew : (e.descriptors.lookup x).isNone = true
        · rw [if_pos hnew]
          exact hknows.answers_rebuild
        · rw [if_neg hnew]
          exact h.answers_amend hs (h.lists.mem_of_lookup hnew) hlast hknows
      · exact hknows.answers_rebuild
  | remove path => exact (h.toKnows.erase (Path.canonical path)).answers_rebuild
  | rebuild => exact h.toKnows.answers_rebuild

/-- A history of calls keeps the engine in step with the project. -/
theorem Keeps.after (h : Keeps a p e) {calls : List Call} (hc : ∀ c ∈ calls, c.Admissible) :
    Keeps a (calls.foldl Call.advance p) (e.after calls) := by
  induction calls generalizing p e with
  | nil => exact h
  | cons c rest ih =>
      have hnext := (h.answers (hc c List.mem_cons_self)).keeps
      exact ih hnext fun d hd => hc d (List.mem_cons_of_mem c hd)

theorem keeps_fresh (a : Analysis) : Keeps a ∅ (fresh a) where
  analysis := rfl
  lists := ⟨List.nodup_nil, by simp [fresh]⟩
  labelled := fun _ _ h => by simp at h
  internal := fun _ h => absurd h ExtTreeMap.not_mem_empty
  last := fun _ h => by cases h

end Steps

/-- **Incremental analysis is a full run.**  Call an engine as often as you like,
in any order.  Provided that every update is of a file and that no file has the
id of a package, the last call does not fail, and its graph and its violations
are those that a fresh engine finds when it runs once on the descriptors that
are current by then, in whatever order. -/
theorem answer_eq_fresh_run (a : Analysis) (calls : List Call) (last : Call)
    (hcalls : ∀ c ∈ calls ++ [last], c.Admissible) {values : List Submission}
    (hvalues : values.Perm ((calls ++ [last]).foldl Call.advance ∅).submissions) :
    ∃ r full, (last.perform ((fresh a).after calls)).1 = .ok r ∧
      ((fresh a).run values).1 = .ok full ∧
      r.graph = full.graph ∧ r.violations = full.violations := by
  have hkeeps := (keeps_fresh a).after fun c hc => hcalls c (List.mem_append_left _ hc)
  have hlast := hkeeps.answers (hcalls last (List.mem_append_right _ List.mem_cons_self))
  rw [List.foldl_append, List.foldl_cons, List.foldl_nil] at hvalues
  generalize (calls.foldl Call.advance ∅ : Project) = p at hlast hvalues
  have hproject : Project.ofSubmissions values = last.advance p := by
    refine Project.ofSubmissions_eq hlast.keeps.labelled fun s => ?_
    rw [hvalues.mem_iff, Project.submissions, List.mem_map]
    simp only [Prod.exists, ExtTreeMap.mem_toList_iff_getElem?_eq_some, eq_comm]
  have hfull : Answers a (.ofSubmissions values) ((fresh a).run values) :=
    answers_run (keeps_fresh a).analysis (hproject ▸ hlast.keeps.internal)
  obtain ⟨r, hr, hdepicts, hreport⟩ := hlast.result
  obtain ⟨full, hrun, hdepicts', hreport'⟩ := hfull.result
  have hgraph : r.graph = full.graph := hdepicts.unique (hproject ▸ hdepicts')
  refine ⟨r, full, hr, hrun, hgraph, ?_⟩
  rw [hgraph, hreport'] at hreport
  exact (Except.ok.inj hreport).symm

/-- One file is added, one changed and one removed; the run is on the two files that are
left. -/
theorem answer_eq_fresh_run_of_three_files :
    let a : Analysis := ⟨Check.all, ⟨Classifier.default.classify, []⟩, .default .default, .error⟩
    let file (path target : String) : Submission :=
      .descriptor ⟨.str path, .items [.record (.str target) (.at { file := path })], .null⟩
    let calls : List Call := [
      .run [file "lib/data/a.dart" "package:http/http.dart", file "lib/b.dart" "data/a.dart"],
      .update (file "lib/c.dart" "b.dart"),
      .update (file "lib/data/a.dart" "../c.dart")]
    let last : Call := .remove "lib/b.dart"
    ∃ r full, (last.perform ((fresh a).after calls)).1 = .ok r ∧
      ((fresh a).run [file "lib/data/a.dart" "../c.dart", file "lib/c.dart" "b.dart"]).1 =
        .ok full ∧
      r.graph = full.graph ∧ r.violations = full.violations := by
  intro a file calls last
  have hcalls : ∀ c ∈ calls ++ [last], c.Admissible := by decide +kernel
  refine answer_eq_fresh_run a calls last hcalls ?_
  exact List.Perm.swap _ _ _

end Engine

end LayerLint
