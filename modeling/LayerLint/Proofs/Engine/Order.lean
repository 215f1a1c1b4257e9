import LayerLint.Proofs.Engine.Analysis

/-!
# The order of submissions

Submissions come in whatever order a host finds its files in.  As long as none
of them describes a file that another one describes as well, nothing depends on
it: which submissions count is then decided for each of them alone, so a list in
another order declares the same project.  A project is depicted by one graph,
and a report is worked out from the graph.  Only the messages about what was
left out come in the order of the submissions.

With two descriptors of one file the order would matter, because the first one
counts.

## Main results

* `selection_of_distinct`: which submissions count when every file is described once.
* `Project.ofSubmissions_of_perm`: another order declares the same project.
* `run_of_perm`: two runs on one list in two orders find the same.
-/

namespace LayerLint

open Std (ExtTreeMap ExtTreeSet)

/-! ## Files that are described once -/

/-- No two of the submissions describe one file. -/
def Submission.Distinct (ss : List Submission) : Prop := (ss.filterMap Submission.id?).Nodup

instance (ss : List Submission) : Decidable (Submission.Distinct ss) :=
  inferInstanceAs (Decidable (ss.filterMap Submission.id?).Nodup)

theorem Submission.Distinct.of_perm {ss tt : List Submission} (h : Distinct ss)
    (hperm : ss.Perm tt) : Distinct tt :=
  (hperm.filterMap id?).nodup_iff.1 h

/-- The set of files seen stays apart from the files of the submissions that follow. -/
private theorem selection_of_distinct_from (ss : List Submission) (seen : ExtTreeSet ModuleId)
    (hdistinct : Submission.Distinct ss) (hnew : ∀ id ∈ ss.filterMap Submission.id?, id ∉ seen) :
    Selection.ofSubmissions seen ss =
      ⟨ss.filterMap Submission.usable?, (ss.filter (·.usable?.isNone)).map .unusable⟩ := by
  induction ss generalizing seen with
  | nil => rfl
  | cons s rest ih =>
      rw [Selection.ofSubmissions]
      cases hs : s.usable? with
      | none =>
          have hid : s.id? = none := by rw [Submission.id?, hs, Option.map_none]
          rw [Submission.Distinct, List.filterMap_cons_none hid] at hdistinct
          rw [List.filterMap_cons_none hid] at hnew
          simp [ih seen hdistinct hnew, hs]
      | some u =>
          obtain ⟨id, d⟩ := u
          have hid : s.id? = some id := by rw [Submission.id?, hs, Option.map_some]
          rw [Submission.Distinct, List.filterMap_cons_some hid, List.nodup_cons] at hdistinct
          rw [List.filterMap_cons_some hid, List.forall_mem_cons] at hnew
          have hrest : ∀ x ∈ rest.filterMap Submission.id?, x ∉ seen.insert id := by
            intro x hx
            rw [ExtTreeSet.mem_insert, Std.LawfulEqCmp.compare_eq_iff_eq, not_or]
            exact ⟨fun heq => hdistinct.1 (heq ▸ hx), hnew.2 x hx⟩
          simp [ih (seen.insert id) hdistinct.2 hrest, hs, hnew.1]

/-- When every file is described once, all descriptors of files count, and what is
refused is of no use. -/
theorem selection_of_distinct {ss : List Submission} (h : Submission.Distinct ss) :
    unitsOf ss = ss.filterMap Submission.usable? ∧
      refusalsOf ss = (ss.filter (·.usable?.isNone)).map .unusable := by
  have heq := selection_of_distinct_from ss ∅ h fun _ _ => ExtTreeSet.not_mem_empty
  rw [selection_eq, Selection.mk.injEq] at heq
  exact heq

/-! ## Another order -/

section Reordered

variable {ss tt : List Submission}

theorem unitsOf_perm (hdistinct : Submission.Distinct ss) (hperm : ss.Perm tt) :
    (unitsOf ss).Perm (unitsOf tt) := by
  rw [(selection_of_distinct hdistinct).1, (selection_of_distinct (hdistinct.of_perm hperm)).1]
  exact hperm.filterMap _

theorem refusalsOf_perm (hdistinct : Submission.Distinct ss) (hperm : ss.Perm tt) :
    (refusalsOf ss).Perm (refusalsOf tt) := by
  rw [(selection_of_distinct hdistinct).2, (selection_of_distinct (hdistinct.of_perm hperm)).2]
  exact (hperm.filter _).map _

/-- Submissions in another order declare the same project. -/
theorem Project.ofSubmissions_of_perm (hdistinct : Submission.Distinct ss)
    (hperm : ss.Perm tt) : Project.ofSubmissions ss = .ofSubmissions tt := by
  refine ExtTreeMap.ext_getElem? fun id => Option.ext fun d => ?_
  rw [getElem?_ofSubmissions, getElem?_ofSubmissions, (unitsOf_perm hdistinct hperm).mem_iff]

/-- Submissions in another order build the same graph. -/
theorem Builder.build_of_perm (b : Builder) (hdistinct : Submission.Distinct ss)
    (hperm : ss.Perm tt) : b.build ss = b.build tt := by
  have hss := b.depicts_build ss
  rw [Project.ofSubmissions_of_perm hdistinct hperm] at hss
  exact hss.unique (b.depicts_build tt)

/-- The messages are the same ones. -/
theorem Builder.skipped_perm (b : Builder) (hdistinct : Submission.Distinct ss)
    (hperm : ss.Perm tt) : (b.surveyAll ss).skipped.Perm (b.surveyAll tt).skipped := by
  rw [Survey.skipped, Survey.skipped, surveyAll_eq, surveyAll_eq]
  refine List.Perm.map _ ?_
  exact (refusalsOf_perm hdistinct hperm).append ((unitsOf_perm hdistinct hperm).flatMap_right _)

end Reordered

namespace Engine

/-- **The order of submissions does not matter.**  Take two engines that are set
up alike, or one at two times, and let each run on the same submissions in an
order of its own.  Provided that no two of them describe one file, neither run
fails, both find the same graph and the same violations in the same order, with
the same numbers, and leave out the same with the same messages. -/
theorem run_of_perm {e e' : Engine} (hsetup : e.analysis = e'.analysis) {ss tt : List Submission}
    (hperm : ss.Perm tt) (hdistinct : Submission.Distinct ss) :
    ∃ r r', (e.run ss).1 = .ok r ∧ (e'.run tt).1 = .ok r' ∧
      r.graph = r'.graph ∧ r.violations = r'.violations ∧
      r.statsTable = r'.statsTable ∧
      Report.countsTable r.violations = Report.countsTable r'.violations ∧
      r.checks = r'.checks ∧ r.skipped.Perm r'.skipped := by
  obtain ⟨r, hrun, hgraph, hreport, hskipped, hchecks⟩ := e.exists_run ss
  obtain ⟨r', hrun', hgraph', hreport', hskipped', hchecks'⟩ := e'.exists_run tt
  have hsame : r.graph = r'.graph := by
    rw [hgraph, hgraph', ← hsetup]
    exact Builder.build_of_perm _ hdistinct hperm
  have hviolations : r.violations = r'.violations := by
    rw [hsame, hsetup, hreport'] at hreport
    exact (Except.ok.inj hreport).symm
  have hmessages : r.skipped.Perm r'.skipped := by
    rw [hskipped, hskipped', ← hsetup]
    exact Builder.skipped_perm _ hdistinct hperm
  refine ⟨r, r', by rw [hrun], by rw [hrun'], hsame, hviolations, ?_, ?_, ?_, hmessages⟩
  · rw [Result.statsTable, Result.statsTable, hsame, hviolations, hmessages.length_eq]
  · rw [hviolations]
  · rw [hchecks, hchecks', hsetup]

/-- Two files and two submissions of no use, in the opposite order. -/
theorem run_of_perm_of_reverse :
    let e : Engine :=
      { analysis := ⟨Check.all, ⟨Classifier.default.classify, []⟩, .default .default, .error⟩ }
    let file (path target : String) : Submission :=
      .descriptor ⟨.str path, .items [.record (.str target) (.at { file := path })], .null⟩
    let ss := [file "lib/domain/a.dart" "../data/b.dart", .other .null,
      file "lib/data/b.dart" "package:http/http.dart", file " " "a"]
    ∃ r r', (e.run ss).1 = .ok r ∧ (e.run ss.reverse).1 = .ok r' ∧
      r.graph = r'.graph ∧ r.violations = r'.violations ∧
      r.statsTable = r'.statsTable ∧
      Report.countsTable r.violations = Report.countsTable r'.violations ∧
      r.checks = r'.checks ∧ r.skipped.Perm r'.skipped := by
  intro e file ss
  have hdistinct : Submission.Distinct ss := by decide +kernel
  exact run_of_perm rfl ss.reverse_perm.symm hdistinct

end Engine

end LayerLint
