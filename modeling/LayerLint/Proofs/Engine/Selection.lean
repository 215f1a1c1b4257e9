import LayerLint.Proofs.Engine.Defaults
import LayerLint.Proofs.Engine.Findings

/-!
# Choosing checks

An analysis may make any of the three checks, in any order and as often as one
likes.  Layering and boundary share one pass over the edges, and of the three
outputs one report is made; still no check takes part in what another one finds.
What there is to find of a kind is there whether its check is made or not, so
choosing checks leaves the kinds of the others out of the report, and nothing
else.

This rests on a fact about graphs that stand in order.  When every edge stands
under its own ends, the kind and the modules of a violation tell it from all
others: a kind has one violation for an edge and one for a cycle, and cycles are
found once each.  So no violation hides another one, and no two tie.

## Main results

* `separate_detects`: no two violations of one kind are at the same modules.
* `finds_iff`: a check finds what there is to find of its kind.
* `mem_report_iff`, `ascending_report`: the members and the order of a report.
* `report_eq_selection`: the report of some checks is that of all, less the kinds
  of the others.
-/

namespace LayerLint

/-! ## The modules of a violation -/

namespace ModuleGraph

theorem modules_of_violation? {g : ModuleGraph} {severity : Severity} {c : Cycle} {v : Violation}
    (h : Cycle.violation? g severity c = .ok v) : v.modules = c := by
  cases c with
  | nil => cases h
  | cons first rest =>
      rw [Cycle.violation?] at h
      split at h
      · cases h
      · cases h
        rfl

end ModuleGraph

namespace Analysis

variable {a : Analysis} {g : ModuleGraph} {v : Violation}

/-! ## What there is to find -/

/-- The violation is one of a cycle or of an edge, whether the check for it is made or
not. -/
def Detects (a : Analysis) (g : ModuleGraph) (v : Violation) : Prop :=
  (∃ c ∈ g.findCycles [], Cycle.violation? g a.cycleSeverity c = .ok v) ∨
    ∃ e source target, g.Joins e source target ∧ a.rules.rule? v.kind e source target = some v

theorem Finds.detects (h : a.Finds g v) : a.Detects g v := by
  rcases h with ⟨-, hcycle⟩ | ⟨-, e, source, target, hjoins, hv⟩
  · exact Or.inl hcycle
  · exact Or.inr ⟨e, source, target, hjoins, (Boundary.Rules.mem_violationsOf_iff.1 hv).2⟩

/-- The kind and the modules tell a violation from all others. -/
theorem separate_detects (a : Analysis) (hg : g.Labelled) : Violation.Separate (a.Detects g) := by
  intro v w hv hw hkind hmodules
  rcases hv with ⟨c, -, hc⟩ | ⟨e, source, target, he, hrule⟩
  · rcases hw with ⟨d, -, hd⟩ | ⟨f, source', target', hf, hrule'⟩
    · rw [ModuleGraph.modules_of_violation? hc, ModuleGraph.modules_of_violation? hd] at hmodules
      rw [hmodules, hd] at hc
      exact (Except.ok.inj hc).symm
    · have hne := Boundary.Rules.kind_ne_cycle hrule'
      exact absurd (hkind.symm.trans (ModuleGraph.of_violation? hc).1) hne
  · rcases hw with ⟨d, -, hd⟩ | ⟨f, source', target', hf, hrule'⟩
    · have hne := Boundary.Rules.kind_ne_cycle hrule
      exact absurd (hkind.trans (ModuleGraph.of_violation? hd).1) hne
    · rw [(Boundary.Rules.place_of_rule? hrule).1, (Boundary.Rules.place_of_rule? hrule').1,
        List.cons.injEq, List.cons.injEq] at hmodules
      obtain rfl := hg.eq_of_ends he.mem hf.mem hmodules.1 hmodules.2.1
      obtain rfl := Option.some.inj (he.source.symm.trans hf.source)
      obtain rfl := Option.some.inj (he.target.symm.trans hf.target)
      rw [hkind, hrule'] at hrule
      exact (Option.some.inj hrule).symm

/-- A rule about edges is applied just when the check for its kind is made. -/
theorem Coherent.applies_iff (ha : a.Coherent) {kind : ViolationKind} :
    a.rules.applies kind = true ↔ kind ≠ .cycle ∧ ∃ c ∈ a.checks, c.kind = kind := by
  have hmade (c : Check) : (∃ d ∈ a.checks, d.kind = c.kind) ↔ c ∈ a.checks := by
    constructor
    · rintro ⟨d, hd, hkind⟩
      have hdc : d = c := by revert hkind; cases c <;> cases d <;> decide
      exact hdc ▸ hd
    · exact fun hc => ⟨c, hc, rfl⟩
  cases kind with
  | layer => simp [Boundary.Rules.applies, ha.layers, ← hmade .layering, Check.kind]
  | boundary => simp [Boundary.Rules.applies, ha.leakage, ← hmade .boundary, Check.kind]
  | cycle => simp [Boundary.Rules.applies]

/-- The checks that are made find what there is to find of their kinds. -/
theorem finds_iff (ha : a.Coherent) :
    a.Finds g v ↔ (∃ c ∈ a.checks, c.kind = v.kind) ∧ a.Detects g v := by
  constructor
  · intro h
    refine ⟨?_, h.detects⟩
    rcases h with ⟨hmade, c, -, hc⟩ | ⟨-, e, source, target, -, hv⟩
    · exact ⟨.cycles, hmade, (ModuleGraph.of_violation? hc).1.symm⟩
    · exact (ha.applies_iff.1 (Boundary.Rules.mem_violationsOf_iff.1 hv).1).2
  · rintro ⟨⟨c, hc, hkind⟩, ⟨cycle, hmem, hcycle⟩ | ⟨e, source, target, hjoins, hrule⟩⟩
    · rw [(ModuleGraph.of_violation? hcycle).1] at hkind
      cases c with
      | cycles => exact Or.inl ⟨hc, cycle, hmem, hcycle⟩
      | layering => cases hkind
      | boundary => cases hkind
    · have hedge : v.kind ≠ .cycle := Boundary.Rules.kind_ne_cycle hrule
      have hv : v ∈ a.rules.violationsOf e source target :=
        Boundary.Rules.mem_violationsOf_iff.2
          ⟨ha.applies_iff.2 ⟨hedge, c, hc, hkind⟩, hrule⟩
      refine Or.inr ⟨?_, e, source, target, hjoins, hv⟩
      cases c with
      | cycles => exact absurd hkind.symm hedge
      | layering => exact Or.inl hc
      | boundary => exact Or.inr hc

/-! ## The report -/

/-- No two violations among the outputs of the checks are of one kind at the same
modules. -/
theorem separate_outputs (hlabelled : g.Labelled) {found : List (List Violation)}
    (h : a.outputs g false a.checks = .ok found) : Violation.Separate (· ∈ found.flatten) :=
  fun v w hv hw =>
    a.separate_detects hlabelled v w (of_mem_outputs h hv).detects (of_mem_outputs h hw).detects

/-- Nothing that the checks find gets lost among their outputs. -/
theorem mem_flatten_outputs_iff (hclosed : g.Closed) (hlabelled : g.Labelled)
    {found : List (List Violation)} (h : a.outputs g false a.checks = .ok found) :
    v ∈ found.flatten ↔ a.Finds g v := by
  refine ⟨of_mem_outputs h, fun hv => ?_⟩
  obtain ⟨w, hw, hkey⟩ := exists_mem_outputs hclosed h hv
  rw [Violation.key, Violation.key, Violation.Key.mk.injEq] at hkey
  rwa [← a.separate_detects hlabelled w v (of_mem_outputs h hw).detects hv.detects hkey.1
    hkey.2.1]

/-- The report has what there is to find and is not switched off, and nothing else. -/
theorem mem_report_iff (hclosed : g.Closed) (hlabelled : g.Labelled)
    {violations : List Violation} (h : a.report g = .ok violations) :
    v ∈ violations ↔ a.Finds g v ∧ v.severity ≠ .none := by
  obtain ⟨found, hfound, h⟩ := bind_eq_ok_iff.1 h
  cases h
  rw [Report.mem_merge_iff_of_separate (separate_outputs hlabelled hfound),
    mem_flatten_outputs_iff hclosed hlabelled hfound]

theorem ascending_report (hlabelled : g.Labelled) {violations : List Violation}
    (h : a.report g = .ok violations) : Violation.Ascending violations := by
  obtain ⟨found, hfound, h⟩ := bind_eq_ok_iff.1 h
  cases h
  exact Report.ascending_merge (separate_outputs hlabelled hfound)

theorem severity_ne_none_of_mem_report {violations : List Violation}
    (h : a.report g = .ok violations) (hv : v ∈ violations) : v.severity ≠ .none := by
  obtain ⟨found, -, h⟩ := bind_eq_ok_iff.1 h
  cases h
  exact (Report.of_mem_merge hv).2

/-! ## Other checks -/

/-- The analysis with other checks in the place of its own. -/
def withChecks (a : Analysis) (checks : List Check) : Analysis :=
  { a with
    checks := checks
    rules := { a.rules with
      checksLayers := checks.contains .layering
      checksLeakage := checks.contains .boundary } }

theorem coherent_withChecks (a : Analysis) (checks : List Check) :
    (a.withChecks checks).Coherent :=
  ⟨rfl, rfl⟩

theorem Coherent.withChecks_checks (ha : a.Coherent) : a.withChecks a.checks = a := by
  rw [withChecks, ← ha.layers, ← ha.leakage]

theorem withChecks_withChecks (a : Analysis) (checks more : List Check) :
    (a.withChecks checks).withChecks more = a.withChecks more := rfl

/-- What there is to find does not depend on the checks. -/
theorem detects_withChecks_iff {checks : List Check} :
    (a.withChecks checks).Detects g v ↔ a.Detects g v := by
  have hrule : (a.withChecks checks).rules.rule? v.kind = a.rules.rule? v.kind := by
    cases v.kind <;> rfl
  rw [Detects, Detects, hrule]
  rfl

/-- The report of some checks is that of all checks, less the kinds of the others. -/
theorem report_withChecks (ha : a.Coherent) (hall : ∀ c : Check, c ∈ a.checks)
    (hclosed : g.Closed) (hlabelled : g.Labelled) {all : List Violation}
    (h : a.report g = .ok all) (checks : List Check) :
    (a.withChecks checks).report g =
      .ok (all.filter fun v => checks.any fun c => c.kind = v.kind) := by
  obtain ⟨found, hfound, h⟩ := bind_eq_ok_iff.1 h
  cases h
  obtain ⟨fewer, hfewer⟩ := (a.withChecks checks).exists_outputs hclosed false checks
  rw [report, show (a.withChecks checks).checks = checks from rfl, hfewer]
  refine congrArg Except.ok (Report.merge_eq_filter (separate_outputs hlabelled hfound) ?_)
  intro v
  have hmade : ∃ c ∈ a.checks, c.kind = v.kind := by
    cases v.kind with
    | layer => exact ⟨.layering, hall _, rfl⟩
    | cycle => exact ⟨.cycles, hall _, rfl⟩
    | boundary => exact ⟨.boundary, hall _, rfl⟩
  rw [mem_flatten_outputs_iff hclosed hlabelled hfewer,
    mem_flatten_outputs_iff hclosed hlabelled hfound, finds_iff ha,
    finds_iff (a.coherent_withChecks checks), detects_withChecks_iff]
  simp [withChecks, hmade, and_comm]

/-! ## Engines with other checks -/

section Configured

variable {config : Config} {o : Overrides}

theorem coherent_of_ofConfig (h : ofConfig config o = .ok a) : a.Coherent := by
  obtain ⟨_, _, _, _, _, _, _, -, -, -, -, -, -, -, rfl⟩ := ofConfig_eq_ok_iff.1 h
  exact ⟨rfl, rfl⟩

/-- A configuration sets up an analysis with other checks just as well. -/
theorem ofConfig_withChecks (h : ofConfig config o = .ok a) (checks : List Check) :
    ofConfig config { o with checks := some checks } = .ok (a.withChecks checks) := by
  obtain ⟨_, policy, classifier, layer, leakage, names, cycle, -, hparts⟩ :=
    ofConfig_eq_ok_iff.1 h
  obtain ⟨hpolicy, hclassifier, hlayer, hleakage, hnames, hcycle, rfl⟩ := hparts
  exact ofConfig_eq_ok_iff.2 ⟨checks, policy, classifier, layer, leakage, names, cycle, rfl,
    hpolicy, hclassifier, hlayer, hleakage, hnames, hcycle, rfl⟩

/-- The checks that stand in for those of the configuration are made. -/
theorem checks_eq_of_ofConfig (h : ofConfig config o = .ok a) {checks : List Check}
    (hchecks : o.checks = some checks) : a.checks = checks := by
  have hsame : { o with checks := some checks } = o := by rw [← hchecks]
  have hagain := ofConfig_withChecks h checks
  rw [hsame, h] at hagain
  rw [Except.ok.inj hagain]
  rfl

/-- **Choosing checks is leaving out kinds.**  Take an engine that a configuration sets
up, with checks of its own or with those of the configuration, in whatever order and
with whatever repetitions.  Its configuration sets up an engine with all checks as well.
On every graph that is built, the report of the one is the report of the other without
the violations whose kind belongs to none of its checks.  Both strictly ascend in the
order of reports, and neither has a violation that is switched off. -/
theorem report_eq_selection (h : ofConfig config o = .ok a) (b : Builder)
    (ss : List Submission) :
    ∃ full all chosen,
      ofConfig config { o with checks := some Check.all } = .ok full ∧
      full.report (b.build ss) = .ok all ∧
      a.report (b.build ss) = .ok chosen ∧
      chosen = all.filter (fun v => a.checks.any fun c => c.kind = v.kind) ∧
      (∀ checks ∈ o.checks, a.checks = checks) ∧
      (∀ report ∈ [all, chosen],
        Violation.Ascending report ∧ ∀ v ∈ report, v.severity ≠ .none) := by
  have hdepicts := Builder.depicts_build b ss
  obtain ⟨all, hall⟩ := (a.withChecks Check.all).exists_report hdepicts.closed
  have hmade : ∀ c : Check, c ∈ Check.all := by
    intro c
    cases c <;> decide
  have hchosen := report_withChecks (a.coherent_withChecks _) hmade hdepicts.closed
    hdepicts.labelled hall a.checks
  rw [withChecks_withChecks, (coherent_of_ofConfig h).withChecks_checks] at hchosen
  refine ⟨_, all, _, ofConfig_withChecks h Check.all, hall, hchosen, rfl,
    fun checks hchecks => checks_eq_of_ofConfig h hchecks, ?_⟩
  · rw [List.forall_mem_cons, List.forall_mem_singleton]
    exact ⟨⟨ascending_report hdepicts.labelled hall,
      fun _ => severity_ne_none_of_mem_report hall⟩,
      ascending_report hdepicts.labelled hchosen,
      fun _ => severity_ne_none_of_mem_report hchosen⟩

/-- The search for cycles, asked for twice, on two files that import each other. -/
theorem report_eq_selection_of_two_searches :
    let o : Overrides := { checks := some [.cycles, .cycles] }
    let a := (standard .default).withChecks [.cycles, .cycles]
    let file (path target : String) : Submission :=
      .descriptor ⟨.str path, .items [.record (.str target) (.at { file := path })], .null⟩
    let ss := [file "lib/domain/a.dart" "../data/b.dart", file "lib/data/b.dart" "../domain/a.dart"]
    ofConfig .default o = .ok a ∧
    ∃ full all chosen,
      ofConfig .default { o with checks := some Check.all } = .ok full ∧
      full.report (a.builder.build ss) = .ok all ∧
      a.report (a.builder.build ss) = .ok chosen ∧
      chosen = all.filter (fun v => a.checks.any fun c => c.kind = v.kind) ∧
      (∀ checks ∈ o.checks, a.checks = checks) ∧
      (∀ report ∈ [all, chosen],
        Violation.Ascending report ∧ ∀ v ∈ report, v.severity ≠ .none) := by
  intro o a file ss
  have hall := ofConfig_default none
  rw [Option.getD_none] at hall
  have h : ofConfig .default o = .ok a := ofConfig_withChecks hall [.cycles, .cycles]
  exact ⟨h, report_eq_selection h a.builder ss⟩

end Configured

end Analysis

end LayerLint
