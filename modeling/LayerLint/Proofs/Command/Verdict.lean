import LayerLint.Command.Check
import LayerLint.Proofs.Engine.Findings

/-!
# The verdict on a document

A call of `check` that comes to its end answers one question: is there anything
in the graph of the document that the configuration lets fail a run?  The answer
is read off the report, from which repetitions, kinds that are switched off and
mere information have been taken away.  It is the same as if the graph itself
had been asked, check by check: whether it has a directed cycle, and whether
some edge breaks a rule.

The format decides about the text alone.  It plays a part only when an overview
cannot be drawn, which ends the call as a fault.

## Main results

* `Config.describes_of_ofConfig`: the analysis of a configuration makes its
  checks, as seriously as it says.
* `Config.Describes.fails_iff`: the report has a violation that fails a run just
  when the graph fails the configuration.
* `Prepared.usable`: once everything is set up, only an overview can end a call as
  a fault.
* `check_decides`: a call that comes to its end tells whether the graph fails.
-/

namespace LayerLint

/-! ## What a configuration lets fail -/

namespace Config

/-- The check is among those that are enabled. -/
def Enables (config : Config) (check : Check) : Prop :=
  ∃ checks, config.checks = .ok checks ∧ check ∈ checks

/-- Violations of the kind are warnings or errors. -/
def Gates (config : Config) (kind : ViolationKind) : Prop :=
  config.severityFor kind = .ok .warning ∨ config.severityFor kind = .ok .error

/-- The check is enabled, its violations fail a run, and there is one in the graph. -/
def FailsBy (config : Config) (a : Analysis) (g : ModuleGraph) (check : Check) : Prop :=
  config.Enables check ∧ config.Gates check.kind ∧ a.Breaks g check

/-- The graph fails by a cycle or, unless cycles alone may fail a run, by one of its
edges. -/
def Fails (config : Config) (a : Analysis) (g : ModuleGraph) : Prop :=
  config.FailsBy a g .cycles ∨
    (config.failsOnCycleOnly = false ∧
      (config.FailsBy a g .layering ∨ config.FailsBy a g .boundary))

/-- The analysis makes the checks of a configuration, as seriously as it says. -/
structure Describes (config : Config) (a : Analysis) : Prop where
  checks : config.checks = .ok a.checks
  severity : ∀ kind, config.severityFor kind = .ok (a.severityOf kind)
  coherent : a.Coherent

theorem describes_of_ofConfig {config : Config} {a : Analysis}
    (h : Analysis.ofConfig config {} = .ok a) : config.Describes a := by
  obtain ⟨_, _, _, _, _, _, _, hchecks, -, -, hlayer, hleakage, -, hcycle, rfl⟩ :=
    Analysis.ofConfig_eq_ok_iff.1 h
  refine { checks := hchecks, severity := fun kind => ?_, coherent := ⟨rfl, rfl⟩ }
  cases kind with
  | layer => exact hlayer
  | cycle => exact hcycle
  | boundary => exact hleakage

section Described

variable {config : Config} {a : Analysis} {g : ModuleGraph}

theorem Describes.enables_iff (h : config.Describes a) {check : Check} :
    config.Enables check ↔ check ∈ a.checks := by
  rw [Enables, h.checks]
  simp

theorem Describes.gates_iff (h : config.Describes a) {kind : ViolationKind} :
    config.Gates kind ↔ a.severityOf kind ≠ .none ∧ a.severityOf kind ≠ .info := by
  rw [Gates, h.severity]
  cases a.severityOf kind <;> simp

/-- A check fails a graph just when its violations are in the report and are no mere
information. -/
theorem Describes.failsBy_iff (h : config.Describes a) (hg : g.Closed)
    {violations : List Violation} (hreport : a.report g = .ok violations) (check : Check) :
    config.FailsBy a g check ↔ ∃ v ∈ violations, v.severity ≠ .info ∧ v.kind = check.kind := by
  have hfound := Analysis.exists_violation_iff h.coherent hg hreport check
  rw [FailsBy, h.enables_iff, h.gates_iff]
  constructor
  · rintro ⟨henabled, ⟨hnone, hinfo⟩, hbreaks⟩
    obtain ⟨v, hv, hkind⟩ := hfound.2 ⟨henabled, hnone, hbreaks⟩
    refine ⟨v, hv, ?_, hkind⟩
    rwa [Analysis.severity_eq_of_mem_report hreport hv, hkind]
  · rintro ⟨v, hv, hinfo, hkind⟩
    obtain ⟨henabled, hnone, hbreaks⟩ := hfound.1 ⟨v, hv, hkind⟩
    rw [Analysis.severity_eq_of_mem_report hreport hv, hkind] at hinfo
    exact ⟨henabled, ⟨hnone, hinfo⟩, hbreaks⟩

/-- A graph fails just when its report has violations that fail a run. -/
theorem Describes.fails_iff (h : config.Describes a) (hg : g.Closed) {r : Result}
    (hreport : a.report g = .ok r.violations) :
    config.Fails a g ↔ r.failing config.failsOnCycleOnly ≠ [] := by
  have hfailing : r.failing config.failsOnCycleOnly ≠ [] ↔ ∃ v ∈ r.violations,
      v.severity ≠ .info ∧ (config.failsOnCycleOnly = true → v.kind = .cycle) := by
    simp [Result.failing]
  rw [Fails, h.failsBy_iff hg hreport, h.failsBy_iff hg hreport, h.failsBy_iff hg hreport, hfailing]
  constructor
  · rintro (⟨v, hv, hinfo, hkind⟩ | ⟨hall, hedge⟩)
    · exact ⟨v, hv, hinfo, fun _ => hkind⟩
    · have hgate (v : Violation) : config.failsOnCycleOnly = true → v.kind = .cycle := by
        simp [hall]
      rcases hedge with ⟨v, hv, hinfo, -⟩ | ⟨v, hv, hinfo, -⟩
      · exact ⟨v, hv, hinfo, hgate v⟩
      · exact ⟨v, hv, hinfo, hgate v⟩
  · rintro ⟨v, hv, hinfo, hgate⟩
    have hall (hkind : v.kind ≠ .cycle) : config.failsOnCycleOnly = false :=
      Bool.eq_false_iff.2 fun hcycles => hkind (hgate hcycles)
    cases hkind : v.kind with
    | cycle => exact Or.inl ⟨v, hv, hinfo, hkind⟩
    | layer => exact Or.inr ⟨hall (by simp [hkind]), Or.inl ⟨v, hv, hinfo, hkind⟩⟩
    | boundary => exact Or.inr ⟨hall (by simp [hkind]), Or.inr ⟨v, hv, hinfo, hkind⟩⟩

end Described

end Config

/-! ## How a call ends -/

namespace Command

theorem ExitStatus.code_eq_one_iff {s : ExitStatus} : s.code = 1 ↔ s = .failed := by
  cases s <;> simp [code]

theorem ExitStatus.code_eq_zero_iff {s : ExitStatus} : s.code = 0 ↔ s = .passed := by
  cases s <;> simp [code]

namespace Outcome

theorem status_ofFault (log : Log) (f : Fault) : (ofFault log f).status = .unusable := by
  rw [ofFault]
  split <;> rfl

theorem status_ofPrintout (log more : Log) (status : ExitStatus) (p : Printout) :
    (ofPrintout log status more p).status = if p.stop.isNone then status else .unusable := by
  rw [ofPrintout]
  cases p.stop with
  | none => rfl
  | some f => exact status_ofFault log f

end Outcome

/-- What a call of `check` works with, once all of it could be set up. -/
structure Prepared (w : Workplace) (c : CheckCall) where
  config : Config
  submissions : List Submission
  log : Log
  analysis : Analysis
  discovered : Config.discover w c.config c.overrides = .ok config
  loaded : (Subject.file (Path.shown c.descriptors)).load w.files = .ok (submissions, log)
  derived : Analysis.ofConfig config {} = .ok analysis

variable {w : Workplace} {c : CheckCall}

theorem status_check {format : OutputFormat}
    (hformat : OutputFormat.ofName? c.format = some format) :
    (check w c).status = (runCheck w c format).status := by
  rw [check, hformat]
  rfl

theorem exists_format (h : (check w c).status ≠ .unusable) :
    ∃ format, OutputFormat.ofName? c.format = some format := by
  cases hformat : OutputFormat.ofName? c.format with
  | some format => exact ⟨format, rfl⟩
  | none =>
      rw [check, hformat] at h
      exact absurd rfl h

/-- A call that does not end as a fault could set up everything. -/
theorem exists_prepared (h : (check w c).status ≠ .unusable) : Nonempty (Prepared w c) := by
  obtain ⟨format, hformat⟩ := exists_format h
  rw [status_check hformat, runCheck] at h
  split at h
  next => exact absurd (Outcome.status_ofFault _ _) h
  next config hconfig =>
    split at h
    next => exact absurd (Outcome.status_ofFault _ _) h
    next submissions log hload =>
      split at h
      next => exact absurd (Outcome.status_ofFault _ _) h
      next analysis hanalysis =>
        exact ⟨⟨config, submissions, log, analysis, hconfig, hload, hanalysis⟩⟩

namespace Prepared

/-- The graph of the document. -/
def graph (p : Prepared w c) : ModuleGraph := p.analysis.builder.build p.submissions

/-- The same call in another format works with the same. -/
def withFormat (p : Prepared w c) (name : String) : Prepared w { c with format := name } :=
  ⟨p.config, p.submissions, p.log, p.analysis, p.discovered, p.loaded, p.derived⟩

/-- The call analyses its graph, and the result decides how it ends unless the printing
stops. -/
theorem exists_result (p : Prepared w c) {format : OutputFormat}
    (hformat : OutputFormat.ofName? c.format = some format) :
    ∃ r : Result, p.analysis.report p.graph = .ok r.violations ∧
      (check w c).status =
        if (format.printout r).stop.isNone then verdict p.config.failsOnCycleOnly r
        else .unusable := by
  obtain ⟨r, hrun, hgraph, hreport, -⟩ :=
    Engine.exists_run { analysis := p.analysis } p.submissions
  rw [hgraph] at hreport
  refine ⟨r, hreport, ?_⟩
  rw [status_check hformat, runCheck, p.discovered]
  dsimp only
  rw [p.loaded]
  dsimp only
  rw [p.derived]
  dsimp only
  rw [conclude, hrun]
  exact Outcome.status_ofPrintout _ _ _ _

/-- Only the drawing of an overview can end the call as a fault now. -/
theorem usable (p : Prepared w c) {format : OutputFormat}
    (hformat : OutputFormat.ofName? c.format = some format) (hdrawn : format ≠ .overview) :
    (check w c).status ≠ .unusable := by
  obtain ⟨r, -, hstatus⟩ := p.exists_result hformat
  have hstop : (format.printout r).stop = none := by
    cases format with
    | overview => exact absurd rfl hdrawn
    | document => rfl
    | annotations => rfl
    | brief => rfl
  rw [hstatus, hstop, if_pos Option.isNone_none, verdict]
  split <;> simp

/-- A call that comes to its end fails just when the graph fails, and passes otherwise. -/
theorem status_iff (p : Prepared w c) (h : (check w c).status ≠ .unusable) :
    ((check w c).status = .failed ↔ p.config.Fails p.analysis p.graph) ∧
      ((check w c).status = .passed ↔ ¬ p.config.Fails p.analysis p.graph) := by
  obtain ⟨format, hformat⟩ := exists_format h
  obtain ⟨r, hreport, hstatus⟩ := p.exists_result hformat
  have hclosed : p.graph.Closed := (Builder.depicts_build _ _).closed
  have hverdict : (check w c).status = verdict p.config.failsOnCycleOnly r := by
    rw [hstatus] at h ⊢
    split at h
    · exact if_pos ‹_›
    · exact absurd rfl h
  rw [hverdict, (Config.describes_of_ofConfig p.derived).fails_iff hclosed hreport, verdict]
  cases r.failing p.config.failsOnCycleOnly <;> simp

/-- In whatever format, the call ends in the same way, unless an overview cannot be
drawn. -/
theorem status_withFormat (p : Prepared w c) (h : (check w c).status ≠ .unusable)
    (format : OutputFormat) :
    (check w { c with format := format.name }).status = (check w c).status ∨
      (format = .overview ∧ (check w { c with format := format.name }).status = .unusable) := by
  let again := p.withFormat format.name
  by_cases hagain : (check w { c with format := format.name }).status = .unusable
  · refine Or.inr ⟨by_contra fun hdrawn => ?_, hagain⟩
    have hformat : OutputFormat.ofName? format.name = some format := by cases format <;> rfl
    exact again.usable hformat hdrawn hagain
  · left
    by_cases hfails : p.config.Fails p.analysis p.graph
    · rw [(p.status_iff h).1.2 hfails, (again.status_iff hagain).1.2 hfails]
    · rw [(p.status_iff h).2.2 hfails, (again.status_iff hagain).2.2 hfails]

end Prepared

/-- **The exit code is the verdict on the graph.**  A call of `check` that does not end
as a fault has a configuration, a document and an analysis.  It exits with 1 when one of
two things holds of the graph of the document: it has a directed cycle, the search for
cycles is enabled, and cycles are warnings or errors; or cycles are not alone in failing
a run, and some edge breaks the rule of a check that is enabled and whose violations are
warnings or errors.  Otherwise it exits with 0.  In every other format the call exits
with the same code, unless that is an overview which cannot be drawn. -/
theorem check_decides (w : Workplace) (c : CheckCall) (h : (check w c).status ≠ .unusable) :
    ∃ p : Prepared w c,
      ((check w c).status.code = 1 ↔ p.config.Fails p.analysis p.graph) ∧
      ((check w c).status.code = 0 ↔ ¬ p.config.Fails p.analysis p.graph) ∧
      ∀ format : OutputFormat,
        (check w { c with format := format.name }).status.code = (check w c).status.code ∨
          (format = .overview ∧ (check w { c with format := format.name }).status = .unusable) := by
  obtain ⟨p⟩ := exists_prepared h
  refine ⟨p, ?_, ?_, fun format => ?_⟩
  · rw [ExitStatus.code_eq_one_iff]
    exact (p.status_iff h).1
  · rw [ExitStatus.code_eq_zero_iff]
    exact (p.status_iff h).2
  · exact (p.status_withFormat h format).imp_left (congrArg ExitStatus.code)

/-- A document about one file that imports itself, at a workplace without configuration
files. -/
theorem check_decides_of_self_import :
    let text := "[\x7b\"path\": \"a.dart\", " ++
      "\"imports\": [\x7b\"target\": \"a.dart\", \"line\": 1\x7d]\x7d]"
    let w : Workplace := {
      files := fun path =>
        if path = "modules.json" then .file (text.toList.map fun c => UInt8.ofNat c.toNat)
        else .missing
      home := "/home/user"
      work := "/work"
      environment := fun _ => none }
    let c : CheckCall := { descriptors := "modules.json", format := "quiet" }
    (check w c).status ≠ .unusable ∧ (check w c).status.code = 1 ∧
    ∃ p : Prepared w c,
      ((check w c).status.code = 1 ↔ p.config.Fails p.analysis p.graph) ∧
      ((check w c).status.code = 0 ↔ ¬ p.config.Fails p.analysis p.graph) ∧
      ∀ format : OutputFormat,
        (check w { c with format := format.name }).status.code = (check w c).status.code ∨
          (format = .overview ∧
            (check w { c with format := format.name }).status = .unusable) := by
  intro text w c
  -- What the three parts have to yield for the import of the file by itself to fail the call.
  let fails (config : Config) (submissions : List Submission) (analysis : Analysis) : Bool :=
    config.checks.toOption = some Check.all ∧ (config.severityFor .cycle).toOption = some .error ∧
      ((analysis.builder.build submissions).edge? "a.dart" "a.dart").isSome
  have hverdict : (do
      let config ← Config.discover w c.config c.overrides
      let found ← (Subject.file (Path.shown c.descriptors)).load w.files
      let analysis ← Analysis.ofConfig config {}
      return fails config found.1 analysis : Except Fault Bool).toOption = some true := by
    decide +kernel
  obtain ⟨config, hconfig, hrest⟩ := bind_eq_ok_iff.1 (toOption_eq_some_iff.1 hverdict)
  obtain ⟨found, hfound, hrest⟩ := bind_eq_ok_iff.1 hrest
  obtain ⟨analysis, hderived, hfails⟩ := bind_eq_ok_iff.1 hrest
  obtain ⟨hchecks, hseverity, hedge⟩ := of_decide_eq_true (Except.ok.inj hfails)
  let p : Prepared w c :=
    ⟨config, found.1, found.2, analysis, hconfig, hfound, hderived⟩
  have hformat : OutputFormat.ofName? c.format = some .brief := rfl
  have h : (check w c).status ≠ .unusable := p.usable hformat (by decide)
  have harc : p.graph.HasArc ("a.dart", "a.dart") := hedge
  have hwalk : p.graph.IsClosedWalk ["a.dart"] := ⟨by simp, by simpa [Cycle.arcs] using harc⟩
  have hcycles : config.FailsBy analysis p.graph .cycles :=
    ⟨⟨Check.all, toOption_eq_some_iff.1 hchecks, by decide⟩,
      Or.inr (toOption_eq_some_iff.1 hseverity), ["a.dart"], hwalk⟩
  exact ⟨h, ExitStatus.code_eq_one_iff.2 ((p.status_iff h).1.2 (Or.inl hcycles)),
    check_decides w c h⟩

end Command

end LayerLint
