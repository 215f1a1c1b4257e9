import LayerLint.Proofs.Engine.Analysis
import LayerLint.Proofs.Report

/-!
# What an analysis finds

Between the breach of a rule and the report stand several places where a
violation could get lost: checks that are not enabled, the pass over the edges
that layering and boundary share, two rounds of leaving out repetitions, and
kinds that are switched off.  None of them loses the last violation of a kind
without need.  The repetitions that are left out have the key, and so the kind,
of a violation that stays, and how serious a violation is follows from its kind.

## Main results

* `Boundary.Rules.exists_finds_iff`: an edge has a violation of a kind just when
  it breaks the rule for it and that rule is applied.
* `mem_outputs_iff`: every enabled check is made, and no other.
* `exists_violation_iff`: the report has a violation of a kind just when its
  check is enabled, is not switched off, and has a breach to find.
-/

namespace LayerLint

namespace ModuleGraph

/-- The edge is one of the graph and has these two modules at its ends. -/
structure Joins (g : ModuleGraph) (e : Edge) (source target : Module) : Prop where
  mem : e ∈ g.edges
  source : g.module? e.source = some source
  target : g.module? e.target = some target

/-- Some edge between two modules breaks a rule. -/
def Breaches (g : ModuleGraph) (rule : Edge → Module → Module → Option Violation) : Prop :=
  ∃ e source target, g.Joins e source target ∧ (rule e source target).isSome = true

end ModuleGraph

/-! ## The pass over the edges -/

namespace Boundary.Rules

/-- The rule about edges that a kind of violation breaks; cycles are no matter of one
edge. -/
def rule? (r : Rules) : ViolationKind → Edge → Module → Module → Option Violation
  | .layer => r.layering?
  | .boundary => r.leakage?
  | .cycle => fun _ _ _ => none

/-- The rule for a kind is applied. -/
def applies (r : Rules) : ViolationKind → Bool
  | .layer => r.checksLayers
  | .boundary => r.checksLeakage
  | .cycle => false

variable {r : Rules} {g : ModuleGraph} {e : Edge} {source target : Module} {v : Violation}

theorem of_layering? (h : r.layering? e source target = some v) :
    v.kind = .layer ∧ v.severity = r.layerSeverity := by
  rw [layering?] at h
  split at h
  · cases h
    exact ⟨rfl, rfl⟩
  · cases h

theorem of_leakage? (h : r.leakage? e source target = some v) :
    v.kind = .boundary ∧ v.severity = r.leakageSeverity := by
  rw [leakage?] at h
  split at h
  · cases h
    exact ⟨rfl, rfl⟩
  · cases h

theorem kind_of_rule? {kind : ViolationKind} (h : r.rule? kind e source target = some v) :
    v.kind = kind := by
  cases kind with
  | layer => exact (of_layering? h).1
  | boundary => exact (of_leakage? h).1
  | cycle => cases h

/-- A violation of a rule about edges is at the ends of the edge, where the import is
written. -/
theorem place_of_rule? {kind : ViolationKind} (h : r.rule? kind e source target = some v) :
    v.modules = [e.source, e.target] ∧ v.location = e.location := by
  cases kind with
  | layer =>
      rw [rule?, layering?] at h
      split at h
      · cases h
        exact ⟨rfl, rfl⟩
      · cases h
  | boundary =>
      rw [rule?, leakage?] at h
      split at h
      · cases h
        exact ⟨rfl, rfl⟩
      · cases h
  | cycle => cases h

/-- No edge breaks a rule about cycles. -/
theorem kind_ne_cycle {kind : ViolationKind} (h : r.rule? kind e source target = some v) :
    kind ≠ .cycle := by
  rintro rfl
  cases h

/-- The violations of an edge are those of the rule for their kind, where that is
applied. -/
theorem mem_violationsOf_iff :
    v ∈ r.violationsOf e source target ↔
      r.applies v.kind = true ∧ r.rule? v.kind e source target = some v := by
  have hparts : v ∈ r.violationsOf e source target ↔
      (r.checksLayers = true ∧ r.layering? e source target = some v) ∨
        (r.checksLeakage = true ∧ r.leakage? e source target = some v) := by
    rw [violationsOf, List.mem_append]
    cases r.checksLayers <;> cases r.checksLeakage <;> simp
  rw [hparts]
  constructor
  · rintro (⟨happlied, hrule⟩ | ⟨happlied, hrule⟩)
    · rw [(of_layering? hrule).1]
      exact ⟨happlied, hrule⟩
    · rw [(of_leakage? hrule).1]
      exact ⟨happlied, hrule⟩
  · intro h
    cases hkind : v.kind with
    | layer =>
        rw [hkind] at h
        exact Or.inl h
    | boundary =>
        rw [hkind] at h
        exact Or.inr h
    | cycle =>
        rw [hkind] at h
        cases h.1

/-- The violation is one of an edge between two modules. -/
def Finds (r : Rules) (g : ModuleGraph) (v : Violation) : Prop :=
  ∃ e source target, g.Joins e source target ∧ v ∈ r.violationsOf e source target

theorem ends_eq_ok_iff {placed : Edge × Module × Module} (he : e ∈ g.edges) :
    ends g e = .ok placed ↔
      ∃ source target, g.Joins e source target ∧ (e, source, target) = placed := by
  have hjoins (source target : Module) : g.Joins e source target ↔
      g.module? e.source = some source ∧ g.module? e.target = some target :=
    ⟨fun h => ⟨h.source, h.target⟩, fun h => ⟨he, h.1, h.2⟩⟩
  simp only [ends, hjoins]
  cases g.module? e.source <;> cases g.module? e.target <;> simp

/-- The pass finds the violations of the edges without repetitions. -/
theorem exists_check_eq {found : List Violation} (h : r.check g = .ok found) :
    ∃ all, found = Violation.firsts [] all ∧ ∀ v, v ∈ all ↔ r.Finds g v := by
  obtain ⟨placed, hplaced, h⟩ := bind_eq_ok_iff.1 h
  cases h
  refine ⟨_, rfl, fun v => ?_⟩
  rw [List.mem_flatMap]
  constructor
  · rintro ⟨⟨e, source, target⟩, hmem, hv⟩
    obtain ⟨e', he, hends⟩ := (mem_iff_of_mapM_eq_ok hplaced).1 hmem
    obtain ⟨source', target', hjoins, heq⟩ := (ends_eq_ok_iff he).1 hends
    cases heq
    exact ⟨e, source, target, hjoins, hv⟩
  · rintro ⟨e, source, target, hjoins, hv⟩
    have hends : ends g e = .ok (e, source, target) :=
      (ends_eq_ok_iff hjoins.mem).2 ⟨source, target, hjoins, rfl⟩
    exact ⟨(e, source, target), (mem_iff_of_mapM_eq_ok hplaced).2 ⟨e, hjoins.mem, hends⟩, hv⟩

theorem exists_finds_iff {kind : ViolationKind} :
    (∃ v, r.Finds g v ∧ v.kind = kind) ↔ r.applies kind = true ∧ g.Breaches (r.rule? kind) := by
  constructor
  · rintro ⟨v, ⟨e, source, target, hjoins, hv⟩, rfl⟩
    obtain ⟨happlied, hrule⟩ := mem_violationsOf_iff.1 hv
    exact ⟨happlied, e, source, target, hjoins, Option.isSome_of_eq_some hrule⟩
  · rintro ⟨happlied, e, source, target, hjoins, hrule⟩
    obtain ⟨v, hrule⟩ := Option.isSome_iff_exists.1 hrule
    have hkind := kind_of_rule? hrule
    subst hkind
    exact ⟨v, ⟨e, source, target, hjoins, mem_violationsOf_iff.2 ⟨happlied, hrule⟩⟩, rfl⟩

end Boundary.Rules

/-! ## Cycles -/

namespace ModuleGraph

variable {g : ModuleGraph} {severity : Severity} {c : Cycle} {v : Violation}

theorem of_violation? (h : Cycle.violation? g severity c = .ok v) :
    v.kind = .cycle ∧ v.severity = severity := by
  cases c with
  | nil => cases h
  | cons first rest =>
      rw [Cycle.violation?] at h
      split at h
      · cases h
      · cases h
        exact ⟨rfl, rfl⟩

/-- There is a cycle to report just when there is a closed walk. -/
theorem exists_cycleViolation_iff :
    (∃ v, ∃ c ∈ g.findCycles [], Cycle.violation? g severity c = .ok v) ↔
      ∃ walk, g.IsClosedWalk walk := by
  constructor
  · rintro ⟨v, c, hc, -⟩
    exact ⟨c, (isSimpleCycle_of_mem_findCycles hc).toIsClosedWalk⟩
  · rintro ⟨walk, hwalk⟩
    obtain ⟨c, hc, -⟩ := hwalk.exists_shared_arc []
    obtain ⟨v, hv, -⟩ :=
      exists_violation? severity (isSimpleCycle_of_mem_findCycles hc).toIsClosedWalk
    exact ⟨v, c, hc, hv⟩

end ModuleGraph

/-! ## All checks -/

namespace Analysis

/-- How serious the violations of a kind are. -/
def severityOf (a : Analysis) : ViolationKind → Severity
  | .layer => a.rules.layerSeverity
  | .boundary => a.rules.leakageSeverity
  | .cycle => a.cycleSeverity

/-- The rules about edges that are applied are those whose checks are enabled. -/
structure Coherent (a : Analysis) : Prop where
  layers : a.rules.checksLayers = a.checks.contains .layering
  leakage : a.rules.checksLeakage = a.checks.contains .boundary

/-- There is something in the graph for a check to find. -/
def Breaks (a : Analysis) (g : ModuleGraph) : Check → Prop
  | .layering => g.Breaches a.rules.layering?
  | .boundary => g.Breaches a.rules.leakage?
  | .cycles => ∃ walk, g.IsClosedWalk walk

/-- The violation is one of a cycle or of an edge, and the check for it is made. -/
def Finds (a : Analysis) (g : ModuleGraph) (v : Violation) : Prop :=
  (.cycles ∈ a.checks ∧ ∃ c ∈ g.findCycles [], Cycle.violation? g a.cycleSeverity c = .ok v) ∨
    ((.layering ∈ a.checks ∨ .boundary ∈ a.checks) ∧ a.rules.Finds g v)

variable {a : Analysis} {g : ModuleGraph} {v : Violation}

/-- The cycles are searched when that check is enabled, and the edges are gone through
when one of the others is and they were not gone through before. -/
theorem mem_outputs_iff {edgesChecked : Bool} {checks : List Check}
    {found : List (List Violation)} (h : a.outputs g edgesChecked checks = .ok found) :
    v ∈ found.flatten ↔
      (.cycles ∈ checks ∧ ∃ cycles, g.cycleViolations a.cycleSeverity = .ok cycles ∧ v ∈ cycles) ∨
      (edgesChecked = false ∧ (.layering ∈ checks ∨ .boundary ∈ checks) ∧
        ∃ edges, a.rules.check g = .ok edges ∧ v ∈ edges) := by
  induction checks generalizing edgesChecked found with
  | nil =>
      cases h
      simp
  | cons check rest ih =>
      -- Layering and boundary are one case: they share the pass over the edges.
      have hedges (h : (if edgesChecked then a.outputs g true rest
          else do
            let edges ← a.rules.check g
            return edges :: (← a.outputs g true rest)) = .ok found) :
          v ∈ found.flatten ↔
            (.cycles ∈ rest ∧
              ∃ cycles, g.cycleViolations a.cycleSeverity = .ok cycles ∧ v ∈ cycles) ∨
            (edgesChecked = false ∧ ∃ edges, a.rules.check g = .ok edges ∧ v ∈ edges) := by
        cases edgesChecked with
        | true =>
            rw [ih h]
            simp
        | false =>
            obtain ⟨edges, hfound, h⟩ := bind_eq_ok_iff.1 h
            obtain ⟨more, hmore, h⟩ := bind_eq_ok_iff.1 h
            cases h
            rw [List.flatten_cons, List.mem_append, ih hmore]
            simp [hfound, or_comm]
      cases check with
      | cycles =>
          obtain ⟨cycles, hfound, h⟩ := bind_eq_ok_iff.1 h
          obtain ⟨more, hmore, h⟩ := bind_eq_ok_iff.1 h
          cases h
          rw [List.flatten_cons, List.mem_append, ih hmore]
          simp only [hfound, Except.ok.injEq, exists_eq_left', List.mem_cons, true_or, true_and,
            reduceCtorEq, false_or]
          rw [← or_assoc, or_iff_left_of_imp And.right]
      | layering =>
          rw [hedges h]
          simp
      | boundary =>
          rw [hedges h]
          simp

theorem of_mem_outputs {found : List (List Violation)}
    (h : a.outputs g false a.checks = .ok found) (hv : v ∈ found.flatten) : a.Finds g v := by
  rcases (mem_outputs_iff h).1 hv with
    ⟨henabled, cycles, hcycles, hmem⟩ | ⟨-, henabled, edges, hedges, hmem⟩
  · exact Or.inl ⟨henabled, (mem_iff_of_mapM_eq_ok hcycles).1 hmem⟩
  · obtain ⟨all, rfl, hall⟩ := Boundary.Rules.exists_check_eq hedges
    exact Or.inr ⟨henabled, (hall v).1 ((Violation.firsts_sublist _ _).mem hmem)⟩

/-- Of what there is to find, the key at least is among the outputs. -/
theorem exists_mem_outputs (hg : g.Closed) {found : List (List Violation)}
    (h : a.outputs g false a.checks = .ok found) (hv : a.Finds g v) :
    ∃ w ∈ found.flatten, w.key = v.key := by
  rcases hv with ⟨henabled, hcycle⟩ | ⟨henabled, hedge⟩
  · obtain ⟨cycles, hcycles⟩ := exists_cycleViolations g a.cycleSeverity
    have hmem : v ∈ cycles := (mem_iff_of_mapM_eq_ok hcycles).2 hcycle
    exact ⟨v, (mem_outputs_iff h).2 (Or.inl ⟨henabled, cycles, hcycles, hmem⟩), rfl⟩
  · obtain ⟨edges, hedges⟩ := a.rules.exists_check hg
    obtain ⟨all, rfl, hall⟩ := Boundary.Rules.exists_check_eq hedges
    obtain ⟨w, hw, hkey⟩ := Violation.exists_mem_firsts ((hall v).2 hedge)
    exact ⟨w, (mem_outputs_iff h).2 (Or.inr ⟨rfl, henabled, _, hedges, hw⟩), hkey⟩

theorem Finds.severity_eq (h : a.Finds g v) : v.severity = a.severityOf v.kind := by
  rcases h with ⟨-, c, -, hcycle⟩ | ⟨-, e, source, target, -, hv⟩
  · obtain ⟨hkind, hseverity⟩ := ModuleGraph.of_violation? hcycle
    rw [hkind, hseverity]
    rfl
  · obtain ⟨-, hrule⟩ := Boundary.Rules.mem_violationsOf_iff.1 hv
    cases hkind : v.kind with
    | layer =>
        rw [hkind] at hrule
        exact (Boundary.Rules.of_layering? hrule).2
    | boundary =>
        rw [hkind] at hrule
        exact (Boundary.Rules.of_leakage? hrule).2
    | cycle =>
        rw [hkind] at hrule
        cases hrule

theorem exists_finds_iff (ha : a.Coherent) (c : Check) :
    (∃ v, a.Finds g v ∧ v.kind = c.kind) ↔ c ∈ a.checks ∧ a.Breaks g c := by
  have hparts : (∃ v, a.Finds g v ∧ v.kind = c.kind) ↔
      (.cycles ∈ a.checks ∧ c.kind = .cycle ∧ ∃ walk, g.IsClosedWalk walk) ∨
        ((.layering ∈ a.checks ∨ .boundary ∈ a.checks) ∧ a.rules.applies c.kind = true ∧
          g.Breaches (a.rules.rule? c.kind)) := by
    rw [← Boundary.Rules.exists_finds_iff, ← ModuleGraph.exists_cycleViolation_iff]
    constructor
    · rintro ⟨v, ⟨henabled, cycle, hc, hcycle⟩ | ⟨henabled, hedge⟩, hkind⟩
      · exact Or.inl ⟨henabled, hkind ▸ (ModuleGraph.of_violation? hcycle).1, v, cycle, hc, hcycle⟩
      · exact Or.inr ⟨henabled, v, hedge, hkind⟩
    · rintro (⟨henabled, hkind, v, cycle, hc, hcycle⟩ | ⟨henabled, v, hedge, hkind⟩)
      · exact ⟨v, Or.inl ⟨henabled, cycle, hc, hcycle⟩,
          (ModuleGraph.of_violation? hcycle).1.trans hkind.symm⟩
      · exact ⟨v, Or.inr ⟨henabled, hedge⟩, hkind⟩
  rw [hparts]
  cases c with
  | cycles => simp [Check.kind, Boundary.Rules.applies, Breaks]
  | layering =>
      simp only [Check.kind, Boundary.Rules.applies, Boundary.Rules.rule?, Breaks, ha.layers,
        List.contains_iff_mem, reduceCtorEq, false_and, and_false, false_or]
      exact ⟨fun h => h.2, fun h => ⟨Or.inl h.1, h⟩⟩
  | boundary =>
      simp only [Check.kind, Boundary.Rules.applies, Boundary.Rules.rule?, Breaks, ha.leakage,
        List.contains_iff_mem, reduceCtorEq, false_and, and_false, false_or]
      exact ⟨fun h => h.2, fun h => ⟨Or.inr h.1, h⟩⟩

/-- The report has a violation of a kind just when the check for it is enabled, the kind
is not switched off, and the graph has something for the check to find. -/
theorem exists_violation_iff (ha : a.Coherent) (hg : g.Closed) {violations : List Violation}
    (h : a.report g = .ok violations) (c : Check) :
    (∃ v ∈ violations, v.kind = c.kind) ↔
      c ∈ a.checks ∧ a.severityOf c.kind ≠ .none ∧ a.Breaks g c := by
  obtain ⟨found, hfound, h⟩ := bind_eq_ok_iff.1 h
  cases h
  rw [and_left_comm, ← exists_finds_iff ha]
  constructor
  · rintro ⟨v, hv, hkind⟩
    obtain ⟨hmem, hseverity⟩ := Report.of_mem_merge hv
    have hfinds := of_mem_outputs hfound hmem
    exact ⟨hkind ▸ hfinds.severity_eq ▸ hseverity, v, hfinds, hkind⟩
  · rintro ⟨hseverity, v, hfinds, hkind⟩
    obtain ⟨w, hw, hkey⟩ := exists_mem_outputs hg hfound hfinds
    have hwkind : w.kind = c.kind := (congrArg Violation.Key.kind hkey).trans hkind
    have hwseverity : w.severity ≠ .none := by
      rwa [(of_mem_outputs hfound hw).severity_eq, hwkind]
    -- The report may have another violation with this key, which is of the same kind.
    obtain ⟨x, hx, hxkey⟩ := Report.exists_mem_merge hw hwseverity
    exact ⟨x, hx, (congrArg Violation.Key.kind hxkey).trans hwkind⟩

theorem severity_eq_of_mem_report {violations : List Violation}
    (h : a.report g = .ok violations) (hv : v ∈ violations) : v.severity = a.severityOf v.kind := by
  obtain ⟨found, hfound, h⟩ := bind_eq_ok_iff.1 h
  cases h
  exact (of_mem_outputs hfound (Report.of_mem_merge hv).1).severity_eq

end Analysis

end LayerLint
