import LayerLint.Engine
import LayerLint.Proofs.Cycle.Reports
import LayerLint.Proofs.Graph.Build

/-!
# Analysing a depicting graph

A check can fail on a graph in two ways: an edge has an end that is no node,
and a cycle is not closed by an edge.  The second never happens.  The first
does not happen on a *closed* graph, one whose edges run between its nodes, and
a graph that depicts a project is closed.  So the analysis of such a graph
always yields a report, whatever the checks, the policy and the names are.

## Main results

* `ofConfig_eq_ok_iff`: the parts that an analysis takes from its configuration.
* `exists_report`: the analysis of a closed graph does not fail.
* `Depicts.closed`, `Depicts.labelled`: a graph that depicts a project is closed, and its edges
  stand under their own ends.
* `exists_resultOn`: there is a result on every survey of submissions.
* `exists_run`: a run yields the graph of its submissions with the report on it.
-/

namespace LayerLint

open Std (ExtTreeMap)

namespace ModuleGraph

/-- Both ends of every edge are nodes. -/
def Closed (g : ModuleGraph) : Prop :=
  ∀ e ∈ g.edges, g.contains e.source = true ∧ g.contains e.target = true

/-- Every edge stands under its own source and target. -/
def Labelled (g : ModuleGraph) : Prop :=
  ∀ (source target : ModuleId) (e : Edge), g.edge? source target = some e →
    e.source = source ∧ e.target = target

theorem Labelled.eq_of_ends {g : ModuleGraph} (h : g.Labelled) {e f : Edge} (he : e ∈ g.edges)
    (hf : f ∈ g.edges) (hsource : e.source = f.source) (htarget : e.target = f.target) :
    e = f := by
  obtain ⟨source, target, he⟩ := mem_edges_iff.1 he
  obtain ⟨source', target', hf⟩ := mem_edges_iff.1 hf
  obtain ⟨rfl, rfl⟩ := h source target e he
  obtain ⟨rfl, rfl⟩ := h source' target' f hf
  rw [hsource, htarget, hf] at he
  exact (Option.some.inj he).symm

/-- Every arc leads to a module. -/
theorem Closed.contains_of_hasArc {g : ModuleGraph} (h : g.Closed) (hlabelled : g.Labelled)
    {a : Arc} (ha : g.HasArc a) : g.contains a.2 = true := by
  obtain ⟨e, he⟩ := Option.isSome_iff_exists.1 ha
  rw [← (hlabelled a.1 a.2 e he).2]
  exact (h e (mem_edges_iff.2 ⟨a.1, a.2, he⟩)).2

theorem exists_module? {g : ModuleGraph} {id : ModuleId} (h : g.contains id = true) :
    ∃ m, g.module? id = some m := by
  obtain ⟨n, hn⟩ := Tables.exists_getElem? (ExtTreeMap.contains_iff_mem.1 h)
  exact ⟨n.record, by rw [module?, hn, Option.map_some]⟩

end ModuleGraph

/-! ## Setting up -/

namespace Analysis

/-- A configuration sets up an analysis just when it yields every part that nothing
stands in for, and the analysis is made of these parts. -/
theorem ofConfig_eq_ok_iff {config : Config} {o : Overrides} {a : Analysis} :
    ofConfig config o = .ok a ↔
      ∃ checks policy classifier layerSeverity leakageSeverity names cycleSeverity,
        (o.checks.map .ok).getD config.checks = .ok checks ∧
        (o.policy.map .ok).getD config.policy = .ok policy ∧
        (o.classifier.map .ok).getD config.classifier = .ok classifier ∧
        config.severityFor .layer = .ok layerSeverity ∧
        config.severityFor .boundary = .ok leakageSeverity ∧
        config.boundaryNames = .ok names ∧
        config.severityFor .cycle = .ok cycleSeverity ∧
        a = {
          checks := checks
          builder := ⟨classifier.classify, config.packageNames⟩
          rules := .make policy names (checks.contains .layering) (checks.contains .boundary)
            layerSeverity leakageSeverity
          cycleSeverity := cycleSeverity } := by
  obtain ⟨checks?, policy?, classifier?⟩ := o
  rw [ofConfig]
  simp only [bind_eq_ok_iff]
  constructor
  · rintro ⟨checks, hchecks, policy, hpolicy, classifier, hclassifier, layerSeverity, hlayer,
      leakageSeverity, hleakage, names, hnames, cycleSeverity, hcycle, ha⟩
    refine ⟨checks, policy, classifier, layerSeverity, leakageSeverity, names, cycleSeverity,
      ?_, ?_, ?_, hlayer, hleakage, hnames, hcycle, (Except.ok.inj ha).symm⟩
    · cases checks? <;> exact hchecks
    · cases policy? <;> exact hpolicy
    · cases classifier? <;> exact hclassifier
  · rintro ⟨checks, policy, classifier, layerSeverity, leakageSeverity, names, cycleSeverity,
      hchecks, hpolicy, hclassifier, hlayer, hleakage, hnames, hcycle, rfl⟩
    refine ⟨checks, ?_, policy, ?_, classifier, ?_, layerSeverity, hlayer, leakageSeverity,
      hleakage, names, hnames, cycleSeverity, hcycle, rfl⟩
    · cases checks? <;> exact hchecks
    · cases policy? <;> exact hpolicy
    · cases classifier? <;> exact hclassifier

end Analysis

/-! ## The checks -/

namespace Boundary.Rules

theorem exists_ends {g : ModuleGraph} (h : g.Closed) {e : Edge} (he : e ∈ g.edges) :
    ∃ source target, ends g e = .ok (e, source, target) ∧
      g.module? e.source = some source ∧ g.module? e.target = some target := by
  obtain ⟨source, hs⟩ := ModuleGraph.exists_module? (h e he).1
  obtain ⟨target, ht⟩ := ModuleGraph.exists_module? (h e he).2
  refine ⟨source, target, ?_, hs, ht⟩
  rw [ends, hs, ht]

theorem exists_check {g : ModuleGraph} (r : Rules) (h : g.Closed) :
    ∃ found, r.check g = .ok found := by
  have hedge : ∀ e ∈ g.edges, ∃ placed, ends g e = .ok placed ∧ placed.1 = e := by
    intro e he
    obtain ⟨source, target, hends, -⟩ := exists_ends h he
    exact ⟨(e, source, target), hends, rfl⟩
  obtain ⟨placed, hplaced, -⟩ := exists_mapM_eq_ok hedge
  rw [check, hplaced]
  exact ⟨_, rfl⟩

end Boundary.Rules

namespace Analysis

variable {g : ModuleGraph}

theorem exists_cycleViolations (g : ModuleGraph) (severity : Severity) :
    ∃ found, g.cycleViolations severity = .ok found := by
  have hcycle : ∀ c ∈ g.findCycles [], ∃ v, Cycle.violation? g severity c = .ok v ∧
      ModuleGraph.Reports g severity c v := fun c hc =>
    ModuleGraph.exists_violation? severity
      (ModuleGraph.isSimpleCycle_of_mem_findCycles hc).toIsClosedWalk
  obtain ⟨found, hfound, -⟩ := exists_mapM_eq_ok hcycle
  exact ⟨found, hfound⟩

theorem exists_outputs (a : Analysis) (h : g.Closed) (edgesChecked : Bool) (checks : List Check) :
    ∃ found, a.outputs g edgesChecked checks = .ok found := by
  induction checks generalizing edgesChecked with
  | nil => exact ⟨[], rfl⟩
  | cons check rest ih =>
      -- Layering and boundary are one case: they share the pass over the edges.
      have hedges : ∃ found, (if edgesChecked then a.outputs g true rest
          else do
            let found ← a.rules.check g
            return found :: (← a.outputs g true rest)) = .ok found := by
        obtain ⟨more, hmore⟩ := ih true
        cases edgesChecked with
        | true => exact ⟨more, hmore⟩
        | false =>
            obtain ⟨found, hfound⟩ := a.rules.exists_check h
            rw [hfound, hmore]
            exact ⟨_, rfl⟩
      cases check with
      | cycles =>
          obtain ⟨found, hfound⟩ := exists_cycleViolations g a.cycleSeverity
          obtain ⟨more, hmore⟩ := ih edgesChecked
          rw [outputs, hfound, hmore]
          exact ⟨_, rfl⟩
      | layering => exact hedges
      | boundary => exact hedges

/-- The analysis of a closed graph does not fail. -/
theorem exists_report (a : Analysis) (h : g.Closed) :
    ∃ violations, a.report g = .ok violations := by
  obtain ⟨found, hfound⟩ := a.exists_outputs h false a.checks
  rw [report, hfound]
  exact ⟨_, rfl⟩

end Analysis

/-! ## Depicting graphs -/

namespace Builder

/-- A graph that depicts a project is closed. -/
theorem Depicts.closed {b : Builder} {p : Project} {g : ModuleGraph} (h : Depicts b p g) :
    g.Closed := by
  intro e he
  obtain ⟨source, target, hedge⟩ := ModuleGraph.mem_edges_iff.1 he
  obtain ⟨d, hd, x, hx, rfl⟩ := h.edge?_eq_some_iff.1 hedge
  have htarget : (b.resolver p).targetOf source x.1 = target := by simpa using List.find?_some hx
  refine ⟨h.contains_iff.2 (Or.inl (Tables.mem_of_getElem? hd)), h.contains_iff.2 ?_⟩
  rw [← htarget, Import.Resolver.targetOf]
  cases hr : (b.resolver p).resolve? x.1 source with
  | some file =>
      have hfile : file ∈ p.keys := Import.Resolver.resolve?_mem hr
      exact Or.inl (ExtTreeMap.mem_keys.1 hfile)
  | none =>
      have hrecord : x ∈ d.records := List.mem_of_find?_eq_some hx
      exact Or.inr ⟨source, d, hd, leadsTo_survey_iff.2 ⟨x, hrecord, hr, rfl⟩⟩

/-- A graph that depicts a project has every edge under its own ends. -/
theorem Depicts.labelled {b : Builder} {p : Project} {g : ModuleGraph} (h : Depicts b p g) :
    g.Labelled := by
  intro source target e he
  obtain ⟨d, -, x, -, rfl⟩ := h.edge?_eq_some_iff.1 he
  exact ⟨rfl, rfl⟩

end Builder

/-! ## Results -/

/-- There is a result on every survey of submissions. -/
theorem Analysis.exists_resultOn (a : Analysis) (ss : List Submission) :
    ∃ r : Result, a.resultOn (a.builder.surveyAll ss) = .ok r ∧
      r.graph = a.builder.build ss ∧ a.report r.graph = .ok r.violations ∧
      r.skipped = (a.builder.surveyAll ss).skipped ∧ r.checks = a.checks := by
  obtain ⟨violations, hreport⟩ := a.exists_report (a.builder.depicts_build ss).closed
  refine ⟨⟨a.builder.build ss, violations, (a.builder.surveyAll ss).skipped, a.checks⟩,
    ?_, rfl, hreport, rfl, rfl⟩
  rw [Builder.build] at hreport
  rw [resultOn, hreport]
  rfl

/-- There is a result after one file has been worked out again, when its graph is
closed. -/
theorem Analysis.exists_amended (a : Analysis) {last : Result} {s : Submission}
    {g : ModuleGraph} {skipped : List String} (id : ModuleId)
    (hupdate : a.builder.update last.graph s = .ok (g, skipped)) (hclosed : g.Closed) :
    ∃ r : Result, a.amended last s id = .ok r ∧
      r.graph = g ∧ a.report r.graph = .ok r.violations ∧
      r.skipped = last.skipped.filter (fun message => !Engine.isAbout id message) ++ skipped := by
  obtain ⟨violations, hreport⟩ := a.exists_report hclosed
  refine ⟨⟨g, violations, _, a.checks⟩, ?_, rfl, hreport, rfl⟩
  exact bind_eq_ok_iff.2 ⟨(g, skipped), hupdate, bind_eq_ok_iff.2 ⟨violations, hreport, rfl⟩⟩

theorem Engine.run_of_resultOn (e : Engine) {ss : List Submission} {r : Result}
    (h : e.analysis.resultOn (e.analysis.builder.surveyAll ss) = .ok r) :
    e.run ss = (.ok r, { e with descriptors := knownFrom ss, last := some r }) := by
  rw [run, h]

/-- A run does not fail.  Its result is made of the graph of its submissions alone, and
the engine remembers it. -/
theorem Engine.exists_run (e : Engine) (ss : List Submission) :
    ∃ r : Result,
      e.run ss = (.ok r, { e with descriptors := knownFrom ss, last := some r }) ∧
      r.graph = e.analysis.builder.build ss ∧
      e.analysis.report r.graph = .ok r.violations ∧
      r.skipped = (e.analysis.builder.surveyAll ss).skipped ∧
      r.checks = e.analysis.checks := by
  obtain ⟨r, hr, hfacts⟩ := e.analysis.exists_resultOn ss
  exact ⟨r, e.run_of_resultOn hr, hfacts⟩

end LayerLint
