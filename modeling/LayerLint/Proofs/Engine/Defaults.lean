import LayerLint.Proofs.Engine.Analysis

/-!
# The built-in settings

There are two ways to the built-in settings.  An engine reads them off a
configuration, whose fields hold their defaults as values; the checks on their
own have them as they are.  Both ways lead to the same policy, the same
classifier, the same names and the same severities, because a default is read
back as what it was written from.  So an engine with nothing but defaults, or
with a policy of its own beside them, reports what its checks find one by one.

## Main results

* `Config.policy_default`, `Config.classifier_default`: the derived parts of the
  default configuration are the built-in ones.
* `Analysis.ofConfig_default`: the analysis of the default configuration.
* `Engine.run_default`: a run with it reports what the checks on their own find.
-/

namespace LayerLint

/-! ## Values are read back -/

theorem segmentsOfValue_texts (segments : List (String × List String)) :
    segmentsOfValue (.dict (segments.map fun (layer, runs) => (layer, .list (runs.map .str)))) =
      .ok segments := by
  refine mapM_map_eq_ok (fun (layer, runs) => ?_) segments
  refine bind_eq_ok_iff.2 ⟨runs, ?_, rfl⟩
  exact mapM_map_eq_ok (fun s => by rfl) runs

namespace LayerPolicy

theorem exemptOfValue_texts (layers : List String) :
    exemptOfValue (.list (layers.map .str)) = .ok layers := by
  refine mapM_map_eq_ok (fun layer => ?_) layers
  rw [exemptName, Value.unshowable?_str]
  rfl

/-- A policy without rows adds nothing to another one. -/
theorem merge_ofRows_nil (p : LayerPolicy) (exempt : List String) :
    p.merge (ofRows [] exempt) = p := by
  have hrows : (ofRows [] exempt).toRows = [] := by simp [toRows, ofRows]
  rw [merge, hrows, List.foldl_nil]

end LayerPolicy

namespace Config

theorem namesOf_texts (names : List String) : namesOf (.list (names.map .str)) = .ok names :=
  mapM_map_eq_ok (fun s => by rfl) names

theorem checkOf_name (c : Check) : checkOf (.str c.name) = .ok c := by
  have hread : Check.ofText? c.name = some c := by cases c <;> decide +kernel
  have htext : (Value.str c.name).text = c.name := rfl
  rw [checkOf, htext, hread]

theorem severityOf_name (s : Severity) : severityOf (.str s.name) = .ok s := by
  have hread : Severity.ofText? s.name = some s := by cases s <;> decide +kernel
  rw [severityOf, hread]

/-! ## The default configuration -/

theorem checks_default : default.checks = .ok Check.all := by
  have hread : (Check.all.map fun c => Value.str c.name).mapM checkOf = .ok Check.all :=
    mapM_map_eq_ok checkOf_name Check.all
  exact bind_eq_ok_iff.2 ⟨_, rfl, bind_eq_ok_iff.2 ⟨_, hread, rfl⟩⟩

theorem severityFor_default (kind : ViolationKind) :
    default.severityFor kind = .ok (Field.defaultSeverity kind) := by
  rw [← severityOf_name]
  cases kind <;> rfl

theorem policy_default : default.policy = .ok .default := by
  have hrows : LayerPolicy.rowsOfTable [] = .ok [] := rfl
  have hexempt := LayerPolicy.exemptOfValue_texts LayerPolicy.defaultExempt
  refine bind_eq_ok_iff.2 ⟨[], hrows, bind_eq_ok_iff.2 ⟨_, hexempt, ?_⟩⟩
  exact congrArg Except.ok (LayerPolicy.merge_ofRows_nil _ _)

theorem classifier_default : default.classifier = .ok .default :=
  map_eq_ok_iff.2 ⟨defaultSegments, segmentsOfValue_texts defaultSegments, rfl⟩

theorem boundaryNames_default : default.boundaryNames = .ok {} := by
  refine bind_eq_ok_iff.2 ⟨_, namesOf_texts Boundary.defaultLeakMarkers, ?_⟩
  refine bind_eq_ok_iff.2 ⟨_, namesOf_texts Boundary.defaultInternalSegments, ?_⟩
  refine bind_eq_ok_iff.2 ⟨_, namesOf_texts Boundary.defaultCompositionRoots, ?_⟩
  exact bind_eq_ok_iff.2 ⟨_, namesOf_texts Boundary.defaultSharedSegments, rfl⟩

/-- The defaults pass all checks of a configuration. -/
theorem ofTable_nil : ofTable [] = .ok default := by
  have hfill : fill [] = default := rfl
  have hok : default.check.isOk = true := by decide +kernel
  obtain ⟨done, hcheck⟩ := exists_of_isOk hok
  simp only [ofTable, List.find?_nil, hfill, hcheck]
  rfl

end Config

/-! ## The analysis of the defaults -/

namespace Analysis

/-- All checks with the built-in settings, under a policy. -/
def standard (p : LayerPolicy) : Analysis where
  checks := Check.all
  builder := ⟨Classifier.default.classify, []⟩
  rules := .default p
  cycleSeverity := .error

/-- The default configuration describes the built-in settings, under its own policy unless
another one stands in for it. -/
theorem ofConfig_default (policy : Option LayerPolicy) :
    ofConfig .default { policy := policy } = .ok (standard (policy.getD .default)) := by
  refine bind_eq_ok_iff.2 ⟨_, Config.checks_default, ?_⟩
  refine bind_eq_ok_iff.2 ⟨policy.getD .default, ?_, ?_⟩
  · cases policy with
    | none =>
        rw [Option.getD_none]
        exact Config.policy_default
    | some p => rfl
  refine bind_eq_ok_iff.2 ⟨_, Config.classifier_default, ?_⟩
  refine bind_eq_ok_iff.2 ⟨_, Config.severityFor_default .layer, ?_⟩
  refine bind_eq_ok_iff.2 ⟨_, Config.severityFor_default .boundary, ?_⟩
  refine bind_eq_ok_iff.2 ⟨_, Config.boundaryNames_default, ?_⟩
  exact bind_eq_ok_iff.2 ⟨_, Config.severityFor_default .cycle, rfl⟩

/-- Its report is made of one pass over the edges and one search for cycles. -/
theorem exists_of_report_standard {p : LayerPolicy} {g : ModuleGraph}
    {violations : List Violation} (h : (standard p).report g = .ok violations) :
    ∃ found cycles, (Boundary.Rules.default p).check g = .ok found ∧
      g.cycleViolations .error = .ok cycles ∧ violations = Report.merge [found, cycles] := by
  obtain ⟨lists, hlists, h⟩ := bind_eq_ok_iff.1 h
  obtain ⟨found, hfound, hlists⟩ := bind_eq_ok_iff.1 hlists
  obtain ⟨more, hmore, hlists⟩ := bind_eq_ok_iff.1 hlists
  obtain ⟨cycles, hcycles, hmore⟩ := bind_eq_ok_iff.1 hmore
  cases hmore
  cases hlists
  cases h
  exact ⟨found, cycles, hfound, hcycles, rfl⟩

end Analysis

/-- **An engine with the defaults and the checks on their own agree.**  The default
configuration is a configuration, and its policy and its classifier are the built-in
ones.  With it, and with whatever policy in the place of its own, a run succeeds.  The
graph is the one that is built with the built-in classifier, and the violations are
those that the edges of this graph and the search for its cycles yield with the built-in
settings, merged into one report. -/
theorem Engine.run_default (ss : List Submission) (policy : Option LayerPolicy) :
    let g := (⟨Classifier.default.classify, []⟩ : Builder).build ss
    Config.ofTable [] = .ok .default ∧
    Config.default.policy = .ok .default ∧
    Config.default.classifier = .ok .default ∧
    ∃ a r found cycles,
      Analysis.ofConfig .default { policy := policy } = .ok a ∧
      (({ analysis := a } : Engine).run ss).1 = .ok r ∧
      (Boundary.Rules.default (policy.getD .default)).check g = .ok found ∧
      g.cycleViolations .error = .ok cycles ∧
      r.graph = g ∧ r.violations = Report.merge [found, cycles] := by
  intro g
  refine ⟨Config.ofTable_nil, Config.policy_default, Config.classifier_default, ?_⟩
  obtain ⟨r, hrun, hgraph, hreport, -⟩ :=
    exists_run { analysis := .standard (policy.getD .default) } ss
  obtain ⟨found, cycles, hfound, hcycles, hviolations⟩ := Analysis.exists_of_report_standard hreport
  rw [hgraph] at hfound hcycles
  exact ⟨_, r, found, cycles, Analysis.ofConfig_default policy, by rw [hrun], hfound, hcycles,
    hgraph, hviolations⟩

end LayerLint
