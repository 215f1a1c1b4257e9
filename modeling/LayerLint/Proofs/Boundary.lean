import LayerLint.Proofs.Engine.Findings
import LayerLint.Proofs.Graph.Consistency
import LayerLint.Proofs.Report.Stages

/-!
# Every edge on its own

The pass over the edges leaves out repetitions, but there are none to leave out.
At most one edge leads from one module to another, so the modules of a violation
say which edge it belongs to, and the two rules give an edge violations of
different kinds.  What the pass finds is therefore what the edges show one by
one, and it comes apart again: the violations at the ends of an edge are those of
the edge.  With both rules applied the pass finds what it finds with the one and
with the other, edge by edge.

Two of the reasons for which an edge is spared do not depend on the policy.  A
package is known by its id, and a layer may always import itself.  Each of the
rules asks for both, in its own order.

## Main results

* `ModuleGraph.pairwise_edges`: edges strictly ascend by source and target.
* `violationsOf_eq_nil`: what no rule can find fault with.
* `check_eq`: what the pass finds is what the edges show, in their order.
* `filter_verdicts`: it comes apart again into the edges.
* `check_edge_by_edge`: all of this, for every graph that is built and changed.
-/

namespace LayerLint

open Std (ExtTreeMap)

/-! ## The order of edges -/

/-- The order of edges: by source, then by target. -/
def Edge.order : Edge → Edge → Ordering := compareLex (compareOn (·.source)) (compareOn (·.target))

namespace ModuleGraph

variable {g : ModuleGraph} {e f : Edge} {id : ModuleId} {m : Module}

theorem order_eq_lt_iff :
    e.order f = .lt ↔ compare e.source f.source = .lt ∨
      e.source = f.source ∧ compare e.target f.target = .lt := by
  simp only [Edge.order, compareLex, compareOn, Ordering.then_eq_lt, Std.compare_eq_iff_eq]

/-- Of two edges in order, not both ends are the same. -/
theorem ends_ne_of_order (h : e.order f = .lt) : [e.source, e.target] ≠ [f.source, f.target] := by
  intro heq
  rw [List.cons.injEq, List.cons.injEq] at heq
  rw [order_eq_lt_iff, heq.1, heq.2.1, Std.compare_self, Std.compare_self] at h
  rcases h with h | ⟨-, h⟩ <;> cases h

/-- An edge stands under its own ends. -/
theorem Labelled.ends_of_mem (h : g.Labelled) {source target : ModuleId} {n : Node}
    (hn : (source, n) ∈ g.nodes.toList) (he : (target, e) ∈ n.outgoing.toList) :
    e.source = source ∧ e.target = target := by
  rw [ExtTreeMap.mem_toList_iff_getElem?_eq_some] at hn he
  exact h source target e (edge?_eq_some_iff.2 ⟨n, hn, he⟩)

theorem pairwise_edges (h : g.Labelled) : g.edges.Pairwise fun e f => e.order f = .lt := by
  rw [edges, List.pairwise_flatMap]
  constructor
  · -- Edges of one source are in the order of their targets.
    rintro ⟨source, n⟩ hn
    rw [List.pairwise_map]
    refine n.outgoing.ordered_keys_toList.imp_of_mem ?_
    rintro ⟨t, e⟩ ⟨u, f⟩ he hf hlt
    obtain ⟨hsource, rfl⟩ := h.ends_of_mem hn he
    obtain ⟨hsame, rfl⟩ := h.ends_of_mem hn hf
    exact order_eq_lt_iff.2 (Or.inr ⟨hsource.trans hsame.symm, hlt⟩)
  · -- Edges of two sources are in the order of these.
    refine g.nodes.ordered_keys_toList.imp_of_mem ?_
    rintro ⟨s, n⟩ ⟨t, k⟩ hn hk hlt e he f hf
    obtain ⟨⟨u, e'⟩, hmem, rfl⟩ := List.mem_map.1 he
    obtain ⟨⟨v, f'⟩, hmem', rfl⟩ := List.mem_map.1 hf
    obtain ⟨rfl, -⟩ := h.ends_of_mem hn hmem
    obtain ⟨rfl, -⟩ := h.ends_of_mem hk hmem'
    exact order_eq_lt_iff.2 (Or.inl hlt)

/-- Every edge has a module at each of its ends. -/
theorem Closed.exists_joins (h : g.Closed) (he : e ∈ g.edges) :
    ∃ source target, g.Joins e source target := by
  obtain ⟨source, hsource⟩ := exists_module? (h e he).1
  obtain ⟨target, htarget⟩ := exists_module? (h e he).2
  exact ⟨source, target, he, hsource, htarget⟩

theorem Consistent.module_isExternal (h : g.Consistent) (hm : g.module? id = some m) :
    m.isExternal = Import.isExternalId id := by
  obtain ⟨n, hn, rfl⟩ := Option.map_eq_some_iff.1 hm
  exact h.isExternal hn

end ModuleGraph

/-! ## One edge -/

/-- The violation is one at the ends of an edge. -/
def Violation.isAt (v : Violation) (e : Edge) : Bool := v.modules = [e.source, e.target]

namespace Boundary.Rules

variable {r : Rules} {g : ModuleGraph} {e : Edge} {source target : Module} {v : Violation}

/-- A module must not import another one for the sake of their layers. -/
def breaksLayering (r : Rules) (source target : Module) : Bool :=
  r.forbids source target && !r.isCompositionRoot source.id && !r.isShared target.id

/-- A module must not import another one because it is an implementation detail. -/
def breaksLeakage (r : Rules) (source target : Module) : Bool :=
  !source.isExternal && !target.isExternal && !r.policy.isExempt source.layer &&
    !r.policy.isExempt target.layer && source.layer != target.layer &&
    r.isImplementationDetail target.id

/-- At most one violation of the layering rule is followed by at most one of the leakage
rule. -/
theorem violationsOf_eq (r : Rules) (e : Edge) (source target : Module) :
    r.violationsOf e source target =
      (if r.checksLayers && r.breaksLayering source target then
        [r.layerViolation e source target] else []) ++
      (if r.checksLeakage && r.breaksLeakage source target then
        [r.leakViolation e source target] else []) := by
  rw [violationsOf, layering?, ← breaksLayering, leakage?, ← breaksLeakage]
  cases r.checksLayers <;> cases r.checksLeakage <;> cases r.breaksLayering source target <;>
    cases r.breaksLeakage source target <;> rfl

theorem pairwise_violationsOf (r : Rules) (e : Edge) (source target : Module) :
    (r.violationsOf e source target).Pairwise fun v w => v.key ≠ w.key := by
  rw [violationsOf_eq]
  have hkind : (r.layerViolation e source target).key ≠ (r.leakViolation e source target).key :=
    fun h => absurd (congrArg Violation.Key.kind h) (show ViolationKind.layer ≠ .boundary by decide)
  split <;> split <;> simp [hkind]

/-- A layer may import itself, whatever the policy says. -/
theorem forbids_of_layer_eq (r : Rules) (h : source.layer = target.layer) :
    r.forbids source target = false := by
  simp [forbids, LayerPolicy.allows, h]

/-- An edge at a package, or within a layer, is spared whatever the policy says. -/
theorem violationsOf_eq_nil (r : Rules) (e : Edge)
    (h : source.isExternal = true ∨ target.isExternal = true ∨ source.layer = target.layer) :
    r.violationsOf e source target = [] := by
  have hspared :
      r.breaksLayering source target = false ∧ r.breaksLeakage source target = false := by
    rcases h with h | h | h
    · simp [breaksLayering, breaksLeakage, forbids, h]
    · simp [breaksLayering, breaksLeakage, forbids, h]
    · simp [breaksLayering, breaksLeakage, r.forbids_of_layer_eq h, h]
  rw [violationsOf_eq, hspared.1, hspared.2, Bool.and_false, Bool.and_false]
  rfl

/-! ## The pass over the edges -/

/-- What is wrong with an edge whose modules were looked up; without them there is no
verdict. -/
def judge (r : Rules) : Except Fault (Edge × Module × Module) → List Violation
  | .ok (e, source, target) => r.violationsOf e source target
  | .error _ => []

/-- What an edge shows in a graph. -/
def verdict (r : Rules) (g : ModuleGraph) (e : Edge) : List Violation := r.judge (ends g e)

theorem verdict_eq (r : Rules) (h : g.Joins e source target) :
    r.verdict g e = r.violationsOf e source target := by
  rw [verdict, (ends_eq_ok_iff h.mem).2 ⟨source, target, h, rfl⟩, judge]

theorem of_mem_verdict (h : v ∈ r.verdict g e) (hg : g.Closed) (he : e ∈ g.edges) :
    v.modules = [e.source, e.target] ∧ v.location = e.location := by
  obtain ⟨source, target, hjoins⟩ := hg.exists_joins he
  rw [r.verdict_eq hjoins] at h
  exact place_of_rule? (mem_violationsOf_iff.1 h).2

/-- No two edges show the same, and no edge shows anything twice. -/
theorem nodup_verdicts (r : Rules) (h : g.Consistent) :
    ((g.edges.flatMap (r.verdict g)).map Violation.key).Nodup := by
  rw [List.Nodup, List.pairwise_map, List.pairwise_flatMap]
  constructor
  · intro e he
    obtain ⟨source, target, hjoins⟩ := h.closed.exists_joins he
    rw [r.verdict_eq hjoins]
    exact r.pairwise_violationsOf e source target
  · refine (ModuleGraph.pairwise_edges h.labelled).imp_of_mem ?_
    intro e f he hf hlt v hv w hw hkey
    refine ModuleGraph.ends_ne_of_order hlt ?_
    rw [← (of_mem_verdict hv h.closed he).1, ← (of_mem_verdict hw h.closed hf).1]
    exact congrArg Violation.Key.modules hkey

/-- The pass finds what the edges show, in their order, and leaves nothing out. -/
theorem check_eq (r : Rules) (h : g.Consistent) :
    r.check g = .ok (g.edges.flatMap (r.verdict g)) := by
  obtain ⟨found, hcheck⟩ := r.exists_check h.closed
  obtain ⟨placed, hplaced, hfound⟩ := bind_eq_ok_iff.1 hcheck
  have hends : g.edges.map (ends g) = placed.map .ok := mapM_eq_ok_iff.1 hplaced
  have hshown : g.edges.flatMap (r.verdict g) = placed.flatMap fun x => r.judge (.ok x) := by
    rw [← List.flatMap_map .ok r.judge, ← hends, List.flatMap_map]
    rfl
  have hall := Violation.firsts_eq_self (r.nodup_verdicts h) fun _ _ => List.not_mem_nil
  rw [hshown] at hall
  rw [hcheck, ← hfound, hshown]
  exact congrArg Except.ok hall

/-- Other edges show nothing at the ends of an edge. -/
theorem filter_others (r : Rules) (hg : g.Closed) {others : List Edge}
    (hothers : ∀ f ∈ others, f ∈ g.edges ∧ [f.source, f.target] ≠ [e.source, e.target]) :
    (others.flatMap (r.verdict g)).filter (·.isAt e) = [] := by
  rw [List.filter_eq_nil_iff]
  intro v hv hat
  obtain ⟨f, hf, hv⟩ := List.mem_flatMap.1 hv
  obtain ⟨hmem, hne⟩ := hothers f hf
  exact hne ((of_mem_verdict hv hg hmem).1.symm.trans (of_decide_eq_true hat))

/-- What is found at the ends of an edge is what the edge shows. -/
theorem filter_verdicts (r : Rules) (h : g.Consistent) (he : e ∈ g.edges) :
    (g.edges.flatMap (r.verdict g)).filter (·.isAt e) = r.verdict g e := by
  have hown : (r.verdict g e).filter (·.isAt e) = r.verdict g e :=
    List.filter_eq_self.2 fun v hv => decide_eq_true (of_mem_verdict hv h.closed he).1
  have hedges := ModuleGraph.pairwise_edges h.labelled
  obtain ⟨before, after, hsplit⟩ := List.append_of_mem he
  rw [hsplit] at hedges
  obtain ⟨-, hlater, hearlier⟩ := List.pairwise_append.1 hedges
  have hbefore : ∀ f ∈ before, f ∈ g.edges ∧ [f.source, f.target] ≠ [e.source, e.target] := by
    intro f hf
    refine ⟨hsplit ▸ List.mem_append_left _ hf, ?_⟩
    exact ModuleGraph.ends_ne_of_order (hearlier f hf e List.mem_cons_self)
  have hafter : ∀ f ∈ after, f ∈ g.edges ∧ [f.source, f.target] ≠ [e.source, e.target] := by
    intro f hf
    refine ⟨hsplit ▸ List.mem_append_right _ (List.mem_cons_of_mem e hf), ?_⟩
    exact (ModuleGraph.ends_ne_of_order (List.rel_of_pairwise_cons hlater hf)).symm
  rw [hsplit, List.flatMap_append, List.flatMap_cons, List.filter_append, List.filter_append, hown,
    r.filter_others h.closed hbefore, r.filter_others h.closed hafter, List.append_nil,
    List.nil_append]

/-! ## One rule at a time -/

/-- The rules, of which these are applied. -/
def applying (r : Rules) (layers leakage : Bool) : Rules :=
  { r with checksLayers := layers, checksLeakage := leakage }

theorem violationsOf_applying (r : Rules) (layers leakage : Bool) (e : Edge)
    (source target : Module) :
    (r.applying layers leakage).violationsOf e source target =
      (if layers then (r.layering? e source target).toList else []) ++
        (if leakage then (r.leakage? e source target).toList else []) := rfl

/-- With both rules applied an edge shows what it shows with the one, then with the
other. -/
theorem verdict_applying (r : Rules) (g : ModuleGraph) (e : Edge) :
    (r.applying true true).verdict g e =
      (r.applying true false).verdict g e ++ (r.applying false true).verdict g e := by
  rw [verdict, verdict, verdict]
  cases ends g e with
  | error f => rfl
  | ok x => simp [judge, violationsOf_applying]

/-- The pass with both rules goes from edge to edge and gives, at each one, what the
passes with one rule find there. -/
theorem check_applying (r : Rules) (h : g.Consistent) {layers leaks : List Violation}
    (hlayers : (r.applying true false).check g = .ok layers)
    (hleaks : (r.applying false true).check g = .ok leaks) :
    (r.applying true true).check g =
      .ok (g.edges.flatMap fun e => layers.filter (·.isAt e) ++ leaks.filter (·.isAt e)) := by
  rw [check_eq _ h, Except.ok.injEq] at hlayers hleaks
  rw [check_eq _ h, ← hlayers, ← hleaks]
  refine congrArg Except.ok (List.flatMap_congr fun e he => ?_)
  rw [filter_verdicts _ h he, filter_verdicts _ h he, verdict_applying]

/-- **Boundaries are checked edge by edge.**  Whatever the rules, and however a built
graph is changed, the pass over its edges does not fail.  Edges strictly ascend by
source and target, and the pass finds what they show, in their order: nothing is left
out, and nothing is found twice.  An edge shows at most one violation of the layering
rule, then at most one of the leakage rule, both at its two ends and its place, and it
takes no more than the two modules to decide about them.  An edge at a package or within
a layer shows none.  With both rules applied the pass finds, from edge to edge, what it
finds there with the one and with the other. -/
theorem check_edge_by_edge (r : Rules) (b : Builder) (ss : List Submission)
    (changes : List Builder.Change) :
    let g := changes.foldl (Builder.Change.perform b) (b.build ss)
    r.check g = .ok (g.edges.flatMap (r.verdict g)) ∧
    ((g.edges.flatMap (r.verdict g)).map Violation.key).Nodup ∧
    g.edges.Pairwise (fun e f => e.order f = .lt) ∧
    (∀ e ∈ g.edges, ∃ source target,
      g.module? e.source = some source ∧ g.module? e.target = some target ∧
      r.verdict g e =
        (if r.checksLayers && r.breaksLayering source target then
          [r.layerViolation e source target] else []) ++
        (if r.checksLeakage && r.breaksLeakage source target then
          [r.leakViolation e source target] else []) ∧
      (∀ v ∈ r.verdict g e, v.modules = [e.source, e.target] ∧ v.location = e.location) ∧
      (Import.isExternalId e.source = true ∨ Import.isExternalId e.target = true ∨
        source.layer = target.layer → r.verdict g e = [])) ∧
    ∃ layers leaks,
      (r.applying true false).check g = .ok layers ∧
      (r.applying false true).check g = .ok leaks ∧
      (r.applying true true).check g =
        .ok (g.edges.flatMap fun e => layers.filter (·.isAt e) ++ leaks.filter (·.isAt e)) := by
  intro g
  have h : g.Consistent := b.consistent_of_changes ss changes
  refine ⟨r.check_eq h, r.nodup_verdicts h, ModuleGraph.pairwise_edges h.labelled, ?_, ?_⟩
  · intro e he
    obtain ⟨source, target, hjoins⟩ := h.closed.exists_joins he
    have hverdict := r.verdict_eq hjoins
    refine ⟨source, target, hjoins.source, hjoins.target, hverdict.trans (r.violationsOf_eq ..),
      fun v hv => of_mem_verdict hv h.closed he, fun hspared => ?_⟩
    rw [← h.module_isExternal hjoins.source, ← h.module_isExternal hjoins.target] at hspared
    exact hverdict.trans (r.violationsOf_eq_nil e hspared)
  · have hlayers := (r.applying true false).check_eq h
    have hleaks := (r.applying false true).check_eq h
    exact ⟨_, _, hlayers, hleaks, r.check_applying h hlayers hleaks⟩

end Boundary.Rules

end LayerLint
