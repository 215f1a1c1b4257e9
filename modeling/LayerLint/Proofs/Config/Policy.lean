import LayerLint.Proofs.Engine.Defaults
import LayerLint.Proofs.Layer.Merging

/-!
# The configured policy

A configuration gives its policy as a table of tables, and one layer can stand in
it more than once, because names are told apart by their spelling there and not in
the policy.  The rows are entered in the order in which they stand in the table, so
the last one about a pair of layers counts.  Then the rows are laid over those that
are built in, if these are used at all.

## Main results

* `PolicyTable.rowsOfTable_toTable`: a table is read row by row, in its own order.
* `LayerPolicy.lastSaid?_defaultRows`: what the built-in rows say about a pair.
* `policy_decides`: what the policy of a configuration says about two layers.
-/

namespace LayerLint

open Std (ExtTreeSet)

/-! ## The built-in rows -/

namespace LayerPolicy

/-- The imports that the built-in rows forbid. -/
def forbiddenPairs : List (LayerName × LayerName) := [
  (Layer.domain, Layer.data), (Layer.domain, Layer.presentation),
  (Layer.data, Layer.presentation), (Layer.presentation, Layer.data)]

/-- The built-in rows forbid these imports, and no others. -/
theorem lastSaid?_defaultRows (key : LayerName × LayerName) :
    (lastSaid? defaultRows key).getD true = !decide (key ∈ forbiddenPairs) := by
  by_cases hlisted : key ∈ defaultRows.map keyOf
  · have hrows : ∀ key ∈ defaultRows.map keyOf,
        (lastSaid? defaultRows key).getD true = !decide (key ∈ forbiddenPairs) := by decide +kernel
    exact hrows key hlisted
  · have hforbidden : ∀ pair ∈ forbiddenPairs, pair ∈ defaultRows.map keyOf := by decide +kernel
    have hsilent : lastSaid? defaultRows key = none := by
      rw [lastSaid?, Option.map_eq_none_iff, List.find?_eq_none]
      intro row hrow heq
      exact hlisted (List.mem_map.2 ⟨row, List.mem_reverse.1 hrow, of_decide_eq_true heq⟩)
    rw [hsilent, decide_eq_false (mt (hforbidden key) hlisted)]
    rfl

/-- When the exempt layers are given in a list, being one of them is being in the list
by some spelling. -/
theorem allows_eq_of_exempt {p : LayerPolicy} {exempt : List String}
    (hexempt : p.exempt = ExtTreeSet.ofList (exempt.map Layer.normalize)) (a b : String) :
    p.allows a b =
      if Layer.normalize a = Layer.normalize b ∨ Layer.normalize a ∈ exempt.map Layer.normalize ∨
        Layer.normalize b ∈ exempt.map Layer.normalize then true
      else (p.rows[(Layer.normalize a, Layer.normalize b)]?).getD true := by
  have hlisted : ∀ layer, p.isExempt layer = true ↔
      Layer.normalize layer ∈ exempt.map Layer.normalize := by
    intro layer
    rw [isExempt, hexempt, ExtTreeSet.contains_ofList, List.contains_iff_mem]
  simp only [allows_eq, hlisted, row?_eq]

end LayerPolicy

/-! ## Policies in configurations -/

/-- A policy as it is configured: which layers each layer may import and which not. -/
abbrev PolicyTable := List (String × List (String × Bool))

namespace PolicyTable

/-- The rows in the order in which they stand in the table. -/
def rows (t : PolicyTable) : List PolicyRow :=
  t.flatMap fun (source, targets) => targets.map fun (target, allowed) => ⟨source, target, allowed⟩

/-- The table as a configuration holds it. -/
def toTable (t : PolicyTable) : Table :=
  t.map fun (source, targets) =>
    (source, .dict (targets.map fun (target, allowed) => (target, .bool allowed)))

/-- Every row is read, in order. -/
theorem rowsOfTable_toTable (t : PolicyTable) : LayerPolicy.rowsOfTable t.toTable = .ok t.rows := by
  have hread : t.toTable.mapM LayerPolicy.rowsOfEntry =
      .ok (t.map fun (source, targets) =>
        targets.map fun (target, allowed) => ⟨source, target, allowed⟩) := by
    rw [mapM_eq_ok_iff, toTable, List.map_map, List.map_map]
    refine List.map_congr_left fun (source, targets) _ => ?_
    refine mapM_eq_ok_iff.2 ?_
    rw [List.map_map, List.map_map]
    rfl
  refine bind_eq_ok_iff.2 ⟨_, hread, ?_⟩
  rw [rows, List.flatMap_def]
  rfl

end PolicyTable

namespace Config

/-- **What the configured policy says.**  Let a configuration have a table of tables of
truth values for its policy and a list of texts for its exempt layers.  Then it has a
policy.  Under it a layer may import itself, and an import is allowed when one of its
two layers is exempt.  Any other import is decided by the last row of the table, in the
order of the table, whose names mean these two layers.  Without such a row it is
forbidden just when the built-in rows are used and it is one of the four imports that
they forbid. -/
theorem policy_decides (c : Config) (table : PolicyTable) (exempt : List String)
    (hpolicy : c.get .policy = .dict table.toTable)
    (hexempt : c.get .exemptLayers = .list (exempt.map .str)) :
    ∃ p, c.policy = .ok p ∧ ∀ a b, p.allows a b =
      if Layer.normalize a = Layer.normalize b ∨ Layer.normalize a ∈ exempt.map Layer.normalize ∨
        Layer.normalize b ∈ exempt.map Layer.normalize then true
      else
        (LayerPolicy.lastSaid? table.rows (Layer.normalize a, Layer.normalize b)).getD
          (!((c.get .useDefaultPolicy).isTruthy &&
            decide ((Layer.normalize a, Layer.normalize b) ∈ LayerPolicy.forbiddenPairs))) := by
  have hown := LayerPolicy.normal_ofRows table.rows exempt
  have hread : c.policy = .ok
      (if (c.get .useDefaultPolicy).isTruthy then
        (LayerPolicy.ofRows LayerPolicy.defaultRows exempt).merge (.ofRows table.rows exempt)
      else .ofRows table.rows exempt) := by
    rw [Config.policy, hpolicy, hexempt]
    refine bind_eq_ok_iff.2 ⟨_, table.rowsOfTable_toTable, ?_⟩
    refine bind_eq_ok_iff.2 ⟨_, LayerPolicy.exemptOfValue_texts exempt, ?_⟩
    cases (c.get .useDefaultPolicy).isTruthy <;> rfl
  refine ⟨_, hread, fun a b => ?_⟩
  cases (c.get .useDefaultPolicy).isTruthy with
  | true =>
      rw [if_pos rfl, LayerPolicy.allows_eq_of_exempt
        ((LayerPolicy.exempt_merge _ _).trans (LayerPolicy.exempt_ofRows _ _)), hown.getElem?_merge,
        LayerPolicy.getElem?_ofRows, LayerPolicy.getElem?_ofRows, Option.getD_or,
        LayerPolicy.lastSaid?_defaultRows, Bool.true_and]
  | false =>
      rw [if_neg Bool.false_ne_true,
        LayerPolicy.allows_eq_of_exempt (LayerPolicy.exempt_ofRows _ _),
        LayerPolicy.getElem?_ofRows, Bool.false_and, Bool.not_false]

/-- One layer in two spellings: the row that stands further down counts, and a pair
without a row is left to the built-in rows. -/
theorem policy_decides_of_two_spellings :
    let table : PolicyTable :=
      [("Domain", [("data", false), (" Views ", false)]), (" domain", [("DATA", true)])]
    let c : Config := ⟨fun
      | .policy => .dict table.toTable
      | .exemptLayers => .list [.str "External", .str "legacy "]
      | f => f.default⟩
    c.get .policy = .dict table.toTable ∧
    c.get .exemptLayers = .list (["External", "legacy "].map .str) ∧
    ∃ p, c.policy = .ok p ∧ p.allows "domain" "data" = true ∧ p.allows "DOMAIN" "views" = false ∧
      p.allows "data" "presentation" = false ∧ p.allows "Legacy" "data" = true ∧
      p.allows "" "data" = true := by
  intro table c
  obtain ⟨p, hp, hall⟩ := policy_decides c table ["External", "legacy "] rfl rfl
  refine ⟨rfl, rfl, p, hp, ?_, ?_, ?_, ?_, ?_⟩
  all_goals
    rw [hall]
    decide +kernel

end Config

end LayerLint
