import LayerLint.Layer.Policy
import LayerLint.Proofs.Text.Case

/-!
# Laying policies over each other

The table of a policy says one thing at most about a pair of layers: what the last
row about the pair says.  A merged policy lists the rows of the upper table behind
those of the lower one, so the upper table is asked first, and the lower one about
the pairs on which the upper one is silent.  Who is exempt is up to the lower policy
alone.

Rows are read off a table with the names under which they stand there, and these
names are normalised once more when the rows are entered into another table.  That
changes nothing, because a normalised name is its own normal form.

## Main results

* `Layer.normalize_normalize`: a normalised name is its own normal form.
* `getElem?_ofRows`, `getElem?_merge`: what the tables of a list of rows and of a merged
  policy say.
* `merge_overrides`: what merging two policies and three policies comes to.
-/

namespace LayerLint

open Std (ExtTreeMap ExtTreeSet)

theorem Layer.normalize_normalize (name : String) :
    normalize (normalize name) = normalize name := by
  have hunknown : normalize unknown = unknown := by decide +kernel
  have hplain : ∀ plain, plain = Text.lower (Text.strip name) → plain ≠ "" →
      normalize plain = plain := by
    rintro plain rfl hne
    rw [normalize, Text.strip_lower_strip, Text.lower_lower, if_neg hne]
  rw [normalize.eq_def name]
  dsimp only
  split
  · exact hunknown
  · next hne => exact hplain _ rfl hne

namespace LayerPolicy

/-! ## Tables by pairs of layers -/

/-- The pair of layers that a row is about. -/
def keyOf (row : PolicyRow) : LayerName × LayerName :=
  (Layer.normalize row.source, Layer.normalize row.target)

/-- What the last row about a pair of layers says. -/
def lastSaid? (rows : List PolicyRow) (key : LayerName × LayerName) : Option Bool :=
  (rows.reverse.find? fun row => keyOf row = key).map (·.allowed)

/-- What the policy's row for two layers says, if there is one. -/
def row? (p : LayerPolicy) (source target : String) : Option Bool :=
  (p.toRows.find? fun row =>
    row.source = Layer.normalize source ∧ row.target = Layer.normalize target).map (·.allowed)

/-- All names in the policy are normalised. -/
structure Normal (p : LayerPolicy) : Prop where
  rows : ∀ key ∈ p.rows, (Layer.normalize key.1, Layer.normalize key.2) = key
  exempt : ∀ layer ∈ p.exempt, Layer.normalize layer = layer

variable {p q r : LayerPolicy} {row : PolicyRow} {key : LayerName × LayerName}

@[ext]
theorem ext (hrows : ∀ key : LayerName × LayerName, p.rows[key]? = q.rows[key]?)
    (hexempt : p.exempt = q.exempt) : p = q := by
  obtain ⟨rows, exempt⟩ := p
  obtain ⟨rows', exempt'⟩ := q
  obtain rfl : rows = rows' := ExtTreeMap.ext_getElem? hrows
  obtain rfl : exempt = exempt' := hexempt
  rfl

/-! ## Rows one after another -/

@[simp]
theorem exempt_withRow (p : LayerPolicy) (row : PolicyRow) :
    (p.withRow row).exempt = p.exempt := rfl

theorem getElem?_withRow (p : LayerPolicy) (row : PolicyRow) (key : LayerName × LayerName) :
    (p.withRow row).rows[key]? = if keyOf row = key then some row.allowed else p.rows[key]? := by
  have hcompare : layerPairOrder (keyOf row) key = .eq ↔ keyOf row = key :=
    Std.LawfulEqCmp.compare_eq_iff_eq
  rw [withRow, ExtTreeMap.getElem?_insert, ← keyOf]
  by_cases hkey : keyOf row = key
  · rw [if_pos hkey, if_pos (hcompare.2 hkey)]
  · rw [if_neg hkey, if_neg (mt hcompare.1 hkey)]

theorem exempt_foldl_withRow (rows : List PolicyRow) (p : LayerPolicy) :
    (rows.foldl withRow p).exempt = p.exempt := by
  induction rows generalizing p with
  | nil => rfl
  | cons row rest ih => rw [List.foldl_cons, ih, exempt_withRow]

theorem lastSaid?_cons (row : PolicyRow) (rest : List PolicyRow) (key : LayerName × LayerName) :
    lastSaid? (row :: rest) key =
      (lastSaid? rest key).or (if keyOf row = key then some row.allowed else none) := by
  rw [lastSaid?, lastSaid?, List.reverse_cons, List.find?_append, Option.map_or]
  by_cases hrow : keyOf row = key <;> simp [hrow]

/-- Of the rows that are entered the last one about a pair counts, and without one the
table stays as it was. -/
theorem getElem?_foldl_withRow (rows : List PolicyRow) (p : LayerPolicy)
    (key : LayerName × LayerName) :
    (rows.foldl withRow p).rows[key]? = (lastSaid? rows key).or p.rows[key]? := by
  induction rows generalizing p with
  | nil => rfl
  | cons row rest ih =>
      rw [List.foldl_cons, ih, getElem?_withRow, lastSaid?_cons, Option.or_assoc]
      by_cases hrow : keyOf row = key
      · rw [if_pos hrow, if_pos hrow, Option.some_or]
      · rw [if_neg hrow, if_neg hrow, Option.none_or]

theorem exempt_ofRows (rows : List PolicyRow) (exempt : List String) :
    (ofRows rows exempt).exempt = ExtTreeSet.ofList (exempt.map Layer.normalize) :=
  exempt_foldl_withRow rows _

theorem getElem?_ofRows (rows : List PolicyRow) (exempt : List String)
    (key : LayerName × LayerName) : (ofRows rows exempt).rows[key]? = lastSaid? rows key := by
  rw [ofRows, getElem?_foldl_withRow, ExtTreeMap.getElem?_empty, Option.or_none]

theorem Normal.withRow (hp : p.Normal) (row : PolicyRow) : (p.withRow row).Normal := by
  refine ⟨fun key hkey => ?_, hp.exempt⟩
  rw [LayerPolicy.withRow, ExtTreeMap.mem_insert, Std.LawfulEqCmp.compare_eq_iff_eq] at hkey
  rcases hkey with rfl | hkey
  · rw [Layer.normalize_normalize, Layer.normalize_normalize]
  · exact hp.rows key hkey

theorem Normal.foldl_withRow (hp : p.Normal) (rows : List PolicyRow) :
    (rows.foldl LayerPolicy.withRow p).Normal := by
  induction rows generalizing p with
  | nil => exact hp
  | cons row rest ih => exact ih (hp.withRow row)

theorem normal_ofRows (rows : List PolicyRow) (exempt : List String) :
    (ofRows rows exempt).Normal := by
  refine Normal.foldl_withRow ⟨fun key hkey => absurd hkey ExtTreeMap.not_mem_empty, ?_⟩ rows
  intro layer hlayer
  rw [ExtTreeSet.mem_ofList, List.contains_iff_mem] at hlayer
  obtain ⟨name, -, rfl⟩ := List.mem_map.1 hlayer
  exact Layer.normalize_normalize name

/-! ## The rows of a policy -/

theorem mem_toRows : row ∈ p.toRows ↔ p.rows[(row.source, row.target)]? = some row.allowed := by
  rw [toRows, List.mem_map, ← ExtTreeMap.mem_toList_iff_getElem?_eq_some]
  constructor
  · rintro ⟨⟨⟨source, target⟩, allowed⟩, hmem, rfl⟩
    exact hmem
  · intro hmem
    exact ⟨_, hmem, rfl⟩

/-- The rows have different pairs of names, so they may be searched in any order. -/
theorem map_find?_toRows {rows : List PolicyRow} {isFor : PolicyRow → Bool}
    (hrows : ∀ row, row ∈ rows ↔ row ∈ p.toRows)
    (hkey : ∀ row ∈ p.toRows, isFor row = true ↔ (row.source, row.target) = key) :
    (rows.find? isFor).map (·.allowed) = p.rows[key]? := by
  cases hfind : rows.find? isFor with
  | none =>
      rw [Option.map_none]
      cases hsaid : p.rows[key]? with
      | none => rfl
      | some allowed =>
          have hrow : ⟨key.1, key.2, allowed⟩ ∈ p.toRows := mem_toRows.2 hsaid
          exact absurd ((hkey _ hrow).2 rfl) (List.find?_eq_none.1 hfind _ ((hrows _).2 hrow))
  | some row =>
      have hrow : row ∈ p.toRows := (hrows row).1 (List.mem_of_find?_eq_some hfind)
      rw [Option.map_some, ← (hkey row hrow).1 (List.find?_some hfind), mem_toRows.1 hrow]

theorem row?_eq (p : LayerPolicy) (a b : String) :
    p.row? a b = p.rows[(Layer.normalize a, Layer.normalize b)]? := by
  refine map_find?_toRows (fun row => Iff.rfl) fun row _ => ?_
  rw [decide_eq_true_eq, Prod.mk.injEq]

/-- Read off a table with normalised names, the rows say what the table says. -/
theorem Normal.lastSaid?_toRows (hp : p.Normal) (key : LayerName × LayerName) :
    lastSaid? p.toRows key = p.rows[key]? := by
  refine map_find?_toRows (fun row => List.mem_reverse) fun row hrow => ?_
  have hnames : keyOf row = (row.source, row.target) :=
    hp.rows (row.source, row.target) (ExtTreeMap.getElem?_eq_some_iff.1 (mem_toRows.1 hrow)).1
  rw [decide_eq_true_eq, hnames]

/-- A policy is the policy of its rows and its exempt layers. -/
theorem Normal.ofRows_toRows (hp : p.Normal) : ofRows p.toRows p.exempt.toList = p := by
  refine LayerPolicy.ext (fun key => ?_) ?_
  · rw [getElem?_ofRows, hp.lastSaid?_toRows]
  · rw [exempt_ofRows]
    refine ExtTreeSet.ext_mem fun layer => ?_
    have hnames : p.exempt.toList.map Layer.normalize = p.exempt.toList := by
      calc p.exempt.toList.map Layer.normalize
          _ = p.exempt.toList.map id := List.map_congr_left fun layer hlayer =>
            hp.exempt layer (ExtTreeSet.mem_toList.1 hlayer)
          _ = p.exempt.toList := List.map_id _
    rw [hnames, ExtTreeSet.mem_ofList, List.contains_iff_mem, ExtTreeSet.mem_toList]

/-- To add a row is to make the policy anew of all its rows and that one. -/
theorem Normal.withRow_eq (hp : p.Normal) (row : PolicyRow) :
    p.withRow row = ofRows (p.toRows ++ [row]) p.exempt.toList := by
  rw [ofRows, List.foldl_append, ← ofRows, hp.ofRows_toRows]
  rfl

/-! ## One policy over another -/

theorem exempt_merge (p q : LayerPolicy) : (p.merge q).exempt = p.exempt :=
  exempt_foldl_withRow q.toRows p

theorem Normal.merge (hp : p.Normal) (q : LayerPolicy) : (p.merge q).Normal :=
  hp.foldl_withRow q.toRows

/-- The upper table is asked first. -/
theorem Normal.getElem?_merge (hq : q.Normal) (p : LayerPolicy) (key : LayerName × LayerName) :
    (p.merge q).rows[key]? = (q.rows[key]?).or p.rows[key]? := by
  rw [LayerPolicy.merge, getElem?_foldl_withRow, hq.lastSaid?_toRows]

theorem Normal.merge_assoc (hq : q.Normal) (hr : r.Normal) (p : LayerPolicy) :
    (p.merge q).merge r = p.merge (q.merge r) := by
  refine LayerPolicy.ext (fun key => ?_) ?_
  · rw [hr.getElem?_merge, hq.getElem?_merge, (hq.merge r).getElem?_merge, hr.getElem?_merge,
      Option.or_assoc]
  · rw [exempt_merge, exempt_merge, exempt_merge]

theorem Normal.merge_self (hp : p.Normal) : p.merge p = p := by
  refine LayerPolicy.ext (fun key => ?_) (exempt_merge p p)
  rw [hp.getElem?_merge, Option.or_self]

/-- The exempt layers come first, then the table, and else an import is allowed. -/
theorem allows_eq (p : LayerPolicy) (a b : String) :
    p.allows a b =
      if Layer.normalize a = Layer.normalize b ∨ p.isExempt a = true ∨ p.isExempt b = true then true
      else (p.row? a b).getD true := by
  rw [allows, row?_eq, isExempt, isExempt, ExtTreeMap.getD_eq_getD_getElem?]
  split
  · next hspared =>
    rcases hspared with heq | ha | hb
    · rw [heq, beq_self_eq_true, Bool.true_or, Bool.true_or, Bool.true_or]
    · rw [ha, Bool.or_true, Bool.true_or, Bool.true_or]
    · rw [hb, Bool.or_true, Bool.true_or]
  · next hspared =>
    rw [not_or, not_or, Bool.not_eq_true, Bool.not_eq_true] at hspared
    rw [beq_eq_false_iff_ne.2 hspared.1, hspared.2.1, hspared.2.2]
    rfl

/-- **Merging lays one policy over another.**  Take three policies of whatever rows and
exempt layers.  With the second one laid over the first, a layer may import itself and
an import that touches a layer exempt in the first is allowed.  Any other import is
decided by the second one's row for its two layers, without such a row by the first
one's, and without either it is allowed.  Who is exempt is up to the first.  It makes no
difference which two of the three are merged before the third one; a policy laid over
itself stays what it is, and so does one that is made anew of its own rows and exempt
layers.  To add a row to it is to make it anew of these rows and that one. -/
theorem merge_overrides (rows₁ rows₂ rows₃ : List PolicyRow)
    (exempt₁ exempt₂ exempt₃ : List String) :
    let p := ofRows rows₁ exempt₁
    let q := ofRows rows₂ exempt₂
    let r := ofRows rows₃ exempt₃
    (∀ a b, (p.merge q).allows a b =
      if Layer.normalize a = Layer.normalize b ∨ p.isExempt a = true ∨ p.isExempt b = true then true
      else ((q.row? a b).or (p.row? a b)).getD true) ∧
    (p.merge q).exempt = p.exempt ∧
    (p.merge q).merge r = p.merge (q.merge r) ∧
    p.merge p = p ∧
    ofRows p.toRows p.exempt.toList = p ∧
    ∀ row, p.withRow row = ofRows (p.toRows ++ [row]) p.exempt.toList := by
  intro p q r
  have hp : p.Normal := normal_ofRows rows₁ exempt₁
  have hq : q.Normal := normal_ofRows rows₂ exempt₂
  have hr : r.Normal := normal_ofRows rows₃ exempt₃
  refine ⟨fun a b => ?_, exempt_merge p q, hq.merge_assoc hr p, hp.merge_self, hp.ofRows_toRows,
    hp.withRow_eq⟩
  rw [allows_eq, isExempt, isExempt, exempt_merge, row?_eq, hq.getElem?_merge, row?_eq, row?_eq]
  rfl

end LayerPolicy

end LayerLint
