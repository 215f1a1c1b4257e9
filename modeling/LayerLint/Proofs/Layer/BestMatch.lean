import Mathlib.Data.List.Induction
import Mathlib.Data.String.Basic
import LayerLint.Layer.Classifier

/-!
# The best match decides

A classifier keeps the first of the best matches while it goes once through its
patterns, the longest of them first.  What it is meant to find does not speak of
any order: among all the places where a configured run of directories stands in a
path, the one that outranks the others.

Both are the same because of the order in which the patterns are gone through.  A
pattern that comes later is not longer, so it can at most match deeper; and where
it matches at the very place of the best match, it consists of the same names and
its layer does not come earlier.

What outranks all others is the only one to do so.  Hence the layer of a path
depends on which runs are configured for which layers, and on nothing else about
the configuration.

## Main results

* `isBest_keepBest`: one more pattern, gone through in order, keeps the match the best.
* `scan_eq_foldl`: a scan that ends early finds what going through all patterns finds.
* `isBest_bestMatch?`: what a classifier finds outranks all that is there.
* `classify_of_best_match`: the layer of a path is that of the run that outranks the others.
-/

namespace LayerLint

/-! ## Ranks of matches -/

namespace Match

/-- Longer; or as long and deeper; or at the same place, for a layer that does not come
later. -/
def Outranks (m other : Match) : Prop :=
  other.size < m.size ∨ other.size = m.size ∧
    (other.start < m.start ∨ other.start = m.start ∧ m.layer ≤ other.layer)

variable {m other third : Match}

theorem Outranks.trans (h : m.Outranks other) (h' : other.Outranks third) : m.Outranks third := by
  unfold Outranks at h h' ⊢
  rcases h with hsize | ⟨hsize, hstart | ⟨hstart, hlayer⟩⟩
  · exact Or.inl (by omega)
  · rcases h' with hsize' | ⟨hsize', hstart' | ⟨hstart', -⟩⟩
    · exact Or.inl (by omega)
    · exact Or.inr ⟨by omega, Or.inl (by omega)⟩
    · exact Or.inr ⟨by omega, Or.inl (by omega)⟩
  · rcases h' with hsize' | ⟨hsize', hstart' | ⟨hstart', hlayer'⟩⟩
    · exact Or.inl (by omega)
    · exact Or.inr ⟨by omega, Or.inl (by omega)⟩
    · exact Or.inr ⟨by omega, Or.inr ⟨by omega, hlayer.trans hlayer'⟩⟩

theorem Outranks.antisymm (h : m.Outranks other) (h' : other.Outranks m) : m = other := by
  obtain ⟨size, start, layer⟩ := m
  obtain ⟨size', start', layer'⟩ := other
  unfold Outranks at h h'
  dsimp only at h h'
  obtain rfl : size = size' := by omega
  obtain rfl : start = start' := by omega
  have hlayer : layer ≤ layer' := by simpa using h
  have hlayer' : layer' ≤ layer := by simpa using h'
  rw [le_antisymm hlayer hlayer']

/-- Of the matches that are found, the one that outranks the others; none when none is
found. -/
def IsBest (Found : Match → Prop) : Option Match → Prop
  | none => ∀ m, ¬Found m
  | some m => Found m ∧ ∀ other, Found other → m.Outranks other

theorem IsBest.unique {Found : Match → Prop} {best best' : Option Match} (h : IsBest Found best)
    (h' : IsBest Found best') : best = best' := by
  cases best with
  | none =>
      cases best' with
      | none => rfl
      | some m' => exact absurd h'.1 (h m')
  | some m =>
      cases best' with
      | none => exact absurd h.1 (h' m)
      | some m' => rw [(h.2 m' h'.1).antisymm (h'.2 m h.1)]

end Match

/-! ## Patterns in order -/

theorem not_matchesAt_of_lastMatch? {directories components : List String}
    (h : lastMatch? directories components = none) (start : Nat) :
    ¬MatchesAt directories components start := by
  rintro ⟨hstart, hprefix⟩
  have hfits := hprefix.length_le
  rw [List.length_drop] at hfits
  refine List.find?_eq_none.1 h start ?_ (List.isPrefixOf_iff_prefix.2 hprefix)
  rw [List.mem_reverse, List.mem_range]
  omega

namespace Pattern

variable {p q : Pattern} {directories : List String} {b m : Match}

instance : Std.TransCmp order := inferInstanceAs (Std.TransCmp (compareLex _ _))

theorem isLE_order_total (p q : Pattern) : ((p.order q).isLE || (q.order p).isLE) = true := by
  have hswap : (p.order q).swap = q.order p := Std.OrientedCmp.eq_swap.symm
  rw [← hswap]
  cases p.order q <;> rfl

/-- A pattern that comes later is not longer. -/
theorem length_le_of_isLE_order (h : (q.order p).isLE = true) :
    p.components.length ≤ q.components.length := by
  rw [order, compareLex, Ordering.isLE_then_iff_and] at h
  have hlength := h.1
  rw [compareOn, Std.isLE_compare] at hlength
  omega

/-- Of patterns of the same names, the one for the earlier layer comes first. -/
theorem layer_le_of_isLE_order (h : (q.order p).isLE = true)
    (hsame : q.components = p.components) : q.layer ≤ p.layer := by
  simp only [order, compareLex, compareOn, hsame, Std.compare_self, Ordering.eq_then] at h
  exact Std.LawfulBCmp.isLE_iff_le.1 h

/-- The match is one of the pattern. -/
structure Gives (p : Pattern) (directories : List String) (m : Match) : Prop where
  stands : MatchesAt directories p.components m.start
  size : m.size = p.components.length
  layer : m.layer = p.layer

/-- The deepest place of a pattern outranks its other places. -/
theorem isBest_lastMatch? (p : Pattern) (directories : List String) :
    Match.IsBest (p.Gives directories)
      ((lastMatch? directories p.components).map fun start =>
        ⟨p.components.length, start, p.layer⟩) := by
  cases hlast : lastMatch? directories p.components with
  | some start =>
      obtain ⟨hstands, hdeepest⟩ := lastMatch?_eq_some_iff.1 hlast
      refine ⟨⟨hstands, rfl, rfl⟩, fun other hother => Or.inr ⟨hother.size, ?_⟩⟩
      rcases Nat.lt_or_eq_of_le (hdeepest other.start hother.stands) with hlt | heq
      · exact Or.inl hlt
      · exact Or.inr ⟨heq, hother.layer.ge⟩
  | none => exact fun m hm => not_matchesAt_of_lastMatch? hlast m.start hm.stands

/-- Patterns that match at one place and are of one length consist of the same names. -/
theorem Gives.components_eq (hq : q.Gives directories b) (hp : p.Gives directories m)
    (hsize : b.size = m.size) (hstart : b.start = m.start) : q.components = p.components := by
  have hlength : q.components.length = p.components.length := by
    rw [← hq.size, ← hp.size, hsize]
  have hprefix := hq.stands.2
  rw [hstart] at hprefix
  exact (List.prefix_of_prefix_length_le hprefix hp.stands.2 hlength.le).eq_of_length hlength

/-- A match of a later pattern that is better is as long and deeper. -/
theorem Gives.outranks_of_better (hq : q.Gives directories b) (hp : p.Gives directories m)
    (hle : (q.order p).isLE = true) (hbetter : m.better b = true) : m.Outranks b := by
  have hshorter := length_le_of_isLE_order hle
  rw [← hq.size, ← hp.size] at hshorter
  simp only [Match.better, Bool.or_eq_true, Bool.and_eq_true, decide_eq_true_eq, beq_iff_eq]
    at hbetter
  rcases hbetter with hlonger | ⟨hsize, hdeeper⟩
  · omega
  · exact Or.inr ⟨hsize.symm, Or.inl hdeeper⟩

/-- A match of a later pattern that is not better is shorter, or not as deep, or for a
layer that does not come earlier. -/
theorem Gives.outranks_of_not_better (hq : q.Gives directories b) (hp : p.Gives directories m)
    (hle : (q.order p).isLE = true) (hbetter : ¬m.better b = true) : b.Outranks m := by
  have hshorter := length_le_of_isLE_order hle
  rw [← hq.size, ← hp.size] at hshorter
  simp only [Match.better, Bool.or_eq_true, Bool.and_eq_true, decide_eq_true_eq, beq_iff_eq,
    not_or, not_and] at hbetter
  rcases Nat.lt_or_eq_of_le hshorter with hlt | hsize
  · exact Or.inl hlt
  · refine Or.inr ⟨hsize, ?_⟩
    rcases Nat.lt_or_eq_of_le (Nat.le_of_not_lt (hbetter.2 hsize)) with hlt | hstart
    · exact Or.inl hlt
    · refine Or.inr ⟨hstart, ?_⟩
      rw [hq.layer, hp.layer]
      exact layer_le_of_isLE_order hle (hq.components_eq hp hsize.symm hstart.symm)

end Pattern

/-! ## Going through the patterns -/

namespace Classifier

/-- A match of one of the patterns. -/
def Finds (patterns : List Pattern) (directories : List String) (m : Match) : Prop :=
  ∃ p ∈ patterns, p.Gives directories m

variable {patterns : List Pattern} {p : Pattern} {directories : List String} {best : Option Match}

theorem finds_concat_iff {m : Match} :
    Finds (patterns ++ [p]) directories m ↔
      Finds patterns directories m ∨ p.Gives directories m := by
  simp only [Finds, List.mem_append, List.mem_singleton, or_and_right, exists_or, exists_eq_left]

/-- One more pattern, gone through in order, keeps the match the best. -/
theorem isBest_keepBest (h : Match.IsBest (Finds patterns directories) best)
    (hle : ∀ q ∈ patterns, (q.order p).isLE = true) :
    Match.IsBest (Finds (patterns ++ [p]) directories) (keepBest directories best p) := by
  have hown := p.isBest_lastMatch? directories
  unfold keepBest
  cases hlast : lastMatch? directories p.components with
  | none =>
      rw [hlast] at hown
      cases best with
      | none => exact fun m hm => (finds_concat_iff.1 hm).elim (h m) (hown m)
      | some b =>
          refine ⟨finds_concat_iff.2 (Or.inl h.1), fun other hother => ?_⟩
          exact (finds_concat_iff.1 hother).elim (h.2 other)
            fun hgives => absurd hgives (hown other)
  | some start =>
      rw [hlast, Option.map_some] at hown
      obtain ⟨hgives, hdeepest⟩ := hown
      dsimp only
      generalize (⟨p.components.length, start, p.layer⟩ : Match) = m at hgives hdeepest ⊢
      cases best with
      | none =>
          refine ⟨finds_concat_iff.2 (Or.inr hgives), fun other hother => ?_⟩
          exact (finds_concat_iff.1 hother).elim (fun hfinds => absurd hfinds (h other))
            (hdeepest other)
      | some b =>
          obtain ⟨⟨q, hq, hqb⟩, hbest⟩ := h
          dsimp only
          split
          · next hbetter =>
            have hmb := hqb.outranks_of_better hgives (hle q hq) hbetter
            refine ⟨finds_concat_iff.2 (Or.inr hgives), fun other hother => ?_⟩
            exact (finds_concat_iff.1 hother).elim (fun hfinds => hmb.trans (hbest other hfinds))
              (hdeepest other)
          · next hbetter =>
            have hbm := hqb.outranks_of_not_better hgives (hle q hq) hbetter
            refine ⟨finds_concat_iff.2 (Or.inl ⟨q, hq, hqb⟩), fun other hother => ?_⟩
            exact (finds_concat_iff.1 hother).elim (hbest other)
              fun hother => hbm.trans (hdeepest other hother)

/-- Patterns that are gone through in order leave the best of all matches. -/
theorem isBest_foldl_keepBest (patterns : List Pattern) (directories : List String)
    (hordered : patterns.Pairwise fun p q => (p.order q).isLE = true) :
    Match.IsBest (Finds patterns directories) (patterns.foldl (keepBest directories) none) := by
  induction patterns using List.reverseRecOn with
  | nil =>
      rintro m ⟨p, hp, -⟩
      cases hp
  | append_singleton done p ih =>
      obtain ⟨hdone, -, hlater⟩ := List.pairwise_append.1 hordered
      rw [List.foldl_concat]
      exact isBest_keepBest (ih hdone) fun q hq => hlater q hq p List.mem_cons_self

theorem keepBest_of_shorter {b : Match} (h : p.components.length < b.size) :
    keepBest directories (some b) p = some b := by
  unfold keepBest
  cases lastMatch? directories p.components with
  | none => rfl
  | some start =>
      have hworse : ¬(⟨p.components.length, start, p.layer⟩ : Match).better b = true := by
        simp only [Match.better, Bool.or_eq_true, Bool.and_eq_true, decide_eq_true_eq, beq_iff_eq]
        omega
      exact if_neg hworse

theorem foldl_keepBest_of_shorter {b : Match}
    (h : ∀ q ∈ patterns, q.components.length < b.size) :
    patterns.foldl (keepBest directories) (some b) = some b := by
  induction patterns with
  | nil => rfl
  | cons q rest ih =>
      obtain ⟨hq, hrest⟩ := List.forall_mem_cons.1 h
      rw [List.foldl_cons, keepBest_of_shorter hq, ih hrest]

/-- The scan ends where none of the patterns that are left changes the result. -/
theorem scan_eq_foldl (patterns : List Pattern) (best : Option Match)
    (hordered : patterns.Pairwise fun p q => (p.order q).isLE = true) :
    scan directories best patterns = patterns.foldl (keepBest directories) best := by
  induction patterns generalizing best with
  | nil => rfl
  | cons p rest ih =>
      obtain ⟨hlater, hrest⟩ := List.pairwise_cons.1 hordered
      rw [scan]
      split
      · next hshorter =>
        obtain ⟨b, rfl, hb⟩ := (Option.any_eq_true _ _).1 hshorter
        have hlength : p.components.length < b.size := of_decide_eq_true hb
        refine (foldl_keepBest_of_shorter (List.forall_mem_cons.2 ⟨hlength, ?_⟩)).symm
        exact fun q hq => (Pattern.length_le_of_isLE_order (hlater q hq)).trans_lt hlength
      · exact ih _ hrest

/-! ## Configured runs -/

/-- A run of directories is configured for a layer. -/
def Lists (segments : List (String × List String)) (layer run : String) : Prop :=
  ∃ runs, (layer, runs) ∈ segments ∧ run ∈ runs

/-- The pattern that a run configured for a layer stands for. -/
def patternOf (layer run : String) : Pattern :=
  ⟨Pattern.componentsOf run, Layer.normalize layer⟩

/-- A configured run of at least one name stands in the directories. -/
def Occurs (segments : List (String × List String)) (directories : List String) (m : Match) :
    Prop :=
  ∃ layer run, Lists segments layer run ∧ Pattern.componentsOf run ≠ [] ∧
    (patternOf layer run).Gives directories m

variable {segments other : List (String × List String)}

theorem mem_patterns_ofSegments_iff :
    p ∈ (ofSegments segments).patterns ↔ ∃ layer run, Lists segments layer run ∧
      Pattern.componentsOf run ≠ [] ∧ p = patternOf layer run := by
  rw [ofSegments, List.mem_mergeSort, List.mem_flatMap]
  constructor
  · rintro ⟨⟨layer, runs⟩, hlayer, hp⟩
    obtain ⟨components, hrun, hsome⟩ := List.mem_filterMap.1 hp
    obtain ⟨run, hmem, rfl⟩ := List.mem_map.1 hrun
    simp only [List.isEmpty_iff, Option.ite_none_left_eq_some, Option.some.injEq] at hsome
    exact ⟨layer, run, ⟨runs, hlayer, hmem⟩, hsome.1, hsome.2.symm⟩
  · rintro ⟨layer, run, ⟨runs, hlayer, hmem⟩, hnamed, rfl⟩
    refine ⟨(layer, runs), hlayer, List.mem_filterMap.2 ⟨_, List.mem_map_of_mem hmem, ?_⟩⟩
    rw [if_neg (by simpa using hnamed), patternOf]

theorem finds_ofSegments_iff {m : Match} :
    Finds (ofSegments segments).patterns directories m ↔ Occurs segments directories m := by
  constructor
  · rintro ⟨p, hp, hgives⟩
    obtain ⟨layer, run, hlisted, hnamed, rfl⟩ := mem_patterns_ofSegments_iff.1 hp
    exact ⟨layer, run, hlisted, hnamed, hgives⟩
  · rintro ⟨layer, run, hlisted, hnamed, hgives⟩
    exact ⟨patternOf layer run,
      mem_patterns_ofSegments_iff.2 ⟨layer, run, hlisted, hnamed, rfl⟩, hgives⟩

/-- What a classifier finds outranks all that is there. -/
theorem isBest_bestMatch? (segments : List (String × List String)) (directories : List String) :
    Match.IsBest (Occurs segments directories) ((ofSegments segments).bestMatch? directories) := by
  have hordered : (ofSegments segments).patterns.Pairwise fun p q => (p.order q).isLE = true :=
    List.pairwise_mergeSort (fun _ _ _ => Std.TransCmp.isLE_trans) Pattern.isLE_order_total _
  have hbest := isBest_foldl_keepBest _ directories hordered
  rw [← scan_eq_foldl _ _ hordered] at hbest
  have hsame : Finds (ofSegments segments).patterns directories = Occurs segments directories :=
    funext fun m => propext finds_ofSegments_iff
  rwa [hsame] at hbest

/-- What is found depends only on which runs are configured for which layers. -/
theorem bestMatch?_congr (h : ∀ layer run, Lists other layer run ↔ Lists segments layer run)
    (directories : List String) :
    (ofSegments other).bestMatch? directories = (ofSegments segments).bestMatch? directories := by
  have hlists : Lists other = Lists segments :=
    funext fun layer => funext fun run => propext (h layer run)
  have hoccurs : Occurs other directories = Occurs segments directories := by
    funext m
    rw [Occurs, Occurs, hlists]
  have hbest := isBest_bestMatch? other directories
  rw [hoccurs] at hbest
  exact hbest.unique (isBest_bestMatch? segments directories)

/-! ## Configurations that say the same -/

theorem lists_iff_of_perm (h : segments.Perm other) (layer run : String) :
    Lists other layer run ↔ Lists segments layer run := by
  simp only [Lists, h.mem_iff]

/-- Two entries give one layer the same runs, in any order and any number. -/
def SameRuns (entry entry' : String × List String) : Prop :=
  entry.1 = entry'.1 ∧ ∀ run, run ∈ entry.2 ↔ run ∈ entry'.2

theorem lists_iff_of_sameRuns (h : List.Forall₂ SameRuns segments other) (layer run : String) :
    Lists other layer run ↔ Lists segments layer run := by
  unfold Lists
  induction h with
  | nil => rfl
  | @cons entry entry' rest rest' hentry _ ih =>
      obtain ⟨name, runs⟩ := entry
      obtain ⟨name', runs'⟩ := entry'
      obtain ⟨rfl, hruns⟩ : name = name' ∧ ∀ run, run ∈ runs ↔ run ∈ runs' := hentry
      simp only [List.mem_cons, Prod.mk.injEq, or_and_right, exists_or, and_assoc,
        exists_and_left, exists_eq_left, ih, hruns]

theorem classify_eq (segments : List (String × List String)) (path : String) :
    (ofSegments segments).classify path =
      ((ofSegments segments).bestMatch? (directoriesOf path)).elim Layer.unknown Match.layer := by
  rw [classify]
  cases (ofSegments segments).bestMatch? (directoriesOf path) <;> rfl

/-- **The best match decides the layer.**  Where no configured run stands among the
directories of a path, its layer is unknown.  Otherwise there is one match that outranks
all others, over all runs and all places: it has the most names, of those it is the
deepest, and of the layers that have this very run its layer is the smallest.  Its layer
is that of the path.  So neither the order of the layers in the configuration, nor the
order and number of the runs of a layer make any difference. -/
theorem classify_of_best_match (segments : List (String × List String)) (path : String) :
    ((∀ m, ¬Occurs segments (directoriesOf path) m) →
      (ofSegments segments).classify path = Layer.unknown) ∧
    ((∃ m, Occurs segments (directoriesOf path) m) →
      ∃ m, Occurs segments (directoriesOf path) m ∧
        (∀ other, Occurs segments (directoriesOf path) other → m.Outranks other) ∧
        (ofSegments segments).classify path = m.layer) ∧
    (∀ other, segments.Perm other →
      (ofSegments other).classify path = (ofSegments segments).classify path) ∧
    (∀ other, List.Forall₂ SameRuns segments other →
      (ofSegments other).classify path = (ofSegments segments).classify path) := by
  have hbest := isBest_bestMatch? segments (directoriesOf path)
  have hsame : ∀ other, (∀ layer run, Lists other layer run ↔ Lists segments layer run) →
      (ofSegments other).classify path = (ofSegments segments).classify path := by
    intro other h
    rw [classify_eq, classify_eq, bestMatch?_congr h]
  refine ⟨fun hnone => ?_, fun hsome => ?_, fun other hperm => ?_, fun other hruns => ?_⟩
  · have hmatch : (ofSegments segments).bestMatch? (directoriesOf path) = none :=
      hbest.unique hnone
    rw [classify_eq, hmatch, Option.elim_none]
  · rw [classify_eq]
    cases hm : (ofSegments segments).bestMatch? (directoriesOf path) with
    | none =>
        rw [hm] at hbest
        obtain ⟨m, hoccurs⟩ := hsome
        exact absurd hoccurs (hbest m)
    | some m =>
        rw [hm] at hbest
        exact ⟨m, hbest.1, hbest.2, rfl⟩
  · exact hsame other (lists_iff_of_perm hperm)
  · exact hsame other (lists_iff_of_sameRuns hruns)

end Classifier

end LayerLint
