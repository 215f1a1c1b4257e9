import Std.Data.ExtTreeSet
import LayerLint.Fault
import LayerLint.Layer

/-!
# Classification by directories

The directories of a module's path decide its layer.  A pattern is a run of
directory names; it matches where the path holds that run.  The longest
pattern that matches wins, among matches of one length the deepest, and when
one pattern is listed under several layers the smallest layer name.

`Classifier.ofSegments` sorts the patterns so that `classify` is one pass over
them that keeps the first best match.

## Main results

* `lastMatch?_eq_some_iff`: the match of a pattern is its deepest occurrence.
-/

namespace LayerLint

open Std (ExtTreeSet)

/-! ## Directories -/

/-- The directories of a path in lower case, without the file name. -/
def directoriesOf (path : String) : List String :=
  ((Text.split '/' (Text.lower (Text.strip (Text.replaceChar '\\' '/' path)))).filter
    fun c => c ≠ "" && c ≠ ".").dropLast

/-- The runs of directories that name the built-in layers. -/
def defaultSegments : List (String × List String) := [
  (Layer.domain, ["domain", "core/domain", "entities", "usecases", "use_cases"]),
  (Layer.data, ["data", "datasources", "data_sources", "infrastructure"]),
  (Layer.presentation, ["presentation", "ui", "views", "widgets", "pages", "screens", "states"])]

/-! ## Patterns -/

/-- A run of directory names and the layer it stands for. -/
structure Pattern where
  components : List String
  layer : LayerName
  deriving DecidableEq, Repr

namespace Pattern

/-- Longer patterns come first, then the order of the components, then that of the
layers. -/
def order : Pattern → Pattern → Ordering :=
  compareLex (compareOn fun p : Pattern => -(p.components.length : Int)) <|
  compareLex (compareOn (·.components)) (compareOn (·.layer))

/-- The directory names in a pattern as a configuration writes it. -/
def componentsOf (segment : String) : List String :=
  let trimmed := Text.replaceChar '\\' '/' segment
  (Text.split '/' (Text.lower trimmed)).filter (· ≠ "")

end Pattern

/-! ## Matches -/

/-- The deepest place where `components` stand one after another in `directories`. -/
def lastMatch? (directories components : List String) : Option Nat :=
  (List.range (directories.length + 1 - components.length)).reverse.find? fun start =>
    components.isPrefixOf (directories.drop start)

/-- `components` stand in `directories` from `start` on. -/
def MatchesAt (directories components : List String) (start : Nat) : Prop :=
  start ≤ directories.length ∧ components <+: directories.drop start

theorem lastMatch?_eq_some_iff {directories components : List String} {start : Nat} :
    lastMatch? directories components = some start ↔
      MatchesAt directories components start ∧
        ∀ later, MatchesAt directories components later → later ≤ start := by
  have hbound : ∀ i, MatchesAt directories components i →
      i < directories.length + 1 - components.length := by
    rintro i ⟨hi, hp⟩
    have := hp.length_le
    simp only [List.length_drop] at this
    omega
  constructor
  · intro h
    rw [lastMatch?, List.find?_eq_some_iff_append] at h
    obtain ⟨hm, before, after, hr, hb⟩ := h
    have hmem : start ∈ (List.range (directories.length + 1 - components.length)).reverse := by
      rw [hr]; simp
    rw [List.mem_reverse, List.mem_range] at hmem
    refine ⟨⟨by omega, List.isPrefixOf_iff_prefix.1 hm⟩, fun later hl => ?_⟩
    have hin : later ∈ (List.range (directories.length + 1 - components.length)).reverse :=
      List.mem_reverse.2 (List.mem_range.2 (hbound later hl))
    rw [hr, List.mem_append, List.mem_cons] at hin
    rcases hin with hin | rfl | hin
    · have := hb later hin
      rw [List.isPrefixOf_iff_prefix.2 hl.2] at this
      cases this
    · exact Nat.le_refl _
    · have hs : (before ++ start :: after).Pairwise (· > ·) := by
        rw [← hr, List.pairwise_reverse]
        exact List.pairwise_lt_range
      have := (List.pairwise_append.1 hs).2.1
      exact Nat.le_of_lt (List.rel_of_pairwise_cons this hin)
  · rintro ⟨hm, hmax⟩
    cases h : lastMatch? directories components with
    | none =>
      have := List.find?_eq_none.1 h start
        (List.mem_reverse.2 (List.mem_range.2 (hbound start hm)))
      exact absurd (List.isPrefixOf_iff_prefix.2 hm.2) this
    | some other =>
      have hother : MatchesAt directories components other := by
        have hf := List.find?_some h
        have hr := List.mem_of_find?_eq_some h
        rw [List.mem_reverse, List.mem_range] at hr
        exact ⟨by omega, List.isPrefixOf_iff_prefix.1 hf⟩
      have h₁ := hmax other hother
      have hr : start ∈ (List.range (directories.length + 1 - components.length)).reverse :=
        List.mem_reverse.2 (List.mem_range.2 (hbound start hm))
      rw [lastMatch?, List.find?_eq_some_iff_append] at h
      obtain ⟨_, before, after, hl, hb⟩ := h
      rw [hl, List.mem_append, List.mem_cons] at hr
      rcases hr with hr | rfl | hr
      · have := hb start hr
        rw [List.isPrefixOf_iff_prefix.2 hm.2] at this
        cases this
      · rfl
      · have hs : (before ++ other :: after).Pairwise (· > ·) := by
          rw [← hl, List.pairwise_reverse]
          exact List.pairwise_lt_range
        have := List.rel_of_pairwise_cons (List.pairwise_append.1 hs).2.1 hr
        omega

/-- A place where a pattern matches. -/
structure Match where
  size : Nat
  start : Nat
  layer : LayerName
  deriving DecidableEq, Repr

/-- Longer, or as long and deeper. -/
def Match.better (m best : Match) : Bool :=
  best.size < m.size || (m.size == best.size && best.start < m.start)

/-! ## Classifiers -/

/-- Patterns, the longest first. -/
structure Classifier where
  patterns : List Pattern

namespace Classifier

/-- The classifier for layers and the runs of directories that name them. -/
def ofSegments (segments : List (String × List String)) : Classifier :=
  let patterns := segments.flatMap fun (layer, runs) =>
    (runs.map Pattern.componentsOf).filterMap fun components =>
      if components.isEmpty then none else some ⟨components, Layer.normalize layer⟩
  ⟨patterns.mergeSort fun p q => (p.order q).isLE⟩

/-- The names of the layers that have a pattern, in order. -/
def layers (c : Classifier) : List LayerName :=
  (ExtTreeSet.ofList (c.patterns.map (·.layer))).toList

/-- The best match so far after one more pattern. -/
def keepBest (directories : List String) (best : Option Match) (p : Pattern) : Option Match :=
  match lastMatch? directories p.components with
  | none => best
  | some start =>
    let m : Match := ⟨p.components.length, start, p.layer⟩
    match best with
    | none => some m
    | some b => if m.better b then some m else some b

/-- Goes through the patterns until one is shorter than the best match so far. -/
def scan (directories : List String) (best : Option Match) : List Pattern → Option Match
  | [] => best
  | p :: rest =>
    if best.any fun b => p.components.length < b.size then best
    else scan directories (keepBest directories best p) rest

def bestMatch? (c : Classifier) (directories : List String) : Option Match :=
  scan directories none c.patterns

/-- The layer of a module path. -/
def classify (c : Classifier) (path : String) : LayerName :=
  match c.bestMatch? (directoriesOf path) with
  | some m => m.layer
  | none => Layer.unknown

def default : Classifier := ofSegments defaultSegments

end Classifier

/-- The runs of directories in a configuration value: texts in a list, or the characters
of a text. -/
def segmentsOfValue (v : Value) : Except Fault (List (String × List String)) := do
  let some entries := v.dict? | throw (.noOperation v.fullKindName "items")
  entries.mapM fun (layer, runs) => do
    let some items := runs.items? | throw (.notIterable runs.fullKindName)
    let texts ← items.mapM fun item =>
      match item with
      | .str s => pure s
      | other => throw (.noOperation other.fullKindName "replace")
    pure (layer, texts)

end LayerLint
