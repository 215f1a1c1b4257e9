import Mathlib.Algebra.GroupWithZero.Nat
import LayerLint.Proofs.Path.Written

/-!
# Canonical forms of canonical forms

Blanks go first, and only then does the path take its normal form.  Where a step
up takes back the name behind a blank, or where the first name goes, a blank comes
to stand at the end or at the beginning; there it stays, and the canonical form of
the result is another path.

This is the only way.  Every part of the canonical form either keeps the characters
that are no slashes or loses some of them, so a path that is its own canonical form
has lost none, not even a blank.  Conversely a canonical path without blanks at its
ends is in normal form already.

## Main results

* `canonical_canonical_iff`: canonical paths without blanks at their ends are their own canonical
  forms, and no others.
* `strip_canonical`: there are none when no component has a blank at its ends.
-/

namespace LayerLint

namespace Path

variable {s t : String}

/-! ## Characters that are no slashes -/

/-- The number of characters that are no slashes. -/
def solid (s : String) : Nat := s.toList.countP (· ≠ '/')

theorem solid_append (s t : String) : solid (s ++ t) = solid s + solid t := by
  rw [solid, solid, solid, String.toList_append, List.countP_append]

theorem solid_root (root : Root) : solid root.text = 0 := by
  cases root <;> decide

theorem solid_join (parts : List String) :
    solid (Text.join "/" parts) = (parts.map solid).sum := by
  have hslash : solid "/" = 0 := by decide
  induction parts with
  | nil => rfl
  | cons first more ih =>
      by_cases hmore : more = []
      · subst hmore
        simp [Text.join_singleton]
      · rw [Text.join_cons hmore, solid_append, solid_append, hslash, ih, List.map_cons,
          List.sum_cons, Nat.add_zero]

theorem solid_slashed_le (s : String) : solid (slashed s) ≤ solid s := by
  rw [solid, slashed, Text.replaceChar, String.toList_ofList, List.countP_map]
  refine List.countP_mono_left fun c _ hc => ?_
  by_cases hback : c = '\\'
  · simp [hback] at hc
  · simpa [hback] using hc

/-- A component adds no more to the stack than it has. -/
theorem solid_collapseStep_le (root : Root) (stack : List String) (c : String) :
    ((collapseStep root stack c).map solid).sum ≤ (stack.map solid).sum + solid c := by
  unfold collapseStep
  split
  · exact Nat.le_add_right _ _
  · split
    · simp only [List.map_cons, List.sum_cons]
      omega
    · next hup =>
      obtain rfl : c = ".." := Decidable.of_not_not hup
      split
      · split
        · simp
        · simp
      · split
        · next htop =>
          simp only [List.map_cons, List.sum_cons, htop]
          omega
        · simp only [List.map_cons, List.sum_cons]
          omega

theorem solid_collapse_le (root : Root) (components : List String) :
    ((collapse root components).map solid).sum ≤ (components.map solid).sum := by
  have hfold : ∀ stack : List String,
      ((components.foldl (collapseStep root) stack).map solid).sum ≤
        (stack.map solid).sum + (components.map solid).sum := by
    induction components with
    | nil => exact fun stack => Nat.le_add_right _ _
    | cons c rest ih =>
        intro stack
        have hstep := solid_collapseStep_le root stack c
        have hrest := ih (collapseStep root stack c)
        rw [List.foldl_cons, List.map_cons, List.sum_cons]
        omega
  have hempty := hfold []
  rw [collapse, List.map_reverse, List.sum_reverse]
  simpa using hempty

theorem solid_normalize_le (s : String) : solid (normalize s) ≤ solid s := by
  have hsplit : solid s = ((Text.split '/' s).map solid).sum := by
    rw [← solid_join]
    exact congrArg solid (Text.join_split '/' s).symm
  rw [normalize, solid_append, solid_root, Nat.zero_add, solid_join, hsplit]
  exact solid_collapse_le _ _

theorem isBlank_slash : Text.isBlank '/' = false := by decide

/-- Blanks are no slashes, so a text that keeps all characters but slashes keeps its
blanks. -/
theorem strip_eq_self_of_solid (h : solid s ≤ solid (Text.strip s)) : Text.strip s = s := by
  have hblank : ∀ cs : List Char, (∀ c ∈ cs, Text.isBlank c = true) →
      cs.countP (· ≠ '/') = cs.length := by
    intro cs hcs
    refine List.countP_eq_length.2 fun c hc => decide_eq_true ?_
    rintro rfl
    exact absurd (hcs _ hc) (ne_true_of_eq_false isBlank_slash)
  obtain ⟨front, back, hs, hfront, hback⟩ := Text.exists_strip s
  have hcount : solid s = front.length + solid (Text.strip s) + back.length := by
    rw [solid, hs, List.countP_append, List.countP_append, hblank front hfront, hblank back hback]
    rfl
  have hnone : front = [] ∧ back = [] :=
    ⟨List.eq_nil_of_length_eq_zero (by omega), List.eq_nil_of_length_eq_zero (by omega)⟩
  rw [hnone.1, hnone.2, List.nil_append, List.append_nil] at hs
  exact (String.toList_inj.1 hs).symm

/-! ## Paths that are their own canonical forms -/

/-- A path that is its own canonical form has no blanks at its ends. -/
theorem strip_eq_self_of_canonical (h : canonical s = s) : Text.strip s = s := by
  refine strip_eq_self_of_solid ?_
  calc solid s
    _ = solid (canonical s) := by rw [h]
    _ ≤ solid (slashed (Text.strip s)) := solid_normalize_le _
    _ ≤ solid (Text.strip s) := solid_slashed_le _

/-- A canonical path without blanks at its ends is its own canonical form. -/
theorem canonical_eq_self_of_strip {path : String}
    (h : Text.strip (canonical path) = canonical path) :
    canonical (canonical path) = canonical path := by
  obtain ⟨p, hp, hwritten⟩ := exists_written path
  have hcollapse : p.collapsed = p := by
    rw [Parts.collapsed, collapse_eq_self hp.normal]
  rw [hwritten] at h ⊢
  rw [canonical, h, Parts.slashed_written hp.plain, Parts.normalize_written hp.writable, hcollapse]

/-- Canonical paths without blanks at their ends are their own canonical forms, and no
others. -/
theorem canonical_canonical_iff (path : String) :
    canonical (canonical path) = canonical path ↔
      Text.strip (canonical path) = canonical path :=
  ⟨strip_eq_self_of_canonical, canonical_eq_self_of_strip⟩

/-- When no component has a blank at its ends, neither has the canonical path. -/
theorem strip_canonical {path : String}
    (h : ∀ c ∈ Text.split '/' (slashed (Text.strip path)), Text.strip c = c) :
    Text.strip (canonical path) = canonical path := by
  unfold canonical normalize
  generalize slashed (Text.strip path) = s at h ⊢
  dsimp only
  generalize Root.ofPath s = root
  generalize hnames : collapse root (Text.split '/' s) = names
  have hname : ∀ name ∈ names, name ≠ "" ∧ Text.strip name = name := by
    intro name hmem
    rw [← hnames] at hmem
    exact ⟨((normal_collapse _ _).ne_dot hmem).1, h name (mem_of_mem_collapse hmem)⟩
  have hslash : ∀ c ∈ root.text.toList, Text.isBlank c = false := by
    cases root <;> simp [Root.text, isBlank_slash]
  refine Text.strip_eq_self (fun c hc => ?_) (fun c hc => ?_)
  · rw [String.toList_append, List.head?_append, Option.mem_def, Option.or_eq_some_iff] at hc
    rcases hc with hc | ⟨-, hc⟩
    · exact hslash c (List.mem_of_head? hc)
    · rw [Text.head?_join fun name hmem => (hname name hmem).1] at hc
      obtain ⟨first, hfirst, hc⟩ := Option.bind_eq_some_iff.1 hc
      refine Text.head?_strip first c ?_
      rwa [(hname first (List.mem_of_head? hfirst)).2]
  · rw [String.toList_append, List.getLast?_append, Option.mem_def, Option.or_eq_some_iff] at hc
    rcases hc with hc | ⟨-, hc⟩
    · rw [Text.getLast?_join fun name hmem => (hname name hmem).1] at hc
      obtain ⟨last, hlast, hc⟩ := Option.bind_eq_some_iff.1 hc
      refine Text.getLast?_strip last c ?_
      rwa [(hname last (List.mem_of_getLast? hlast)).2]
    · exact hslash c (List.mem_of_getLast? hc)

end Path

end LayerLint
