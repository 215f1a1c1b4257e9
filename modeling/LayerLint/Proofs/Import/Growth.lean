import LayerLint.Proofs.Import.Index

/-!
# A project with one more file

A file is added to a project, and an import that led to some file is resolved
again.  Resolving looks up one path or one name after another, and every single
look-up answers as it did before, or with the new file; so do several of them
together, of which the first answer counts.

There are two ways in which the new file could do more.  A path through a library
directory can make a directory the root of a package whose addresses led
elsewhere, so such a file is left out where the import is a package's address.
And the new file's first component becomes a root name of the project, so that
more names are looked up for a dotted import.  Those names come last: they can
give an answer to an import that had none, but not another one in its place.

## Main results

* `SameOrNew.findSome?`: look-ups that answer alike do so together.
* `resolve?_of_new_file`: an import leads where it led, or to the new file.
-/

namespace LayerLint.Import.Resolver

open Std (ExtTreeSet)

/-! ## Answers before and after -/

/-- What was answered is answered again, or else the answer is the new file. -/
def SameOrNew (q : ModuleId) (before after : Option ModuleId) : Prop :=
  after = before ∨ after = some q

namespace SameOrNew

variable {q : ModuleId} {before before' after after' : Option ModuleId}

theorem refl (q : ModuleId) (before : Option ModuleId) : SameOrNew q before before := Or.inl rfl

/-- Of two look-ups the first one counts, if it answers. -/
theorem or (h : SameOrNew q before after) (h' : SameOrNew q before' after') :
    SameOrNew q (before.or before') (after.or after') := by
  rcases h with rfl | rfl
  · cases after with
    | some file => exact Or.inl rfl
    | none => exact h'
  · exact Or.inr rfl

theorem findSome? {α : Type} {f f' : α → Option ModuleId} {xs : List α}
    (h : ∀ x ∈ xs, SameOrNew q (f x) (f' x)) : SameOrNew q (xs.findSome? f) (xs.findSome? f') := by
  induction xs with
  | nil => exact refl q none
  | cons x rest ih =>
      have hrest := ih fun y hy => h y (List.mem_cons_of_mem x hy)
      have hcons : ∀ g : α → Option ModuleId,
          (x :: rest).findSome? g = (g x).or (rest.findSome? g) := by
        intro g
        rw [List.findSome?_cons]
        cases g x <;> rfl
      rw [hcons, hcons]
      exact (h x List.mem_cons_self).or hrest

theorem of_eq_some {p : ModuleId} (h : SameOrNew q before after) (hp : before = some p) :
    after = some p ∨ after = some q := hp ▸ h

/-- The look-up that counts last may do anything as long as it has not answered. -/
theorem or_of_eq_some {p : ModuleId} (h : SameOrNew q before after)
    (h' : before' = some p → after' = some p ∨ after' = some q)
    (hp : before.or before' = some p) :
    after.or after' = some p ∨ after.or after' = some q := by
  rcases h with rfl | rfl
  · cases after with
    | some file => exact Or.inl hp
    | none => exact h' hp
  · exact Or.inr rfl

end SameOrNew

/-! ## The look-ups -/

section Lookups

variable {known packageNames : List String} {q : String}

theorem sameOrNew_file? (path : String) :
    SameOrNew q ((ofFiles known packageNames).file? path)
      ((ofFiles (q :: known) packageNames).file? path) := by
  have hmem : Path.canonical path ∈ (ofFiles (q :: known) packageNames).files ↔
      q = Path.canonical path ∨ Path.canonical path ∈ (ofFiles known packageNames).files := by
    rw [files_of_new_file, Tables.mem_insertSet]
  unfold file?
  dsimp only
  simp only [ExtTreeSet.contains_iff_mem, hmem]
  by_cases hold : Path.canonical path ∈ (ofFiles known packageNames).files
  · rw [if_pos (Or.inr hold), if_pos hold]
    exact SameOrNew.refl q _
  · by_cases hq : q = Path.canonical path
    · rw [if_pos (Or.inl hq), ← hq]
      exact Or.inr rfl
    · rw [if_neg (not_or.2 ⟨hq, hold⟩), if_neg hold]
      exact SameOrNew.refl q _

theorem sameOrNew_relative? (imp source : String) :
    SameOrNew q ((ofFiles known packageNames).relative? imp source)
      ((ofFiles (q :: known) packageNames).relative? imp source) := by
  unfold relative?
  dsimp only
  split
  · exact sameOrNew_file? _
  · exact (sameOrNew_file? _).or (sameOrNew_file? _)

/-- A package's address leads below the root that the package had before. -/
theorem sameOrNew_inPackage? (hq : Text.contains "/lib/" q = false) (address : String) :
    SameOrNew q ((ofFiles known packageNames).inPackage? address)
      ((ofFiles (q :: known) packageNames).inPackage? address) := by
  unfold inPackage?
  rw [packageRoots_of_new_file hq]
  cases (ofFiles known packageNames).packageRoots[Text.beforeFirst '/' address]? with
  | none => exact SameOrNew.refl q none
  | some root =>
      rw [Option.bind_eq_bind, Option.bind_some, Option.bind_some]
      dsimp only
      split
      · exact SameOrNew.refl q none
      · exact sameOrNew_file? _

/-- The names that belong to the project stay its own. -/
theorem rootNames_of_new_file {name : String}
    (h : (ofFiles known packageNames).rootNames.contains name = true) :
    (ofFiles (q :: known) packageNames).rootNames.contains name = true := by
  have hroots : ∀ paths, (ofFiles paths packageNames).rootNames =
      ExtTreeSet.ofList ((ofFiles paths packageNames).files.toList.flatMap rootNamesOf) :=
    fun _ => rfl
  rw [hroots, ExtTreeSet.contains_iff_mem, ExtTreeSet.mem_ofList, List.contains_iff_mem,
    List.mem_flatMap] at h ⊢
  obtain ⟨path, hpath, hname⟩ := h
  refine ⟨path, ?_, hname⟩
  rw [ExtTreeSet.mem_toList] at hpath ⊢
  rw [files_of_new_file, Tables.mem_insertSet]
  exact Or.inr hpath

/-- The further names that are looked up for a dotted import come last. -/
theorem byName?_of_new_file {imp : String} {p : ModuleId}
    (h : (ofFiles known packageNames).byName? imp = some p) :
    (ofFiles (q :: known) packageNames).byName? imp = some p ∨
      (ofFiles (q :: known) packageNames).byName? imp = some q := by
  have hnames : ∀ names : List String,
      SameOrNew q (names.findSome? fun name => (ofFiles known packageNames).index[name]?)
        (names.findSome? fun name => (ofFiles (q :: known) packageNames).index[name]?) :=
    fun names => SameOrNew.findSome? fun name _ => index_of_new_file name
  unfold byName? candidates at h ⊢
  rw [List.findSome?_append] at h ⊢
  refine (hnames [imp, "src." ++ imp]).or_of_eq_some (fun hlast => ?_) h
  by_cases hroot : (ofFiles known packageNames).rootNames.contains (Text.beforeFirst '.' imp) = true
  · rw [if_pos hroot] at hlast
    rw [if_pos (rootNames_of_new_file hroot)]
    exact (hnames (properSuffixes imp)).of_eq_some hlast
  · rw [if_neg hroot] at hlast
    cases hlast

end Lookups

/-- **A new file redirects an import to nothing but itself.**  Add a file to a
project.  An import that led to a file of the project leads to the same file as
before, or to the new one; provided that it is no package's address, or that the
new file lies in no library directory. -/
theorem resolve?_of_new_file {known packageNames : List String} {q imp source p : String}
    (hq : Text.startsWith packageMark (bare imp) = false ∨ Text.contains "/lib/" q = false)
    (h : (ofFiles known packageNames).resolve? imp source = some p) :
    (ofFiles (q :: known) packageNames).resolve? imp source = some p ∨
      (ofFiles (q :: known) packageNames).resolve? imp source = some q := by
  unfold resolve? resolveBare? at h ⊢
  generalize bare imp = b at hq h ⊢
  by_cases hempty : b = ""
  · rw [if_pos hempty] at h
    cases h
  rw [if_neg hempty] at h ⊢
  by_cases hbeside : (Text.startsWith "./" b || Text.startsWith "../" b) = true
  · rw [if_pos hbeside] at h ⊢
    exact (sameOrNew_file? _).of_eq_some h
  rw [if_neg hbeside] at h ⊢
  by_cases hrelative : Text.startsWith "." b = true
  · rw [if_pos hrelative] at h ⊢
    exact (sameOrNew_relative? b source).of_eq_some h
  rw [if_neg hrelative] at h ⊢
  by_cases hpackage : Text.startsWith packageMark b = true
  · rw [if_pos hpackage] at h ⊢
    have houtside : Text.contains "/lib/" q = false :=
      hq.resolve_left (ne_false_of_eq_true hpackage)
    exact (sameOrNew_inPackage? houtside _).of_eq_some h
  rw [if_neg hpackage] at h ⊢
  dsimp only at h ⊢
  have hnear : SameOrNew q
      (if (!Text.contains ":" b && (Path.Parts.ofPath b).suffix != "") = true then
        (ofFiles known packageNames).beside? b source else none)
      (if (!Text.contains ":" b && (Path.Parts.ofPath b).suffix != "") = true then
        (ofFiles (q :: known) packageNames).beside? b source else none) := by
    split
    · exact sameOrNew_file? _
    · exact SameOrNew.refl q none
  refine hnear.or_of_eq_some (fun hlast => ?_) h
  by_cases hslash : Text.contains "/" b = true
  · rw [if_pos hslash] at hlast ⊢
    exact (sameOrNew_file? b).of_eq_some hlast
  · rw [if_neg hslash] at hlast ⊢
    exact byName?_of_new_file hlast

/-- The name of a file below `src` comes to mean a file that has it without that
directory, and a package's address stays where it leads although a file comes in front.
-/
theorem resolve?_of_new_file_of_name :
    let known := ["src/app/user.py", "kit/lib/user.dart"]
    let old := ofFiles known []
    let new := ofFiles ("app/user.py" :: known) []
    (old.resolve? "app.user" "main.py" = some "src/app/user.py" ∧
      new.resolve? "app.user" "main.py" = some "app/user.py") ∧
    (old.resolve? "'package:kit/user.dart'" "main.py" = some "kit/lib/user.dart" ∧
      (new.resolve? "'package:kit/user.dart'" "main.py" = some "kit/lib/user.dart" ∨
        new.resolve? "'package:kit/user.dart'" "main.py" = some "app/user.py")) := by
  intro known old new
  have hname : old.resolve? "app.user" "main.py" = some "src/app/user.py" := by decide +kernel
  have haddress : old.resolve? "'package:kit/user.dart'" "main.py" = some "kit/lib/user.dart" := by
    decide +kernel
  refine ⟨⟨hname, ?_⟩, haddress, ?_⟩
  · refine (resolve?_of_new_file (Or.inl (by decide +kernel)) hname).resolve_left ?_
    decide +kernel
  · exact resolve?_of_new_file (Or.inr (by decide +kernel)) haddress

end LayerLint.Import.Resolver
