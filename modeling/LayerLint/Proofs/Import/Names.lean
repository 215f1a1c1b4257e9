import Mathlib.Data.String.Basic
import LayerLint.Proofs.Import.Index
import LayerLint.Proofs.Text.Pieces

/-!
# Imports by dotted name

An import that is no path, no relative import and no package's address is a
dotted name.  Its meaning is said here without the index: several names are
looked up for it one after another, and the first of them that some file has
means the smallest of the files that have it.

A file below `src` has its name twice, with and without that first part, and the
smallest file is the first one by its path.  So a file that has the import's very
name does not come first for that reason.  It does so only where its path comes
before those of the files that have the name with `src` in front.

## Main results

* `getElem?_index_eq_some_iff`: a name means the smallest file that has it.
* `mem_properSuffixes_iff`: the names that are looked up last are what stands behind a dot.
* `resolve?_of_dotted_name`: what a dotted import leads to.
* `resolve?_of_exact_name`: when it leads to a file of this very name.
-/

namespace LayerLint.Import

open Std (ExtTreeMap ExtTreeSet)

/-! ## The names of a file -/

theorem mem_namesOf_iff {name path : String} :
    name ∈ namesOf path ↔
      dottedName? path = some name ∨ dottedName? path = some ("src." ++ name) := by
  unfold namesOf
  generalize dottedName? path = dotted?
  cases dotted? with
  | none => simp
  | some dotted =>
      dsimp only
      by_cases hsrc : Text.startsWith "src." dotted = true
      · obtain ⟨rest, rfl⟩ := Text.startsWith_iff.1 hsrc
        have hrest : Text.dropChars 4 ("src." ++ rest) = rest := by
          have hmark : "src.".toList.length = 4 := by decide
          rw [Text.dropChars, String.toList_append, ← hmark, List.drop_left, String.ofList_toList]
        rw [if_pos hsrc, hrest, List.mem_cons, List.mem_singleton, Option.some.injEq,
          Option.some.injEq, String.append_right_inj]
        exact or_congr eq_comm eq_comm
      · have hother : dotted ≠ "src." ++ name := fun h => hsrc (Text.startsWith_iff.2 ⟨name, h⟩)
        rw [if_neg hsrc, List.mem_singleton, Option.some.injEq, Option.some.injEq, eq_comm]
        simp [hother]

/-- The parts of a path, the last one without its suffix, joined by dots. -/
def dottedParts (path : String) : String :=
  Text.join "." (Path.Parts.ofPath path).withoutSuffix.toList

/-- The one file that has no name stands for the directory at the very top. -/
theorem namesOf_eq_nil_iff {path : String} : namesOf path = [] ↔ dottedParts path = "__init__" := by
  have hnone : dottedName? path = none ↔ dottedParts path = "__init__" := by
    unfold dottedName?
    rw [← dottedParts]
    generalize dottedParts path = dotted
    by_cases hinner : Text.endsWith ".__init__" dotted = true
    · rw [if_pos hinner]
      refine iff_of_false (Option.some_ne_none _) ?_
      rintro rfl
      revert hinner
      decide
    · rw [if_neg hinner]
      by_cases htop : dotted = "__init__" <;> simp [htop]
  rw [← hnone]
  unfold namesOf
  cases dottedName? path with
  | none => simp
  | some dotted => by_cases hsrc : Text.startsWith "src." dotted = true <;> simp [hsrc]

/-- A name means a file: the smallest of the files that have it. -/
structure Means (known : List String) (name path : String) : Prop where
  mem : path ∈ known
  named : name ∈ namesOf path
  least : ∀ other ∈ known, name ∈ namesOf other → path ≤ other

theorem Means.unique {known : List String} {name path path' : String} (h : Means known name path)
    (h' : Means known name path') : path = path' :=
  le_antisymm (h.least path' h'.mem h'.named) (h'.least path h.mem h.named)

namespace Resolver

variable {known packageNames : List String} {name path imp source : String}

theorem getElem?_index (name : String) :
    (ofFiles known packageNames).index[name]? =
      (ExtTreeSet.ofList known).toList.find? fun path => decide (name ∈ namesOf path) :=
  getElem?_indexOf _ name

theorem mem_toList_ofList : path ∈ (ExtTreeSet.ofList known).toList ↔ path ∈ known := by
  rw [ExtTreeSet.mem_toList, ExtTreeSet.mem_ofList, List.contains_iff_mem]

theorem getElem?_index_eq_none_iff :
    (ofFiles known packageNames).index[name]? = none ↔ ∀ path ∈ known, name ∉ namesOf path := by
  rw [getElem?_index, List.find?_eq_none]
  simp only [mem_toList_ofList, decide_eq_true_eq]

/-- The name of a file means the smallest file that has it. -/
theorem means_of_getElem?_index (h : (ofFiles known packageNames).index[name]? = some path) :
    Means known name path := by
  rw [getElem?_index, List.find?_eq_some_iff_append] at h
  obtain ⟨hnamed, before, after, hsplit, hbefore⟩ := h
  have hmem : ∀ other, other ∈ known ↔ other ∈ before ++ path :: after := fun other => by
    rw [← hsplit, mem_toList_ofList]
  refine ⟨(hmem path).2 List.mem_append_cons_self, of_decide_eq_true hnamed, ?_⟩
  intro other hother hname
  rcases List.mem_append.1 ((hmem other).1 hother) with hin | hin
  · have hunnamed := hbefore other hin
    rw [decide_eq_true hname] at hunnamed
    cases hunnamed
  · rcases List.mem_cons.1 hin with rfl | hin
    · exact le_refl other
    · have hordered : (before ++ path :: after).Pairwise fun a b => compare a b = .lt :=
        hsplit ▸ ExtTreeSet.ordered_toList
      have hlater := (List.pairwise_append.1 hordered).2.1
      exact (compare_lt_iff_lt.1 (List.rel_of_pairwise_cons hlater hin)).le

theorem getElem?_index_eq_some_iff :
    (ofFiles known packageNames).index[name]? = some path ↔ Means known name path := by
  refine ⟨means_of_getElem?_index, fun h => ?_⟩
  cases hfound : (ofFiles known packageNames).index[name]? with
  | none => exact absurd h.named (getElem?_index_eq_none_iff.1 hfound path h.mem)
  | some other => rw [h.unique (means_of_getElem?_index hfound)]

/-! ## The names that are looked up -/

/-- The names that are looked up last are those that stand behind a dot of the import. -/
theorem mem_properSuffixes_iff {suffix : String} :
    suffix ∈ properSuffixes imp ↔ ∃ front, imp = front ++ "." ++ suffix := by
  simp only [properSuffixes, List.mem_map, List.mem_range]
  constructor
  · rintro ⟨i, hi, rfl⟩
    refine ⟨Text.join "." ((Text.split '.' imp).take (i + 1)), ?_⟩
    rw [← Text.join_eq_append (Nat.succ_pos i) (by omega)]
    exact (Text.join_split '.' imp).symm
  · rintro ⟨front, rfl⟩
    have hsplit : Text.split '.' (front ++ "." ++ suffix) =
        Text.split '.' front ++ Text.split '.' suffix := Text.split_append '.' front suffix
    have hfront := List.length_pos_iff.2 (Text.split_ne_nil '.' front)
    have hsuffix := List.length_pos_iff.2 (Text.split_ne_nil '.' suffix)
    refine ⟨(Text.split '.' front).length - 1, ?_, ?_⟩
    · rw [hsplit, List.length_append]
      omega
    · rw [hsplit, Nat.sub_add_cancel hfront, List.drop_left]
      exact Text.join_split '.' suffix

/-- The longest of them comes first. -/
theorem pairwise_properSuffixes (imp : String) :
    (properSuffixes imp).Pairwise fun suffix shorter => shorter.length < suffix.length := by
  simp only [properSuffixes]
  generalize Text.split '.' imp = parts
  rw [List.pairwise_map]
  refine List.pairwise_lt_range.imp_of_mem fun {i j} _ hj hlt => ?_
  rw [List.mem_range] at hj
  have hlater : (parts.drop (i + 1)).drop (j - i) = parts.drop (j + 1) := by
    rw [List.drop_drop]
    congr 1
    omega
  have hlength : j - i < (parts.drop (i + 1)).length := by
    rw [List.length_drop]
    omega
  rw [Text.join_eq_append (Nat.sub_pos_of_lt hlt) hlength, hlater, String.length_append,
    String.length_append]
  have hdot : ".".length = 1 := by decide
  omega

/-! ## What a dotted name leads to -/

/-- An import without blanks and quotes is looked up by name: it is no path, no
relative import and no package's address, and it is no file beside the importing one. -/
structure LookedUp (r : Resolver) (imp source : String) : Prop where
  not_empty : imp ≠ ""
  no_slash : Text.contains "/" imp = false
  no_dot : Text.startsWith "." imp = false
  no_address : Text.startsWith packageMark imp = false
  not_beside : Text.contains ":" imp = true ∨ (Path.Parts.ofPath imp).suffix = "" ∨
    r.beside? imp source = none

/-- What is relative starts with a dot. -/
theorem startsWith_dot {mark : String} (h : Text.startsWith ("." ++ mark) imp = true) :
    Text.startsWith "." imp = true := by
  obtain ⟨rest, rfl⟩ := Text.startsWith_iff.1 h
  exact Text.startsWith_iff.2 ⟨mark ++ rest, String.append_assoc⟩

theorem LookedUp.resolve?_eq {r : Resolver} (h : r.LookedUp (bare imp) source) :
    r.resolve? imp source = r.byName? (bare imp) := by
  have hrelative (mark : String) : ¬Text.startsWith ("." ++ mark) (bare imp) = true :=
    fun hmark => ne_true_of_eq_false h.no_dot (startsWith_dot hmark)
  have hbeside : ¬(Text.startsWith "./" (bare imp) || Text.startsWith "../" (bare imp)) = true := by
    rw [Bool.or_eq_true, not_or]
    exact ⟨hrelative "/", hrelative "./"⟩
  have hnear : (if (!Text.contains ":" (bare imp) && (Path.Parts.ofPath (bare imp)).suffix != "") =
      true then r.beside? (bare imp) source else none) = none := by
    rcases h.not_beside with hcolon | hsuffix | hmissed
    · rw [hcolon]
      rfl
    · rw [hsuffix, bne_self_eq_false, Bool.and_false]
      rfl
    · rw [hmissed, ite_self]
  rw [resolve?, resolveBare?, if_neg h.not_empty, if_neg hbeside,
    if_neg (ne_true_of_eq_false h.no_dot), if_neg (ne_true_of_eq_false h.no_address)]
  dsimp only
  rw [hnear, Option.none_or, if_neg (ne_true_of_eq_false h.no_slash)]

/-- The names that belong to the project are the first components that its files give. -/
theorem contains_rootNames (name : String) :
    (ofFiles known packageNames).rootNames.contains name =
      (known.flatMap rootNamesOf).contains name := by
  rw [Bool.eq_iff_iff, ExtTreeSet.contains_iff_mem, List.contains_iff_mem]
  change name ∈ ExtTreeSet.ofList ((ExtTreeSet.ofList known).toList.flatMap rootNamesOf) ↔ _
  simp only [ExtTreeSet.mem_ofList, List.contains_iff_mem, List.mem_flatMap, mem_toList_ofList]

/-- Of several names the first one that some file has decides, and it means a file. -/
def FirstMeans (known names : List String) (path : String) : Prop :=
  ∃ before name after, names = before ++ name :: after ∧
    (∀ free ∈ before, ∀ other ∈ known, free ∉ namesOf other) ∧ Means known name path

theorem findSome?_index_eq_some_iff {names : List String} :
    names.findSome? (fun name => (ofFiles known packageNames).index[name]?) = some path ↔
      FirstMeans known names path := by
  simp only [List.findSome?_eq_some_iff, FirstMeans, getElem?_index_eq_some_iff,
    getElem?_index_eq_none_iff]
  constructor
  · rintro ⟨before, name, after, hsplit, hmeans, hfree⟩
    exact ⟨before, name, after, hsplit, hfree, hmeans⟩
  · rintro ⟨before, name, after, hsplit, hfree, hmeans⟩
    exact ⟨before, name, after, hsplit, hmeans, hfree⟩

/-- **A dotted name leads to the smallest file of the first name that there is.** 
An import that is looked up by name is tried as it stands, then behind `src`, and only when
its first component belongs to the project, by what stands behind one dot after another,
the longest first.  The first of these names that some file has decides, and the
smallest of the files that have it is the one; where no file has any of the names, there
is none.  Every file has a name but the one that stands for the directory at the very
top. -/
theorem resolve?_of_dotted_name {known packageNames : List String} {imp source : String}
    (h : (ofFiles known packageNames).LookedUp (bare imp) source) :
    let name := bare imp
    let names := [name, "src." ++ name] ++
      if (known.flatMap rootNamesOf).contains (Text.beforeFirst '.' name) then
        properSuffixes name else []
    (∀ path, (ofFiles known packageNames).resolve? imp source = some path ↔
      FirstMeans known names path) ∧
    ((ofFiles known packageNames).resolve? imp source = none ↔
      ∀ free ∈ names, ∀ path ∈ known, free ∉ namesOf path) ∧
    (∀ suffix, suffix ∈ properSuffixes name ↔ ∃ front, name = front ++ "." ++ suffix) ∧
    (properSuffixes name).Pairwise (fun suffix shorter => shorter.length < suffix.length) ∧
    ∀ path, namesOf path = [] ↔ dottedParts path = "__init__" := by
  intro name names
  have hnames : (ofFiles known packageNames).candidates name = names := by
    rw [candidates, contains_rootNames]
  have hresolve := h.resolve?_eq
  rw [byName?, hnames] at hresolve
  rw [hresolve]
  refine ⟨fun path => findSome?_index_eq_some_iff, ?_, fun _ => mem_properSuffixes_iff,
    pairwise_properSuffixes name, fun _ => namesOf_eq_nil_iff⟩
  simp only [List.findSome?_eq_none_iff, getElem?_index_eq_none_iff]

/-- A name that neither stands for itself nor behind `src`, but behind a dot, where two
files have it. -/
theorem resolve?_of_dotted_name_of_suffix :
    let known := ["src/domain/user.py", "app/main.py", "domain/user.dart"]
    (ofFiles known []).LookedUp (bare " 'app.domain.user'") "app/main.py" ∧
    FirstMeans known ["app.domain.user", "src.app.domain.user", "domain.user", "user"]
      "domain/user.dart" := by
  intro known
  have hname : bare " 'app.domain.user'" = "app.domain.user" := by decide +kernel
  have hlooked : (ofFiles known []).LookedUp (bare " 'app.domain.user'") "app/main.py" := by
    rw [hname]
    refine ⟨?_, ?_, ?_, ?_, Or.inr (Or.inr ?_)⟩ <;> decide +kernel
  have hresolve : (ofFiles known []).resolve? " 'app.domain.user'" "app/main.py" =
      some "domain/user.dart" := by decide +kernel
  have hmeans := ((resolve?_of_dotted_name hlooked).1 "domain/user.dart").1 hresolve
  have hnames : ["app.domain.user", "src." ++ "app.domain.user"] ++
      (if (known.flatMap rootNamesOf).contains (Text.beforeFirst '.' "app.domain.user") then
        properSuffixes "app.domain.user" else []) =
      ["app.domain.user", "src.app.domain.user", "domain.user", "user"] := by decide +kernel
  rw [hname, hnames] at hmeans
  exact ⟨hlooked, hmeans⟩

/-- The name that the parts of a path give is `__init__` for two files.  The one at the
very top has no name, but the one in a directory of that name does, and an import leads
to it. -/
theorem exists_file_named_init :
    let top := "__init__.py"
    let inner := "__init__/__init__.py"
    dottedParts top = "__init__" ∧ dottedParts inner = "__init__" ++ ".__init__" ∧
    namesOf top = [] ∧ namesOf inner = ["__init__"] ∧
    (ofFiles [inner] []).LookedUp (bare "__init__") "main.py" ∧
    (ofFiles [inner] []).resolve? "__init__" "main.py" = some inner := by
  intro top inner
  have hlooked : (ofFiles [inner] []).LookedUp (bare "__init__") "main.py" := by
    refine ⟨?_, ?_, ?_, ?_, Or.inr (Or.inl ?_)⟩ <;> decide +kernel
  refine ⟨?_, ?_, ?_, ?_, hlooked, ?_⟩ <;> decide +kernel

/-! ## Names with and without `src` -/

/-- **A file of the very name is found when it comes first.**  Some file has exactly the
dotted name of an import.  The import then leads to the smallest of the files that have
the name, be it as it stands or behind `src`.  This file has the very name just when
some file that has it is not greater than any file that has it behind `src`. -/
theorem resolve?_of_exact_name {known packageNames : List String} {imp source exact : String}
    (h : (ofFiles known packageNames).LookedUp (bare imp) source) (hexact : exact ∈ known)
    (hname : dottedName? exact = some (bare imp)) :
    ∃ path ∈ known, (ofFiles known packageNames).resolve? imp source = some path ∧
      (dottedName? path = some (bare imp) ∨ dottedName? path = some ("src." ++ bare imp)) ∧
      (∀ other ∈ known, dottedName? other = some (bare imp) ∨
        dottedName? other = some ("src." ++ bare imp) → path ≤ other) ∧
      (dottedName? path = some (bare imp) ↔
        ∃ file ∈ known, dottedName? file = some (bare imp) ∧
          ∀ other ∈ known, dottedName? other = some ("src." ++ bare imp) → file ≤ other) := by
  cases hindex : (ofFiles known packageNames).index[bare imp]? with
  | none =>
      exact absurd (mem_namesOf_iff.2 (Or.inl hname))
        (getElem?_index_eq_none_iff.1 hindex exact hexact)
  | some path =>
      have hmeans := getElem?_index_eq_some_iff.1 hindex
      have hresolve : (ofFiles known packageNames).resolve? imp source = some path := by
        rw [h.resolve?_eq, byName?, candidates, List.cons_append, List.findSome?_cons, hindex]
      refine ⟨path, hmeans.mem, hresolve, mem_namesOf_iff.1 hmeans.named, ?_, ?_, ?_⟩
      · exact fun other hother hnamed => hmeans.least other hother (mem_namesOf_iff.2 hnamed)
      · intro hown
        refine ⟨path, hmeans.mem, hown, fun other hother hbehind => ?_⟩
        exact hmeans.least other hother (mem_namesOf_iff.2 (Or.inr hbehind))
      · rintro ⟨file, hfile, hown, hfirst⟩
        rcases mem_namesOf_iff.1 hmeans.named with hpath | hpath
        · exact hpath
        · have hle := hmeans.least file hfile (mem_namesOf_iff.2 (Or.inl hown))
          obtain rfl : path = file := le_antisymm hle (hfirst path hmeans.mem hpath)
          exact hown

/-- The directory `app` comes before `src`. -/
theorem resolve?_of_exact_name_of_app :
    let known := ["src/app/a.py", "app/a.py"]
    (ofFiles known []).LookedUp (bare "app.a") "main.py" ∧
    dottedName? "app/a.py" = some (bare "app.a") ∧
    ∃ path ∈ known, (ofFiles known []).resolve? "app.a" "main.py" = some path ∧
      (∀ other ∈ known, dottedName? other = some (bare "app.a") ∨
        dottedName? other = some ("src." ++ bare "app.a") → path ≤ other) ∧
      dottedName? path = some (bare "app.a") := by
  intro known
  have hlooked : (ofFiles known []).LookedUp (bare "app.a") "main.py" := by
    refine ⟨?_, ?_, ?_, ?_, Or.inr (Or.inr ?_)⟩ <;> decide +kernel
  have hname : dottedName? "app/a.py" = some (bare "app.a") := by decide +kernel
  have hmem : "app/a.py" ∈ known := by decide +kernel
  obtain ⟨path, hpath, hresolve, -, hleast, hown⟩ := resolve?_of_exact_name hlooked hmem hname
  refine ⟨hlooked, hname, path, hpath, hresolve, hleast, hown.2 ⟨"app/a.py", hmem, hname, ?_⟩⟩
  decide +kernel

/-- The directory `web` comes after `src`: a file has exactly the dotted name of
the import, which leads to the file that has it behind `src`. -/
theorem exists_name_behind_src_in_front :
    let known := ["src/web/a.py", "web/a.py"]
    (ofFiles known []).LookedUp (bare "web.a") "main.py" ∧
    dottedName? "web/a.py" = some "web.a" ∧
    (ofFiles known []).resolve? "web.a" "main.py" = some "src/web/a.py" ∧
    dottedName? "src/web/a.py" = some ("src." ++ "web.a") ∧
    dottedName? "src/web/a.py" ≠ some "web.a" := by
  intro known
  have hlooked : (ofFiles known []).LookedUp (bare "web.a") "main.py" := by
    refine ⟨?_, ?_, ?_, ?_, Or.inr (Or.inr ?_)⟩ <;> decide +kernel
  refine ⟨hlooked, ?_, ?_, ?_, ?_⟩ <;> decide +kernel

end Resolver

end LayerLint.Import
