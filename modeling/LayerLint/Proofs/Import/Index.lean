import LayerLint.Import.Resolver
import LayerLint.Proofs.Tables

/-!
# The index of dotted names

The files of a project are entered into the index in order, each under its names
where they are still free.  So a dotted name means the first file that has it.

A further file takes its place among the others and changes nothing about their
order.  Hence it is the only file that a name can come to mean, and the tables
for packages, which are filled in the same way, do not change at all when the
file lies in no library directory.

## Main results

* `getElem?_indexOf`: a name means the first file that has it.
* `index_of_new_file`: with a further file, a name means what it meant or that file.
* `packageRoots_of_new_file`: outside the library directories it adds no package.
-/

namespace LayerLint

open Std (ExtTreeMap ExtTreeSet)

/-! ## Sets of files in order -/

namespace Tables

variable {s : ExtTreeSet String} {k x : String}

theorem mem_insertSet : x ∈ s.insert k ↔ k = x ∨ x ∈ s := by
  rw [ExtTreeSet.mem_insert, Std.LawfulEqCmp.compare_eq_iff_eq]

theorem nodup_of_ordered {xs : List String} (h : xs.Pairwise fun a b => compare a b = .lt) :
    xs.Nodup := by
  refine h.imp fun {a b} hlt heq => ?_
  rw [heq, Std.compare_self] at hlt
  cases hlt

/-- A list in order is decided by its members. -/
theorem eq_of_mem_iff_of_ordered {xs ys : List String}
    (hxs : xs.Pairwise fun a b => compare a b = .lt)
    (hys : ys.Pairwise fun a b => compare a b = .lt) (h : ∀ x, x ∈ xs ↔ x ∈ ys) : xs = ys := by
  refine List.Perm.eq_of_pairwise ?_ hxs hys
    ((List.perm_ext_iff_of_nodup (nodup_of_ordered hxs) (nodup_of_ordered hys)).2 h)
  intro a b _ _ hab hba
  exact absurd hba (Std.OrientedCmp.not_lt_of_lt hab)

theorem insertSet_eq_self (hk : k ∈ s) : s.insert k = s := by
  refine ExtTreeSet.ext_mem fun x => ?_
  rw [mem_insertSet]
  constructor
  · rintro (rfl | hx)
    · exact hk
    · exact hx
  · exact Or.inr

/-- A new member takes its place among the others, whose order stays. -/
theorem exists_toList_insert (hk : k ∉ s) :
    ∃ before after, s.toList = before ++ after ∧
      (s.insert k).toList = before ++ k :: after := by
  have hmem : k ∈ (s.insert k).toList := ExtTreeSet.mem_toList.2 ExtTreeSet.mem_insert_self
  obtain ⟨before, after, hsplit⟩ := List.append_of_mem hmem
  have hordered : (before ++ k :: after).Pairwise fun a b => compare a b = .lt :=
    hsplit ▸ ExtTreeSet.ordered_toList
  have hother : k ∉ before ++ after :=
    (List.nodup_cons.1 (List.perm_middle.nodup_iff.1 (nodup_of_ordered hordered))).1
  have hless : (before ++ after).Sublist (before ++ k :: after) :=
    (List.Sublist.refl before).append (List.sublist_cons_self k after)
  refine ⟨before, after, ?_, hsplit⟩
  refine eq_of_mem_iff_of_ordered ExtTreeSet.ordered_toList (hordered.sublist hless) fun x => ?_
  have hnew : x ∈ s.insert k ↔ x = k ∨ x ∈ before ++ after := by
    rw [← ExtTreeSet.mem_toList, hsplit, List.perm_middle.mem_iff, List.mem_cons]
  rw [mem_insertSet] at hnew
  rw [ExtTreeSet.mem_toList]
  by_cases hx : x = k
  · subst hx
    exact iff_of_false hk hother
  · simpa [hx, Ne.symm hx] using hnew

end Tables

namespace Import.Resolver

variable {known packageNames : List String} {q : String}

theorem getElem?_enter (index : ExtTreeMap String String) (path name : String) :
    (enter index path)[name]? =
      (index[name]?).or (if name ∈ namesOf path then some path else none) := by
  unfold enter
  generalize namesOf path = names
  induction names generalizing index with
  | nil => simp
  | cons first rest ih =>
      rw [List.foldl_cons, ih, Tables.getElem?_insertIfNew, Option.or_assoc]
      by_cases hfirst : first = name
      · simp [hfirst]
      · simp [hfirst, Ne.symm hfirst]

/-- A name means the first file that has it. -/
theorem getElem?_indexOf (paths : List String) (name : String) :
    (indexOf paths)[name]? = paths.find? fun path => decide (name ∈ namesOf path) := by
  suffices h : ∀ index : ExtTreeMap String String, (paths.foldl enter index)[name]? =
      (index[name]?).or (paths.find? fun path => decide (name ∈ namesOf path)) by
    simpa [indexOf] using h ∅
  induction paths with
  | nil => simp
  | cons path rest ih =>
      intro index
      rw [List.foldl_cons, ih, getElem?_enter, Option.or_assoc, List.find?_cons]
      by_cases hname : name ∈ namesOf path
      · simp [hname]
      · simp [hname]

/-! ## One more file -/

theorem files_of_new_file :
    (ofFiles (q :: known) packageNames).files = (ofFiles known packageNames).files.insert q := by
  refine ExtTreeSet.ext_mem fun x => ?_
  rw [Tables.mem_insertSet]
  change x ∈ ExtTreeSet.ofList (q :: known) ↔ q = x ∨ x ∈ ExtTreeSet.ofList known
  rw [ExtTreeSet.mem_ofList, ExtTreeSet.mem_ofList, List.contains_iff_mem, List.contains_iff_mem,
    List.mem_cons, eq_comm]

/-- With a further file, a name means what it meant before or that file. -/
theorem index_of_new_file (name : String) :
    (ofFiles (q :: known) packageNames).index[name]? =
        (ofFiles known packageNames).index[name]? ∨
      (ofFiles (q :: known) packageNames).index[name]? = some q := by
  have hindex : ∀ paths, (ofFiles paths packageNames).index =
      indexOf (ofFiles paths packageNames).files.toList := fun _ => rfl
  rw [hindex, hindex, files_of_new_file, getElem?_indexOf, getElem?_indexOf]
  generalize (ofFiles known packageNames).files = files
  by_cases hq : q ∈ files
  · rw [Tables.insertSet_eq_self hq]
    exact Or.inl rfl
  · obtain ⟨before, after, hold, hnew⟩ := Tables.exists_toList_insert hq
    rw [hold, hnew, List.find?_append, List.find?_append, List.find?_cons]
    cases before.find? fun path => decide (name ∈ namesOf path) with
    | some path => simp only [Option.some_or, true_or]
    | none =>
        by_cases hname : name ∈ namesOf q
        · simp [hname]
        · simp [hname]

/-- A further file outside the library directories adds no package. -/
theorem packageRoots_of_new_file (hq : Text.contains "/lib/" q = false) :
    (ofFiles (q :: known) packageNames).packageRoots =
      (ofFiles known packageNames).packageRoots := by
  have hroots : ∀ paths, (ofFiles paths packageNames).packageRoots =
      packageRootsOf (ofFiles paths packageNames).files.toList packageNames := fun _ => rfl
  have hnone : packageRootOf? q = none := by
    rw [Text.contains, Option.isSome_eq_false_iff, Option.isNone_iff_eq_none] at hq
    rw [packageRootOf?, hq, Option.map_none]
  rw [hroots, hroots, files_of_new_file]
  generalize (ofFiles known packageNames).files = files
  by_cases hmem : q ∈ files
  · rw [Tables.insertSet_eq_self hmem]
  · obtain ⟨before, after, hold, hnew⟩ := Tables.exists_toList_insert hmem
    rw [hold, hnew, packageRootsOf, packageRootsOf, List.filterMap_append, List.filterMap_append,
      List.filterMap_cons_none hnone]

end Import.Resolver

end LayerLint
