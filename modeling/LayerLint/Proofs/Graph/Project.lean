import LayerLint.Graph.Builder
import LayerLint.Proofs.Tables

/-!
# What a list of submissions declares

A list of submissions is read place by place.  A place counts when its
submission describes a file that no submission in front of it describes; the
places that count make up the project, and every other place is refused with
one reason.  Likewise an import list is read record by record: a record either
can become an edge, or is left out with one reason.

Nothing here looks at a graph.  The selection and the survey, which go through
the same lists with what they have seen so far, are shown to find the same.

## Main results

* `selection_eq`: the selection keeps the places that count and refuses the others.
* `survey_eq`: the survey links the records that can become an edge.
* `ofFiles_congr`: a resolver depends on the set of files only.
-/

namespace LayerLint

open Std (ExtTreeMap ExtTreeSet)

/-! ## The places that count -/

/-- The id of a file is the canonical form of its path. -/
theorem exists_path_of_idOfPath? {v : Value} {id : ModuleId} (h : idOfPath? v = some id) :
    ∃ path, id = Path.canonical path := by
  cases v with
  | str path =>
      rw [idOfPath?, Option.ite_none_left_eq_some, Option.some.injEq] at h
      exact ⟨path, h.2.symm⟩
  | _ => cases h

namespace Submission

theorem usable?_eq_some_iff {s : Submission} {id : ModuleId} {d : Descriptor} :
    s.usable? = some (id, d) ↔ s = .descriptor d ∧ idOfPath? d.path = some id := by
  cases s with
  | other v => simp [usable?]
  | nameless shown refusal => simp [usable?]
  | descriptor e =>
      simp only [usable?, Option.map_eq_some_iff, Prod.mk.injEq, descriptor.injEq]
      constructor
      · rintro ⟨x, hx, rfl, rfl⟩
        exact ⟨rfl, hx⟩
      · rintro ⟨rfl, hid⟩
        exact ⟨id, hid, rfl, rfl⟩

/-- The descriptor of a submission behind others, when it is the first one of its file. -/
def unit? (earlier : List Submission) (s : Submission) : Option (ModuleId × Descriptor) :=
  s.usable?.filter fun u => ∀ t ∈ earlier, t.id? ≠ some u.1

/-- Why a submission behind others does not count. -/
def refusal? (earlier : List Submission) (s : Submission) : Option Skip :=
  if (s.unit? earlier).isSome then none
  else
    match s.id? with
    | none => some (.unusable s)
    | some id => some (.duplicate id)

section Reasons

variable {earlier : List Submission} {s : Submission} {id : ModuleId} {d : Descriptor}

theorem unusable_of_usable? (earlier : List Submission) (hs : s.usable? = none) :
    s.unit? earlier = none ∧ s.refusal? earlier = some (.unusable s) := by
  have hunit : s.unit? earlier = none := by rw [unit?, hs, Option.filter_none]
  refine ⟨hunit, ?_⟩
  rw [refusal?, hunit, id?, hs]
  rfl

theorem duplicate_of_exists (hs : s.usable? = some (id, d))
    (hold : ∃ t ∈ earlier, t.id? = some id) :
    s.unit? earlier = none ∧ s.refusal? earlier = some (.duplicate id) := by
  have hunit : s.unit? earlier = none := by
    simpa [unit?, hs, Option.filter] using hold
  refine ⟨hunit, ?_⟩
  rw [refusal?, hunit, id?, hs]
  rfl

theorem counts_of_not_exists (hs : s.usable? = some (id, d))
    (hnew : ¬ ∃ t ∈ earlier, t.id? = some id) :
    s.unit? earlier = some (id, d) ∧ s.refusal? earlier = none := by
  have hunit : s.unit? earlier = some (id, d) := by
    simpa [unit?, hs, Option.filter] using hnew
  refine ⟨hunit, ?_⟩
  rw [refusal?, hunit]
  rfl

end Reasons

end Submission

/-- The first descriptor of every file with the file's id, in order. -/
def unitsOf (ss : List Submission) : List (ModuleId × Descriptor) :=
  ss.zipIdx.filterMap fun place => place.1.unit? (ss.take place.2)

/-- The reasons of the places that do not count, in order. -/
def refusalsOf (ss : List Submission) : List Skip :=
  ss.zipIdx.filterMap fun place => place.1.refusal? (ss.take place.2)

/-- The set of files seen is that of the submissions in front. -/
private theorem selection_eq_from (before rest : List Submission) (seen : ExtTreeSet ModuleId)
    (hSeen : ∀ id, id ∈ seen ↔ ∃ t ∈ before, t.id? = some id) :
    Selection.ofSubmissions seen rest =
      ⟨(rest.zipIdx before.length).filterMap fun place =>
          place.1.unit? ((before ++ rest).take place.2),
        (rest.zipIdx before.length).filterMap fun place =>
          place.1.refusal? ((before ++ rest).take place.2)⟩ := by
  induction rest generalizing before seen with
  | nil => rfl
  | cons s rest ih =>
      have happend : before ++ s :: rest = (before ++ [s]) ++ rest := by simp
      have hlength : before.length + 1 = (before ++ [s]).length := by simp
      have hconcat :
          ∀ id, (∃ t ∈ before ++ [s], t.id? = some id) ↔ id ∈ seen ∨ s.id? = some id := by
        intro id
        simp only [hSeen, List.mem_append, List.mem_singleton, or_and_right, exists_or,
          exists_eq_left]
      rw [List.zipIdx_cons, List.filterMap_cons, List.filterMap_cons, List.take_left' rfl,
        happend, hlength, Selection.ofSubmissions]
      dsimp only
      cases hs : s.usable? with
      | none =>
          obtain ⟨hunit, hrefusal⟩ := Submission.unusable_of_usable? before hs
          have hnext : ∀ id, id ∈ seen ↔ ∃ t ∈ before ++ [s], t.id? = some id := by
            intro id
            have hnone : s.id? = none := by rw [Submission.id?, hs, Option.map_none]
            rw [hconcat, hnone]
            simp
          simp only [hunit, hrefusal, ih (before ++ [s]) seen hnext]
      | some u =>
          obtain ⟨id, d⟩ := u
          have hid : ∀ x, s.id? = some x ↔ id = x := by
            intro x
            rw [Submission.id?, hs, Option.map_some, Option.some.injEq]
          by_cases hmem : id ∈ seen
          · obtain ⟨hunit, hrefusal⟩ := Submission.duplicate_of_exists hs ((hSeen id).1 hmem)
            have hnext : ∀ x, x ∈ seen ↔ ∃ t ∈ before ++ [s], t.id? = some x := by
              intro x
              rw [hconcat, hid]
              constructor
              · exact Or.inl
              · rintro (hx | rfl)
                · exact hx
                · exact hmem
            simp only [hunit, hrefusal, ExtTreeSet.contains_iff_mem.2 hmem, if_true,
              ih (before ++ [s]) seen hnext]
          · obtain ⟨hunit, hrefusal⟩ :=
              Submission.counts_of_not_exists hs (mt (hSeen id).2 hmem)
            have hnext : ∀ x, x ∈ seen.insert id ↔ ∃ t ∈ before ++ [s], t.id? = some x := by
              intro x
              rw [hconcat, hid, ExtTreeSet.mem_insert, Std.LawfulEqCmp.compare_eq_iff_eq, or_comm]
            simp only [hunit, hrefusal, if_neg (mt ExtTreeSet.contains_iff_mem.1 hmem),
              ih (before ++ [s]) (seen.insert id) hnext]

/-- The selection keeps the places that count and refuses the others. -/
theorem selection_eq (ss : List Submission) :
    Selection.ofSubmissions ∅ ss = ⟨unitsOf ss, refusalsOf ss⟩ :=
  selection_eq_from [] ss ∅ (by simp)

/-! ## One descriptor for every file -/

theorem idOfPath?_of_mem_unitsOf {ss : List Submission} {id : ModuleId} {d : Descriptor}
    (h : (id, d) ∈ unitsOf ss) : idOfPath? d.path = some id := by
  obtain ⟨⟨s, i⟩, -, hunit⟩ := List.mem_filterMap.1 h
  exact (Submission.usable?_eq_some_iff.1 (Option.filter_eq_some_iff.1 hunit).1).2

/-- The selection keeps a descriptor of every file that is described and not among those
seen. -/
private theorem mem_ids_selection {ss : List Submission} {seen : ExtTreeSet ModuleId}
    {id : ModuleId} : id ∈ (Selection.ofSubmissions seen ss).units.map (·.1) ↔
      id ∉ seen ∧ ∃ s ∈ ss, s.id? = some id := by
  induction ss generalizing seen with
  | nil => simp [Selection.ofSubmissions]
  | cons s rest ih =>
      have hcons : (∃ t ∈ s :: rest, t.id? = some id) ↔
          s.id? = some id ∨ ∃ t ∈ rest, t.id? = some id := by
        simp only [List.mem_cons, or_and_right, exists_or, exists_eq_left]
      rw [hcons, Selection.ofSubmissions]
      cases hs : s.usable? with
      | none =>
          dsimp only
          rw [ih]
          simp [Submission.id?, hs]
      | some u =>
          obtain ⟨first, d⟩ := u
          have hfirst : s.id? = some id ↔ first = id := by simp [Submission.id?, hs]
          rw [hfirst]
          by_cases hseen : first ∈ seen
          · simp only [ExtTreeSet.contains_iff_mem.2 hseen, if_true, ih]
            constructor
            · rintro ⟨hnew, hrest⟩
              exact ⟨hnew, Or.inr hrest⟩
            · rintro ⟨hnew, rfl | hrest⟩
              · exact absurd hseen hnew
              · exact ⟨hnew, hrest⟩
          · simp only [if_neg (mt ExtTreeSet.contains_iff_mem.1 hseen), List.map_cons,
              List.mem_cons, ih, ExtTreeSet.mem_insert, Std.LawfulEqCmp.compare_eq_iff_eq]
            by_cases heq : first = id
            · simp [← heq, hseen]
            · simp [heq, Ne.symm heq]

private theorem nodup_selection (ss : List Submission) (seen : ExtTreeSet ModuleId) :
    ((Selection.ofSubmissions seen ss).units.map (·.1)).Nodup := by
  induction ss generalizing seen with
  | nil => exact List.nodup_nil
  | cons s rest ih =>
      rw [Selection.ofSubmissions]
      cases s.usable? with
      | none => exact ih seen
      | some u =>
          obtain ⟨id, d⟩ := u
          by_cases hid : seen.contains id = true
          · simp only [hid, if_true]
            exact ih seen
          · simp only [if_neg hid, List.map_cons, List.nodup_cons]
            refine ⟨fun hmem => ?_, ih (seen.insert id)⟩
            exact (mem_ids_selection.1 hmem).1 ExtTreeSet.mem_insert_self

theorem nodup_unitsOf (ss : List Submission) : ((unitsOf ss).map (·.1)).Nodup := by
  have h := nodup_selection ss ∅
  rwa [selection_eq] at h

/-- Every file that is described has a descriptor that counts. -/
theorem mem_ids_unitsOf {ss : List Submission} {id : ModuleId} :
    id ∈ (unitsOf ss).map (·.1) ↔ ∃ s ∈ ss, s.id? = some id := by
  have h : id ∈ (Selection.ofSubmissions ∅ ss).units.map (·.1) ↔
      id ∉ (∅ : ExtTreeSet ModuleId) ∧ ∃ s ∈ ss, s.id? = some id := mem_ids_selection
  rw [selection_eq] at h
  simpa using h

/-- The descriptors of a project by the ids of their files. -/
abbrev Project := ExtTreeMap ModuleId Descriptor

namespace Project

/-- The project that a list of submissions declares. -/
def ofSubmissions (ss : List Submission) : Project := ExtTreeMap.ofList (unitsOf ss)

theorem getElem?_ofSubmissions {ss : List Submission} {id : ModuleId} {d : Descriptor} :
    (ofSubmissions ss)[id]? = some d ↔ (id, d) ∈ unitsOf ss := by
  have hdistinct : (unitsOf ss).Pairwise fun a b => ¬ compare a.1 b.1 = .eq := by
    have h := List.pairwise_map.1 (nodup_unitsOf ss)
    exact h.imp fun hne heq => hne (Std.LawfulEqCmp.compare_eq_iff_eq.1 heq)
  constructor
  · intro h
    by_cases hmem : id ∈ (unitsOf ss).map (·.1)
    · obtain ⟨⟨x, e⟩, hxe, rfl⟩ := List.mem_map.1 hmem
      have hget := ExtTreeMap.getElem?_ofList_of_mem Std.ReflCmp.compare_self hdistinct hxe
      rw [ofSubmissions, hget] at h
      rwa [← Option.some.inj h]
    · have hnone : (ExtTreeMap.ofList (unitsOf ss) : Project)[id]? = none :=
        ExtTreeMap.getElem?_ofList_of_contains_eq_false (by simpa using hmem)
      rw [ofSubmissions, hnone] at h
      cases h
  · intro h
    exact ExtTreeMap.getElem?_ofList_of_mem Std.ReflCmp.compare_self hdistinct h

theorem mem_ofSubmissions {ss : List Submission} {id : ModuleId} :
    id ∈ ofSubmissions ss ↔ id ∈ (unitsOf ss).map (·.1) := by
  rw [ofSubmissions, ExtTreeMap.mem_ofList, List.contains_iff_mem]

/-- The descriptors are of the files under whose ids they stand. -/
def Labelled (p : Project) : Prop :=
  ∀ (id : ModuleId) (d : Descriptor), p[id]? = some d → idOfPath? d.path = some id

theorem labelled_ofSubmissions (ss : List Submission) : (ofSubmissions ss).Labelled :=
  fun _ _ h => idOfPath?_of_mem_unitsOf (getElem?_ofSubmissions.1 h)

/-- Another descriptor of a file, or a new one. -/
theorem Labelled.insert {p : Project} (h : p.Labelled) {id : ModuleId} {d : Descriptor}
    (hpath : idOfPath? d.path = some id) : Labelled (p.insert id d) := by
  intro x e hx
  rw [Tables.getElem?_insert] at hx
  by_cases heq : id = x
  · rw [if_pos heq] at hx
    rw [← Option.some.inj hx, hpath, heq]
  · rw [if_neg heq] at hx
    exact h x e hx

theorem Labelled.erase {p : Project} (h : p.Labelled) (id : ModuleId) :
    Labelled (p.erase id) := by
  intro x e hx
  rw [Tables.getElem?_erase] at hx
  by_cases heq : id = x
  · rw [if_pos heq] at hx
    cases hx
  · rw [if_neg heq] at hx
    exact h x e hx

/-- A file has the canonical form of its path as its id. -/
theorem Labelled.exists_path {p : Project} (h : p.Labelled) {id : ModuleId} (hid : id ∈ p) :
    ∃ path, id = Path.canonical path := by
  obtain ⟨d, hd⟩ := Tables.exists_getElem? hid
  exact exists_path_of_idOfPath? (h id d hd)

/-- The descriptors of a project, in whatever order they are handed over, declare it. -/
theorem ofSubmissions_eq {p : Project} (hp : p.Labelled) {ss : List Submission}
    (hss : ∀ s, s ∈ ss ↔ ∃ (id : ModuleId) (d : Descriptor), p[id]? = some d ∧ s = .descriptor d) :
    ofSubmissions ss = p := by
  have hsub : ∀ id d, (id, d) ∈ unitsOf ss → p[id]? = some d := by
    intro id d h
    obtain ⟨⟨s, i⟩, hplace, hunit⟩ := List.mem_filterMap.1 h
    have hs := (List.mem_zipIdx_iff_getElem?.1 hplace)
    obtain ⟨x, e, he, rfl⟩ := (hss s).1 (List.mem_of_getElem? hs)
    obtain ⟨hsame, hid⟩ :=
      Submission.usable?_eq_some_iff.1 (Option.filter_eq_some_iff.1 hunit).1
    obtain rfl := Submission.descriptor.inj hsame
    rwa [← Option.some.inj ((hp x e he).symm.trans hid)]
  refine ExtTreeMap.ext_getElem? fun id => Option.ext fun d => ?_
  rw [getElem?_ofSubmissions]
  constructor
  · exact hsub id d
  · intro h
    have husable : (Submission.descriptor d).usable? = some (id, d) :=
      Submission.usable?_eq_some_iff.2 ⟨rfl, hp id d h⟩
    have hmem : id ∈ (unitsOf ss).map (·.1) :=
      mem_ids_unitsOf.2 ⟨.descriptor d, (hss _).2 ⟨id, d, h, rfl⟩,
        by rw [Submission.id?, husable, Option.map_some]⟩
    obtain ⟨⟨x, e⟩, hxe, rfl⟩ := List.mem_map.1 hmem
    have hsame := (hsub x e hxe).symm.trans h
    rwa [← Option.some.inj hsame]

end Project

/-! ## The records of a descriptor -/

namespace Descriptor

/-- The import records that can become an edge, in order: the import and its place. -/
def records (d : Descriptor) : List (String × Location) :=
  (d.imports.items?.getD []).filterMap fun item => item.check.toOption

/-- What a descriptor has to leave out, in order: all imports, when they are no list, or
else the records that cannot become an edge. -/
def omissions (id : ModuleId) (d : Descriptor) : List Skip :=
  match d.imports.items? with
  | none => [.noImportList id d.imports.kindName]
  | some items => items.zipIdx.filterMap fun place =>
      match place.1.check with
      | .ok _ => none
      | .error problem => some (.badImport id (place.2 + 1) problem)

end Descriptor

namespace Builder

private theorem surveyItems_eq (r : Import.Resolver) (id : ModuleId) (items : List ImportItem)
    (n : Nat) : surveyItems r id (n + 1) items =
      ((items.filterMap fun item => item.check.toOption).map fun x => linkOf r id x.1 x.2,
        (items.zipIdx n).filterMap fun place =>
          match place.1.check with
          | .ok _ => none
          | .error problem => some (.badImport id (place.2 + 1) problem)) := by
  induction items generalizing n with
  | nil => rfl
  | cons item rest ih =>
      rw [surveyItems, ih (n + 1), List.zipIdx_cons, List.filterMap_cons, List.filterMap_cons]
      dsimp only
      cases item.check <;> rfl

/-- The survey of a file links the records that can become an edge, and omits the
others. -/
theorem survey_eq (b : Builder) (r : Import.Resolver) (id : ModuleId) (d : Descriptor) :
    b.survey r id d =
      ⟨b.recordOf id d, d.records.map fun x => linkOf r id x.1 x.2, d.omissions id⟩ := by
  unfold survey Descriptor.records Descriptor.omissions
  cases d.imports.items? with
  | none => rfl
  | some items =>
      dsimp only
      rw [surveyItems_eq r id items 0]
      rfl

end Builder

/-! ## The set of files -/

namespace Import.Resolver

/-- A resolver depends on the set of files only, not on their order. -/
theorem ofFiles_congr {known known' packageNames : List String}
    (h : ∀ id, id ∈ known ↔ id ∈ known') :
    ofFiles known packageNames = ofFiles known' packageNames := by
  have hfiles : (ExtTreeSet.ofList known : ExtTreeSet String) = ExtTreeSet.ofList known' := by
    refine ExtTreeSet.ext_mem fun id => ?_
    simpa using h id
  unfold ofFiles
  rw [hfiles]

/-- Where an import leads: to the file that it resolves to, or else to the package that it
seems to come from. -/
def targetOf (r : Resolver) (source : ModuleId) (imp : String) : ModuleId :=
  (r.resolve? imp source).getD (externalId imp)

end Import.Resolver

theorem Builder.linkOf_eq (r : Import.Resolver) (id : ModuleId) (imp : String)
    (location : Location) :
    linkOf r id imp location =
      ⟨⟨id, r.targetOf id imp, location, imp⟩, (r.resolve? imp id).isSome⟩ := by
  unfold linkOf Import.Resolver.targetOf
  cases r.resolve? imp id <;> rfl

end LayerLint
