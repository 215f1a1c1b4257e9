import LayerLint.Offer
import LayerLint.Proofs.Graph.Build
import LayerLint.Proofs.Graph.Update
import LayerLint.Proofs.Graph.Workers

/-!
# Surveys of offers

Of all that is handed over, only the first offer of every file is read and only
what names no file is shown.  So a survey can be stopped in two ways, and a wait
that does not end is the only other way for it to have no result.  Otherwise it
is the survey of the offers as submissions, whoever looks at the files.

## Main results

* `unitsOf_plain`: the descriptors that count are those of the first offers.
* `surveyOffers_eq`: a survey of offers never ends, is stopped by the first fault,
  or is the survey of submissions.
-/

namespace LayerLint

open Std (ExtTreeSet)

namespace Offer

variable {o : Offer} {offers : List Offer} {m : ModuleId} {d : Descriptor}

/-! ## Offers as submissions -/

theorem id?_plain (o : Offer) : o.plain.id? = o.id? := by
  cases o with
  | submission s => rfl
  | thing t =>
      rw [plain, Thing.plain, id?]
      cases hpath : t.path with
      | none => rfl
      | some path =>
          rw [Option.bind_some]
          dsimp only
          split
          · next hsome =>
            obtain ⟨m, hm⟩ := Option.isSome_iff_exists.1 hsome
            simp [Submission.id?, Submission.usable?, Thing.descriptor, hm]
          · next hnone =>
            rw [Option.not_isSome_iff_eq_none.1 hnone]
            rfl

theorem id?_of_usable? (h : o.plain.usable? = some (m, d)) : o.id? = some m := by
  rw [← id?_plain, Submission.id?, h, Option.map_some]

theorem exists_usable? (h : o.id? = some m) : ∃ d, o.plain.usable? = some (m, d) := by
  rw [← id?_plain, Submission.id?, Option.map_eq_some_iff] at h
  obtain ⟨⟨_, d⟩, hd, rfl⟩ := h
  exact ⟨d, hd⟩

/-- What names a file is read as the descriptor that it is as a submission. -/
theorem read_of_usable? (h : o.plain.usable? = some (m, d)) :
    o.read = match o.readingFault? with | some f => .error f | none => .ok d := by
  rw [read, Builder.unitOf_of_usable? h]
  rfl

/-! ## First offers -/

theorem id?_of_mem_firsts {seen : ExtTreeSet ModuleId} {u : ModuleId × Offer}
    (h : u ∈ firsts seen offers) : u.2 ∈ offers ∧ u.2.id? = some u.1 := by
  induction offers generalizing seen with
  | nil => cases h
  | cons o rest ih =>
      have hskip : ∀ {seen}, u ∈ firsts seen rest → u.2 ∈ o :: rest ∧ u.2.id? = some u.1 :=
        fun h => ⟨List.mem_cons_of_mem _ (ih h).1, (ih h).2⟩
      rw [firsts] at h
      split at h
      · exact hskip h
      · split at h
        · exact hskip h
        · rcases List.mem_cons.1 h with rfl | h
          · exact ⟨List.mem_cons_self, ‹_›⟩
          · exact hskip h

theorem firsts_singleton (h : o.id? = some m) : firsts ∅ [o] = [(m, o)] := by
  simp [firsts, h]

/-- The selection among the submissions keeps the first offers. -/
theorem units_ofSubmissions_plain (seen : ExtTreeSet ModuleId) (offers : List Offer) :
    (Selection.ofSubmissions seen (offers.map plain)).units =
      (firsts seen offers).filterMap fun u => u.2.plain.usable? := by
  induction offers generalizing seen with
  | nil => rfl
  | cons o rest ih =>
      rw [List.map_cons, Selection.ofSubmissions, firsts, ← id?_plain, Submission.id?]
      cases hs : o.plain.usable? with
      | none => exact ih seen
      | some u =>
          obtain ⟨id, d⟩ := u
          dsimp only [Option.map_some]
          split
          · exact ih seen
          · rw [List.filterMap_cons, hs]
            exact congrArg _ (ih _)

/-- The descriptors that count are those of the first offers. -/
theorem unitsOf_plain (offers : List Offer) :
    unitsOf (offers.map plain) = (firsts ∅ offers).filterMap fun u => u.2.plain.usable? := by
  have h := units_ofSubmissions_plain ∅ offers
  rwa [selection_eq] at h

theorem map_fst_unitsOf_plain (offers : List Offer) :
    (unitsOf (offers.map plain)).map (·.1) = (firsts ∅ offers).map (·.1) := by
  have hkept : ∀ u ∈ firsts ∅ offers, ∃ d, u.2.plain.usable? = some (u.1, d) := fun u hu =>
    exists_usable? (id?_of_mem_firsts hu).2
  rw [unitsOf_plain]
  generalize firsts ∅ offers = units at hkept ⊢
  induction units with
  | nil => rfl
  | cons u rest ih =>
      obtain ⟨⟨d, hd⟩, hrest⟩ := List.forall_mem_cons.1 hkept
      rw [List.filterMap_cons, hd, List.map_cons, List.map_cons, ih hrest]

/-! ## What stops a survey -/

/-- The first fault of showing, or else the first fault of reading, stops a survey. -/
def stop? (offers : List Offer) : Option Fault :=
  (offers.findSome? showingFault?).or ((firsts ∅ offers).findSome? fun u => u.2.readingFault?)

/-- All that has to be shown can be, and then the workers are waited for in vain. -/
def NeverEnds (w : Workers) (offers : List Offer) : Prop :=
  offers.findSome? showingFault? = none ∧ w.waits (firsts ∅ offers).length = true

instance (w : Workers) (offers : List Offer) : Decidable (NeverEnds w offers) :=
  inferInstanceAs (Decidable (_ ∧ _))

theorem stop?_eq_none_iff : stop? offers = none ↔
    (∀ o ∈ offers, o.showingFault? = none) ∧
      ∀ u ∈ firsts ∅ offers, u.2.readingFault? = none := by
  rw [stop?, Option.or_eq_none_iff, List.findSome?_eq_none_iff, List.findSome?_eq_none_iff]

/-- A single offer that names a file is only read. -/
theorem stop?_singleton (h : o.id? = some m) : stop? [o] = o.readingFault? := by
  have hshown : o.showingFault? = none := by
    rw [showingFault?, h]
    rfl
  rw [stop?, firsts_singleton h, List.findSome?_singleton, List.findSome?_singleton, hshown]
  rfl

theorem NeverEnds.eq_idle {w : Workers} (h : NeverEnds w offers) :
    w = .idle ∧ Workers.manyFiles ≤ (firsts ∅ offers).length := by
  have hwaits := h.2
  cases w with
  | idle => exact ⟨rfl, of_decide_eq_true hwaits⟩
  | alone => cases hwaits
  | pool p => cases hwaits

/-- Reading one unit after the other ends with the first fault, or with all descriptors.
-/
private theorem mapM_surveyOffer (b : Builder) (r : Import.Resolver)
    {units : List (ModuleId × Offer)} (h : ∀ u ∈ units, u.2.id? = some u.1) :
    (units.map fun u => b.surveyOffer r u.1 u.2).mapM id =
      match units.findSome? (fun u => u.2.readingFault?) with
      | some f => .error f
      | none => .ok ((units.filterMap fun u => u.2.plain.usable?).map fun u =>
          b.survey r u.1 u.2) := by
  induction units with
  | nil => rfl
  | cons u rest ih =>
      obtain ⟨hu, hrest⟩ := List.forall_mem_cons.1 h
      obtain ⟨d, hd⟩ := exists_usable? hu
      rw [List.map_cons, List.mapM_cons, ih hrest, Builder.surveyOffer, read_of_usable? hd,
        List.findSome?_cons, List.filterMap_cons, hd]
      cases u.2.readingFault? with
      | some f => rfl
      | none =>
          cases rest.findSome? (fun u => u.2.readingFault?) with
          | some f => rfl
          | none => rfl

end Offer

namespace Builder

/-- **A survey of offers** never ends, is stopped by the first fault, or is the survey
of the offers as submissions. -/
theorem surveyOffers_eq (b : Builder) (w : Workers) (offers : List Offer) :
    b.surveyOffers w offers =
      if Offer.NeverEnds w offers then none
      else some (match Offer.stop? offers with
        | some f => .error f
        | none => .ok (b.surveyAll (offers.map Offer.plain))) := by
  rw [surveyOffers]
  cases hshown : offers.findSome? Offer.showingFault? with
  | some f => simp [Offer.NeverEnds, Offer.stop?, hshown]
  | none =>
      simp only [Offer.NeverEnds, Offer.stop?, hshown, true_and, Option.none_or]
      rw [Workers.collect_eq]
      split
      · rfl
      · rw [Option.map_some, Offer.mapM_surveyOffer b _ fun u hu => (Offer.id?_of_mem_firsts hu).2]
        cases (Offer.firsts ∅ offers).findSome? (fun u => u.2.readingFault?) with
        | some f => rfl
        | none =>
            rw [surveyAll, selection_eq, ← Offer.map_fst_unitsOf_plain, Offer.unitsOf_plain]
            rfl

end Builder

end LayerLint
