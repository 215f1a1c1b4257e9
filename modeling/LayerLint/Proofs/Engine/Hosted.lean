import LayerLint.Hosted
import LayerLint.Proofs.Engine.History
import LayerLint.Proofs.Graph.Consistency
import LayerLint.Proofs.Offer

/-!
# The engine as a host sees it

A run on offers ends in one of three ways, and which one is known from the
offers and the workers alone: it never ends, it is stopped and changes nothing,
or it has the result of a run on submissions.

As long as everything that is handed over can be shown and read, and the workers
are not waited for in vain, nothing is ever stopped.  Then the engine is the one
for submissions, call by call, and what is known of that one holds of this one.

## Main results

* `exists_run`: how a run ends.
* `Good.perform`: one call is the call of the engine for submissions.
* `Good.after`, `core_after`: so is a history of calls.
-/

namespace LayerLint.HostedEngine

open Offer (NeverEnds stop?)

/-! ## Runs -/

/-- How a run ends.  Its result is made of the offers alone. -/
theorem exists_run (h : HostedEngine) (offers : List Offer) :
    ∃ r : Result,
      h.run offers =
        (if NeverEnds h.workers offers then none
        else some (match stop? offers with
          | some f => (.error f, h)
          | none => (.ok r, { h with known := Offer.firsts ∅ offers, last := some r }))) ∧
      h.analysis.resultOn (h.analysis.builder.surveyAll (offers.map Offer.plain)) = .ok r ∧
      r.graph = h.analysis.builder.build (offers.map Offer.plain) := by
  obtain ⟨r, hr, hgraph, -⟩ := h.analysis.exists_resultOn (offers.map Offer.plain)
  refine ⟨r, ?_, hr, hgraph⟩
  rw [run, Builder.surveyOffers_eq]
  split
  · rfl
  · cases stop? offers with
    | some f => rfl
    | none =>
        rw [Option.map_some]
        dsimp only
        rw [hr]

/-! ## Calls -/

/-- A call of an engine. -/
inductive Call where
  | run (offers : List Offer)
  | update (o : Offer)
  | remove (path : Value)
  | rebuild

def Call.perform (h : HostedEngine) : Call → Outcome
  | run offers => h.run offers
  | update o => h.update o
  | remove path => h.remove path
  | rebuild => h.rebuild

/-- The engine after some calls.  A call that never ends is passed over. -/
def after (h : HostedEngine) (calls : List Call) : HostedEngine :=
  calls.foldl (fun h c => ((c.perform h).map (·.2)).getD h) h

/-- An engine that has not been called. -/
def fresh (a : Analysis) (w : Workers) : HostedEngine := { analysis := a, workers := w }

/-! ## The engine for submissions -/

/-- What is known, as descriptors. -/
def descriptors (h : HostedEngine) : Descriptors := h.known.filterMap fun u => u.2.plain.usable?

/-- The engine for submissions with the same state. -/
def core (h : HostedEngine) : Engine :=
  { analysis := h.analysis, descriptors := h.descriptors, last := h.last }

/-- The call with submissions in the place of offers. -/
def Call.plain : Call → Engine.Call
  | run offers => .run (offers.map Offer.plain)
  | update o => .update o.plain
  | remove path => .remove path.text
  | rebuild => .rebuild

section Known

variable {known : Known Offer} {id : ModuleId} {o : Offer} {d : Descriptor}

/-- Every offer is of the file under whose id it is known. -/
def Labelled (known : Known Offer) : Prop := ∀ u ∈ known, u.2.id? = some u.1

theorem labelled_cons_iff {u : ModuleId × Offer} :
    Labelled (u :: known) ↔ (∃ d, u.2.plain.usable? = some (u.1, d)) ∧ Labelled known := by
  rw [Labelled, List.forall_mem_cons]
  refine and_congr_left fun _ => ⟨Offer.exists_usable?, ?_⟩
  rintro ⟨d, hd⟩
  exact Offer.id?_of_usable? hd

/-- Handing over what is known is handing over its descriptors. -/
theorem map_plain_of_labelled (h : Labelled known) :
    (known.map (·.2)).map Offer.plain =
      Descriptors.submissions (known.filterMap fun u => u.2.plain.usable?) := by
  induction known with
  | nil => rfl
  | cons u rest ih =>
      obtain ⟨⟨d, hd⟩, hrest⟩ := labelled_cons_iff.1 h
      rw [List.map_cons, List.map_cons, ih hrest, List.filterMap_cons, hd,
        (Submission.usable?_eq_some_iff.1 hd).1]
      rfl

/-- What is known of a file is known of it as a descriptor. -/
theorem lookup_usable? (h : Labelled known) :
    ((known.filterMap fun u => u.2.plain.usable?).lookup id).isNone =
      (known.lookup id).isNone := by
  induction known with
  | nil => rfl
  | cons u rest ih =>
      obtain ⟨⟨d, hd⟩, hrest⟩ := labelled_cons_iff.1 h
      obtain ⟨k, o⟩ := u
      rw [List.filterMap_cons, hd]
      dsimp only
      rw [List.lookup_cons, List.lookup_cons]
      split
      · rfl
      · exact ih hrest

theorem set_usable? (h : Labelled known) (hd : o.plain.usable? = some (id, d)) :
    (known.set id o).filterMap (fun u => u.2.plain.usable?) =
      Known.set id d (known.filterMap fun u => u.2.plain.usable?) := by
  induction known with
  | nil =>
      rw [Known.set, List.filterMap_cons, hd]
      rfl
  | cons u rest ih =>
      obtain ⟨⟨e, he⟩, hrest⟩ := labelled_cons_iff.1 h
      obtain ⟨k, old⟩ := u
      rw [Known.set, List.filterMap_cons, he]
      dsimp only
      rw [Known.set]
      split
      · next hk =>
        subst hk
        rw [List.filterMap_cons, hd]
      · rw [List.filterMap_cons, he, ih hrest]

theorem erase_usable? (h : Labelled known) :
    (Known.erase id known).filterMap (fun u => u.2.plain.usable?) =
      Known.erase id (known.filterMap fun u => u.2.plain.usable?) := by
  induction known with
  | nil => rfl
  | cons u rest ih =>
      obtain ⟨⟨e, he⟩, hrest⟩ := labelled_cons_iff.1 h
      obtain ⟨k, old⟩ := u
      have ih := ih hrest
      unfold Known.erase at ih ⊢
      rw [List.filterMap_cons, he, List.filter_cons, List.filter_cons]
      split
      · rw [List.filterMap_cons, he, ih]
      · exact ih

end Known

/-! ## Nothing is stopped -/

/-- The offer can be shown or read, whichever is asked of it. -/
structure Fits (o : Offer) : Prop where
  shown : o.showingFault? = none
  read : o.readingFault? = none

/-- What is known can be read, and the workers are not waited for in vain. -/
structure Good (h : HostedEngine) : Prop where
  labelled : Labelled h.known
  fits : ∀ u ∈ h.known, Fits u.2
  works : ∀ count, h.workers.waits count = false

/-- The call hands over what can be shown and read, and a removal is of a path. -/
def Call.Good : Call → Prop
  | run offers => ∀ o ∈ offers, Fits o
  | update o => Fits o
  | remove path => path.isStr = true
  | rebuild => True

/-- The call answers as the engine for submissions does, and goes to the same state. -/
def Agrees (o : Outcome) (o' : Engine.Outcome) : Prop :=
  ∃ h : HostedEngine, o = some (o'.1, h) ∧ h.core = o'.2 ∧ h.Good

variable {h : HostedEngine}

theorem stop?_of_fits {offers : List Offer} (hoffers : ∀ o ∈ offers, Fits o) :
    stop? offers = none :=
  Offer.stop?_eq_none_iff.2 ⟨fun o ho => (hoffers o ho).shown,
    fun u hu => (hoffers u.2 (Offer.id?_of_mem_firsts hu).1).read⟩

theorem Good.fits_offers (hgood : h.Good) : ∀ o ∈ h.offers, Fits o := by
  intro o ho
  obtain ⟨u, hu, rfl⟩ := List.mem_map.1 ho
  exact hgood.fits u hu

/-- A run has a result when nothing stops it. -/
theorem exists_run_of_fits (hworks : ∀ count, h.workers.waits count = false)
    {offers : List Offer} (hoffers : ∀ o ∈ offers, Fits o) :
    ∃ r : Result,
      h.run offers =
        some (.ok r, { h with known := Offer.firsts ∅ offers, last := some r }) ∧
      h.analysis.resultOn (h.analysis.builder.surveyAll (offers.map Offer.plain)) = .ok r ∧
      r.graph = h.analysis.builder.build (offers.map Offer.plain) := by
  obtain ⟨r, hrun, hfacts⟩ := h.exists_run offers
  have hends : ¬NeverEnds h.workers offers := fun hnever => by
    rw [NeverEnds, hworks] at hnever
    exact absurd hnever.2 Bool.false_ne_true
  rw [if_neg hends, stop?_of_fits hoffers] at hrun
  exact ⟨r, hrun, hfacts⟩

theorem agrees_run (hworks : ∀ count, h.workers.waits count = false)
    {offers : List Offer} (hoffers : ∀ o ∈ offers, Fits o) :
    Agrees (h.run offers) (h.core.run (offers.map Offer.plain)) := by
  obtain ⟨r, hrun, hr, -⟩ := exists_run_of_fits hworks hoffers
  have hcore := h.core.run_of_resultOn hr
  rw [hrun, hcore]
  refine ⟨_, rfl, ?_, ?_⟩
  · rw [core, descriptors, Engine.knownFrom, Offer.units_ofSubmissions_plain]
    rfl
  · exact ⟨fun u hu => (Offer.id?_of_mem_firsts hu).2,
      fun u hu => hoffers u.2 (Offer.id?_of_mem_firsts hu).1, hworks⟩

theorem rebuild_core (hlabelled : Labelled h.known) :
    h.core.rebuild = h.core.run (h.offers.map Offer.plain) := by
  rw [Engine.rebuild, offers, map_plain_of_labelled hlabelled]
  rfl

theorem Good.agrees_rebuild (hgood : h.Good) : Agrees h.rebuild h.core.rebuild := by
  rw [rebuild_core hgood.labelled]
  exact agrees_run hgood.works hgood.fits_offers

/-- What is known with another offer of a file, or a new one. -/
theorem Good.set (hgood : h.Good) {o : Offer} (ho : Fits o) {id : ModuleId} {d : Descriptor}
    (hd : o.plain.usable? = some (id, d)) :
    ({ h with known := h.known.set id o } : HostedEngine).Good where
  labelled := by
    intro u hu
    rcases Known.mem_of_mem_set hu with rfl | hu
    · exact Offer.id?_of_usable? hd
    · exact hgood.labelled u hu
  fits := by
    intro u hu
    rcases Known.mem_of_mem_set hu with rfl | hu
    · exact ho
    · exact hgood.fits u hu
  works := hgood.works

theorem Good.erase (hgood : h.Good) (id : ModuleId) :
    ({ h with known := h.known.erase id } : HostedEngine).Good where
  labelled := fun u hu => hgood.labelled u (List.mem_filter.1 hu).1
  fits := fun u hu => hgood.fits u (List.mem_filter.1 hu).1
  works := hgood.works

/-- Working out one file again is the same for both engines. -/
theorem Good.agrees_amend (hgood : h.Good) {o : Offer} (ho : Fits o) (last : Result)
    (id : ModuleId) : Agrees (some (h.amend last o id)) (h.core.amend last o.plain id) := by
  have hcore : h.core.analysis = h.analysis := rfl
  rw [amend, ho.read, Engine.amend, hcore]
  dsimp only
  cases h.analysis.amended last o.plain id with
  | error f => exact ⟨h, rfl, rfl, hgood⟩
  | ok r =>
      exact ⟨{ h with last := some r }, rfl, rfl, hgood.labelled, hgood.fits, hgood.works⟩

theorem Good.agrees_update (hgood : h.Good) {o : Offer} (ho : Fits o) :
    Agrees (h.update o) (h.core.update o.plain) := by
  cases hs : o.plain.usable? with
  | none =>
      obtain ⟨f, hf⟩ := Builder.exists_unitOf_error hs
      rw [update, Engine.update, hf]
      exact ⟨h, rfl, rfl, hgood⟩
  | some u =>
      obtain ⟨id, d⟩ := u
      have hnext := hgood.set ho hs
      have hcore : ({ h with known := h.known.set id o } : HostedEngine).core =
          { h.core with descriptors := h.core.descriptors.set id d } := by
        rw [core, descriptors, set_usable? hgood.labelled hs]
        rfl
      have hlookup : (h.core.descriptors.lookup id).isNone = (h.known.lookup id).isNone :=
        lookup_usable? hgood.labelled
      rw [update, Engine.update, Builder.unitOf_of_usable? hs]
      dsimp only
      rw [hlookup, ← hcore, show h.core.last = h.last from rfl]
      cases hlast : h.last with
      | none =>
          rw [hlast] at hnext
          exact hnext.agrees_rebuild
      | some last =>
          rw [hlast] at hnext
          dsimp only
          split
          · exact hnext.agrees_rebuild
          · exact hnext.agrees_amend ho last id

/-- One call is the call of the engine for submissions. -/
theorem Good.perform (hgood : h.Good) {c : Call} (hc : c.Good) :
    Agrees (c.perform h) (c.plain.perform h.core) := by
  cases c with
  | run offers => exact agrees_run hgood.works hc
  | rebuild => exact hgood.agrees_rebuild
  | update o => exact hgood.agrees_update hc
  | remove path =>
      cases path with
      | str s =>
          have hcore : ({ h with known := h.known.erase (Path.canonical s) } : HostedEngine).core =
              { h.core with descriptors := h.core.descriptors.erase (Path.canonical s) } := by
            rw [core, descriptors, erase_usable? hgood.labelled]
            rfl
          have hagrees := (hgood.erase (Path.canonical s)).agrees_rebuild
          rw [hcore] at hagrees
          exact hagrees
      | _ => cases hc

/-- So is a history of calls. -/
theorem Good.after (hgood : h.Good) {calls : List Call} (hcalls : ∀ c ∈ calls, c.Good) :
    (h.after calls).Good ∧ (h.after calls).core = h.core.after (calls.map Call.plain) := by
  induction calls generalizing h with
  | nil => exact ⟨hgood, rfl⟩
  | cons c rest ih =>
      obtain ⟨hc, hrest⟩ := List.forall_mem_cons.1 hcalls
      obtain ⟨next, hperform, hcore, hnext⟩ := hgood.perform hc
      have hstep : h.after (c :: rest) = next.after rest := by
        rw [after, List.foldl_cons, hperform]
        rfl
      rw [hstep, List.map_cons, Engine.after, List.foldl_cons, ← hcore]
      exact ih hnext hrest

theorem good_fresh (a : Analysis) {w : Workers} (hworks : ∀ count, w.waits count = false) :
    (fresh a w).Good :=
  ⟨fun _ hu => absurd hu List.not_mem_nil, fun _ hu => absurd hu List.not_mem_nil, hworks⟩

/-- A new engine goes from state to state as the engine for submissions does, as long as
nothing is stopped. -/
theorem core_after (a : Analysis) {w : Workers} (hworks : ∀ count, w.waits count = false)
    {calls : List Call} (hcalls : ∀ c ∈ calls, c.Good) :
    ((fresh a w).after calls).core = (Engine.fresh a).after (calls.map Call.plain) :=
  ((good_fresh a hworks).after hcalls).2

end LayerLint.HostedEngine
