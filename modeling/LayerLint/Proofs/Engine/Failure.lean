import LayerLint.Proofs.Engine.Hosted

/-!
# Calls that fail

A host that goes on after a fault wants to find the engine as it was before.
Where offers are surveyed, a fault stops the call before anything is remembered.
The same goes for an update with something that names no file, and for the
removal of something that is no path.

But an update has remembered its offer, and a removal has forgotten one, before
everything is built again; and an update of a known file has remembered its offer
before it is read.  So whatever stops the call then is met by the next one too.

There is one more way for an update to fail.  A file may have the id of a
package.  When it is worked out again and nothing imports it, it goes with the
packages that nothing imports, and then it is missing where its edges are
counted.  Its new descriptor is remembered by then, and there is nothing wrong
with it.  So the next time that everything is built, it counts, although the
update that brought it had failed.

No assumption about ids is made here, so what is known of a last result is that
its graph has no loose ends.  That is enough for every check to succeed.

## Main results

* `Fails.perform_eq`, `Sound.perform_of_not_fails`: which calls fail, and with what.
* `Good.fails_iff`: when only updates fail.
* `Sound.after`: after any calls the last graph has no loose ends.
* `rebuild_after_failing_call`: what is built after a call that fails.
* `exists_remembered_descriptor`: an update that fails is seen in what is built after it.
-/

namespace LayerLint

namespace Builder

/-- Nothing imports the file once it has the descriptor, neither another module nor
itself. -/
def Unimported (b : Builder) (g : ModuleGraph) (id : ModuleId) (d : Descriptor) : Prop :=
  (∀ source, source ≠ id → g.edge? source id = none) ∧
    ∀ l ∈ (b.resurvey g id d).links, l.edge.target ≠ id

variable {b : Builder} {g : ModuleGraph} {s : Submission} {id : ModuleId} {d : Descriptor}

/-- A file is gone after a change when it has the id of a package and nothing imports
it. -/
theorem not_contains_replace_iff :
    ¬ (g.replace (b.resurvey g id d)).contains id = true ↔
      Import.isExternalId id = true ∧ b.Unimported g id d := by
  have hiff := ModuleGraph.contains_replace_iff (g := g) (s := b.resurvey g id d)
  rw [show (b.resurvey g id d).record.id = id from survey_record_id b _ id d] at hiff
  have hnoEdge : (¬ ∃ source, source ≠ id ∧ (g.edge? source id).isSome = true) ↔
      ∀ source, source ≠ id → g.edge? source id = none := by
    simp only [not_exists, not_and, Option.not_isSome_iff_eq_none]
  have hnoLink : (¬ ∃ l ∈ (b.resurvey g id d).links, l.edge.target = id) ↔
      ∀ l ∈ (b.resurvey g id d).links, l.edge.target ≠ id := by
    simp only [not_exists, not_and, ne_eq]
  rw [hiff, Classical.not_imp, not_or, hnoEdge, hnoLink, Unimported, and_comm (b := ∀ l ∈ _, _)]

theorem update_of_missed (hs : s.usable? = some (id, d))
    (h : Import.isExternalId id = true ∧ b.Unimported g id d) :
    b.update g s = .error (.noKey id) := by
  rw [update_eq b g hs, if_neg (not_contains_replace_iff.2 h)]

theorem update_of_not_missed (hs : s.usable? = some (id, d))
    (h : ¬ (Import.isExternalId id = true ∧ b.Unimported g id d)) :
    ∃ skipped, b.update g s = .ok (g.replace (b.resurvey g id d), skipped) := by
  rw [update_eq b g hs, if_pos (Classical.not_not.1 (mt not_contains_replace_iff.1 h))]
  exact ⟨_, rfl⟩

end Builder

/-- An update with a submission that describes no file is refused and changes nothing. -/
theorem Engine.exists_update_eq_error (e : Engine) {s : Submission} (hs : s.usable? = none) :
    ∃ f, e.update s = (.error f, e) := by
  obtain ⟨f, hf⟩ := Builder.exists_unitOf_error hs
  exact ⟨f, by rw [Engine.update, hf]⟩

namespace HostedEngine

open Offer (NeverEnds stop?)

/-! ## Which calls fail -/

/-- A run on the offers is stopped. -/
def StoppedBy (h : HostedEngine) (offers : List Offer) (f : Fault) : Prop :=
  ¬NeverEnds h.workers offers ∧ stop? offers = some f

/-- The file has the id of a package, and with the descriptor nothing would import it. -/
def Misses (h : HostedEngine) (last : Result) (id : ModuleId) (d : Descriptor) : Prop :=
  Import.isExternalId id = true ∧ h.analysis.builder.Unimported last.graph id d

/-- Everything is built again after an update: there is no last result, or the file is
new. -/
def Renews (h : HostedEngine) (id : ModuleId) : Prop :=
  h.last = none ∨ (h.known.lookup id).isNone = true

/-- What is known once a call has failed. -/
def Call.stored (h : HostedEngine) : Call → Known Offer
  | run _ | rebuild => h.known
  | update o =>
    match o.id? with
    | some id => h.known.set id o
    | none => h.known
  | remove (.str path) => h.known.erase (Path.canonical path)
  | remove _ => h.known

/-- The engine once a call has failed. -/
def Call.remaining (h : HostedEngine) (c : Call) : HostedEngine := { h with known := c.stored h }

/-- The call fails with the fault. -/
inductive Fails (h : HostedEngine) : Call → Fault → Prop
  | run {offers : List Offer} {f : Fault} (stopped : h.StoppedBy offers f) :
      Fails h (.run offers) f
  | rebuild {f : Fault} (stopped : h.StoppedBy h.offers f) : Fails h .rebuild f
  /-- What is handed over names no file. -/
  | refused {o : Offer} {f : Fault} (unnamed : Builder.unitOf o.plain = .error f) :
      Fails h (.update o) f
  /-- Something that is known now cannot be read, be it the offer or another one. -/
  | renewed {o : Offer} {id : ModuleId} {f : Fault} (named : o.id? = some id)
      (renews : h.Renews id) (stopped : h.StoppedBy ((h.known.set id o).map (·.2)) f) :
      Fails h (.update o) f
  /-- The offer of a known file cannot be read. -/
  | unread {o : Offer} {id : ModuleId} {f : Fault} (named : o.id? = some id)
      (known : ¬h.Renews id) (unread : o.readingFault? = some f) : Fails h (.update o) f
  /-- A known file goes with the packages that nothing imports. -/
  | missed {o : Offer} {id : ModuleId} {d : Descriptor} {last : Result}
      (usable : o.plain.usable? = some (id, d)) (known : ¬h.Renews id)
      (read : o.readingFault? = none) (remembered : h.last = some last)
      (misses : h.Misses last id d) : Fails h (.update o) (.noKey id)
  /-- What is still known cannot be read. -/
  | removed {path : String} {f : Fault}
      (stopped : h.StoppedBy ((h.known.erase (Path.canonical path)).map (·.2)) f) :
      Fails h (.remove (.str path)) f
  /-- What is to be removed is no path. -/
  | noPath {path : Value} (other : path.isStr = false) :
      Fails h (.remove path) (.noOperation path.fullKindName "strip")

/-- The call has a result on a graph without loose ends, and the engine remembers it. -/
def Succeeds (h : HostedEngine) (o : Outcome) : Prop :=
  ∃ r known, o = some (.ok r, { h with known := known, last := some r }) ∧ r.graph.Consistent

/-- The graph of the last result has no loose ends. -/
def Sound (h : HostedEngine) : Prop := ∀ r, h.last = some r → r.graph.Consistent

variable {h : HostedEngine} {offers : List Offer} {o : Offer} {c : Call} {f : Fault}
variable {id : ModuleId} {d : Descriptor} {last : Result}

/-! ## Runs -/

theorem StoppedBy.run_eq (hstop : h.StoppedBy offers f) : h.run offers = some (.error f, h) := by
  obtain ⟨r, hrun, -⟩ := h.exists_run offers
  rw [hrun, if_neg hstop.1, hstop.2]

theorem run_of_not_stoppedBy (h : HostedEngine) (hgo : ∀ f, ¬h.StoppedBy offers f) :
    h.run offers = none ∨ h.Succeeds (h.run offers) := by
  obtain ⟨r, hrun, -, hgraph⟩ := h.exists_run offers
  by_cases hnever : NeverEnds h.workers offers
  · rw [if_pos hnever] at hrun
    exact Or.inl hrun
  · cases hstop : stop? offers with
    | some f => exact absurd ⟨hnever, hstop⟩ (hgo f)
    | none =>
        rw [if_neg hnever, hstop] at hrun
        refine Or.inr ⟨r, _, hrun, ?_⟩
        rw [hgraph]
        exact (Builder.depicts_build _ _).consistent

/-- A run answers as the analysis and the workers have it, whatever the engine
remembers. -/
theorem run_congr {h h' : HostedEngine} (ha : h.analysis = h'.analysis)
    (hw : h.workers = h'.workers) (offers : List Offer) :
    (h.run offers).map (·.1) = (h'.run offers).map (·.1) := by
  obtain ⟨r, hrun, hr, -⟩ := h.exists_run offers
  obtain ⟨r', hrun', hr', -⟩ := h'.exists_run offers
  rw [ha] at hr
  obtain rfl : r = r' := Except.ok.inj (hr.symm.trans hr')
  rw [hrun, hrun', hw]
  split
  · rfl
  · cases stop? offers <;> rfl

/-! ## Updates -/

/-- An update that builds everything again. -/
theorem update_of_renews (hs : o.plain.usable? = some (id, d)) (hrenews : h.Renews id) :
    h.update o = { h with known := h.known.set id o : HostedEngine }.rebuild := by
  rw [update, Builder.unitOf_of_usable? hs]
  dsimp only
  rcases hrenews with hlast | hnew
  · rw [hlast]
  · split
    · rw [if_pos hnew]
    · rfl

theorem exists_last (hknown : ¬h.Renews id) : ∃ last, h.last = some last :=
  Option.ne_none_iff_exists'.1 fun hnone => hknown (Or.inl hnone)

/-- An update that works out one file again. -/
theorem update_of_not_renews (hs : o.plain.usable? = some (id, d)) (hlast : h.last = some last)
    (hknown : ¬h.Renews id) :
    h.update o = some ({ h with known := h.known.set id o : HostedEngine }.amend last o id) := by
  have hold : ¬(h.known.lookup id).isNone = true := fun hnew => hknown (Or.inr hnew)
  rw [update, Builder.unitOf_of_usable? hs]
  dsimp only
  rw [hlast]
  dsimp only
  rw [if_neg hold]

/-- There is a result after one file has been worked out again, unless it is missed. -/
theorem Sound.succeeds_amend (hsound : h.Sound) (hs : o.plain.usable? = some (id, d))
    (hlast : h.last = some last) (hread : o.readingFault? = none)
    (hmisses : ¬h.Misses last id d) (known : Known Offer) :
    h.Succeeds (some ({ h with known := known : HostedEngine }.amend last o id)) := by
  have hgraph := hsound last hlast
  obtain ⟨skipped, hupdate⟩ := Builder.update_of_not_missed (g := last.graph) hs hmisses
  have hafter := hgraph.replace (Builder.linked_resurvey hgraph h.analysis.builder id d)
  obtain ⟨r, hr, hrgraph, -⟩ := h.analysis.exists_amended id hupdate hafter.closed
  refine ⟨r, known, ?_, hrgraph ▸ hafter⟩
  rw [amend, hread]
  dsimp only
  rw [hr]

theorem amend_of_misses (hs : o.plain.usable? = some (id, d)) (hread : o.readingFault? = none)
    (hmisses : h.Misses last id d) : h.amend last o id = (.error (.noKey id), h) := by
  have hupdate := Builder.update_of_missed (g := last.graph) hs hmisses
  rw [amend, hread]
  dsimp only
  rw [Analysis.amended, hupdate]
  rfl

/-! ## Single calls -/

/-- A call that fails leaves what it has remembered by then. -/
theorem Fails.perform_eq (hfails : h.Fails c f) :
    c.perform h = some (.error f, c.remaining h) := by
  cases hfails with
  | run hstop => exact hstop.run_eq
  | rebuild hstop => exact hstop.run_eq
  | @refused o f hrefused =>
      have hs : o.plain.usable? = none := by
        by_contra hsome
        obtain ⟨⟨id, d⟩, hd⟩ := Option.ne_none_iff_exists'.1 hsome
        rw [Builder.unitOf_of_usable? hd] at hrefused
        cases hrefused
      have hid : o.id? = none := by
        rw [← Offer.id?_plain, Submission.id?, hs, Option.map_none]
      rw [Call.remaining, Call.stored, hid, Call.perform, update, hrefused]
  | @renewed o id f hid hrenews hstop =>
      obtain ⟨d, hd⟩ := Offer.exists_usable? hid
      rw [Call.remaining, Call.stored, hid, Call.perform, update_of_renews hd hrenews]
      exact StoppedBy.run_eq (h := { h with known := h.known.set id o }) hstop
  | unread hid hknown hunread =>
      obtain ⟨d, hd⟩ := Offer.exists_usable? hid
      obtain ⟨last, hlast⟩ := exists_last hknown
      rw [Call.remaining, Call.stored, hid, Call.perform, update_of_not_renews hd hlast hknown,
        amend, hunread]
  | @missed o id d last hs hknown hread hlast hmisses =>
      rw [Call.remaining, Call.stored, Offer.id?_of_usable? hs, Call.perform,
        update_of_not_renews hs hlast hknown]
      exact congrArg some
        (amend_of_misses (h := { h with known := h.known.set id o }) hs hread hmisses)
  | @removed path f hstop =>
      exact StoppedBy.run_eq (h := { h with known := h.known.erase (Path.canonical path) }) hstop
  | @noPath path hpath =>
      cases path with
      | str s => cases hpath
      | _ => rfl

/-- Every other call has a result, if it ends. -/
theorem Sound.perform_of_not_fails (hsound : h.Sound) (hgo : ∀ f, ¬h.Fails c f) :
    c.perform h = none ∨ h.Succeeds (c.perform h) := by
  cases c with
  | run offers => exact run_of_not_stoppedBy h fun f hstop => hgo f (.run hstop)
  | rebuild => exact run_of_not_stoppedBy h fun f hstop => hgo f (.rebuild hstop)
  | update o =>
      cases hs : o.plain.usable? with
      | none =>
          obtain ⟨f, hf⟩ := Builder.exists_unitOf_error hs
          exact absurd (.refused hf) (hgo f)
      | some u =>
          obtain ⟨id, d⟩ := u
          have hid := Offer.id?_of_usable? hs
          by_cases hrenews : h.Renews id
          · rw [Call.perform, update_of_renews hs hrenews]
            exact run_of_not_stoppedBy { h with known := h.known.set id o }
              fun f hstop => hgo f (.renewed hid hrenews hstop)
          · obtain ⟨last, hlast⟩ := exists_last hrenews
            rw [Call.perform, update_of_not_renews hs hlast hrenews]
            have hread : o.readingFault? = none :=
              Option.eq_none_iff_forall_ne_some.2 fun f hf =>
                hgo f (.unread hid hrenews hf)
            exact Or.inr (hsound.succeeds_amend hs hlast hread
              (fun hmisses => hgo _ (.missed hs hrenews hread hlast hmisses)) _)
  | remove path =>
      cases path with
      | str path =>
          exact run_of_not_stoppedBy { h with known := h.known.erase (Path.canonical path) }
            fun f hstop => hgo f (.removed hstop)
      | _ => exact absurd (.noPath rfl) (hgo _)

/-- While all can be shown and read, and no worker is waited for in vain, only updates
fail. -/
theorem Good.fails_iff (hgood : h.Good) (hc : c.Good) :
    h.Fails c f ↔ ∃ o, c = .update o ∧ (Builder.unitOf o.plain = .error f ∨
      ∃ id d last, o.plain.usable? = some (id, d) ∧ ¬h.Renews id ∧ h.last = some last ∧
        h.Misses last id d ∧ f = .noKey id) := by
  have hgo : ∀ {offers : List Offer} {f : Fault}, (∀ o ∈ offers, Fits o) →
      ¬h.StoppedBy offers f := fun hoffers hstop =>
    nomatch (stop?_of_fits hoffers).symm.trans hstop.2
  constructor
  · intro hfails
    cases hfails with
    | run hstop => exact absurd hstop (hgo hc)
    | rebuild hstop => exact absurd hstop (hgo hgood.fits_offers)
    | refused hrefused => exact ⟨_, rfl, Or.inl hrefused⟩
    | renewed hid hrenews hstop =>
        obtain ⟨d, hd⟩ := Offer.exists_usable? hid
        exact absurd hstop (hgo (hgood.set hc hd).fits_offers)
    | unread hid hknown hunread => cases hunread.symm.trans hc.read
    | missed hs hknown hread hlast hmisses =>
        exact ⟨_, rfl, Or.inr ⟨_, _, _, hs, hknown, hlast, hmisses, rfl⟩⟩
    | removed hstop => exact absurd hstop (hgo (hgood.erase _).fits_offers)
    | noPath hpath => cases hpath.symm.trans hc
  · rintro ⟨o, rfl, hrefused | ⟨id, d, last, hs, hknown, hlast, hmisses, rfl⟩⟩
    · exact .refused hrefused
    · exact .missed hs hknown hc.read hlast hmisses

/-! ## Histories -/

/-- What no call changes, and the last graph that it leaves. -/
theorem Sound.next (hsound : h.Sound) {answer : Except Fault Result} {next : HostedEngine}
    (hcall : c.perform h = some (answer, next)) :
    next.Sound ∧ next.analysis = h.analysis ∧ next.workers = h.workers := by
  by_cases hfails : ∃ f, h.Fails c f
  · obtain ⟨f, hf⟩ := hfails
    rw [hf.perform_eq, Option.some.injEq, Prod.mk.injEq] at hcall
    obtain ⟨-, rfl⟩ := hcall
    exact ⟨hsound, rfl, rfl⟩
  · rcases hsound.perform_of_not_fails (not_exists.1 hfails) with hnever | ⟨r, known, hr, hgraph⟩
    · cases hnever.symm.trans hcall
    · rw [hr, Option.some.injEq, Prod.mk.injEq] at hcall
      obtain ⟨-, rfl⟩ := hcall
      refine ⟨fun r' hr' => ?_, rfl, rfl⟩
      rwa [← Option.some.inj hr']

/-- After any calls, whether they fail or not, the last graph has no loose ends. -/
theorem Sound.after (hsound : h.Sound) (calls : List Call) :
    (h.after calls).Sound ∧ (h.after calls).analysis = h.analysis ∧
      (h.after calls).workers = h.workers := by
  induction calls generalizing h with
  | nil => exact ⟨hsound, rfl, rfl⟩
  | cons c rest ih =>
      rw [HostedEngine.after, List.foldl_cons]
      cases hcall : c.perform h with
      | none => exact ih hsound
      | some answered =>
          obtain ⟨hnext, hanalysis, hworkers⟩ := hsound.next hcall
          obtain ⟨hafter, hanalysis', hworkers'⟩ := ih hnext
          exact ⟨hafter, hanalysis'.trans hanalysis, hworkers'.trans hworkers⟩

theorem sound_fresh (a : Analysis) (w : Workers) : (fresh a w).Sound := fun _ h => by cases h

/-- **What is built after a call that fails.**  Call an engine as often as you like, and
then once more.  The call fails exactly as `Fails` says.  Then the engine remembers the
last result that it had, and what it had known but for the file of an update or a
removal.  Building everything answers as a new engine does that is run on this; and when
nothing else is known than before, it answers and leaves the engine as it would have
done before the call. -/
theorem rebuild_after_failing_call (a : Analysis) (w : Workers) (calls : List Call) :
    let h := (fresh a w).after calls
    ∀ c f,
      ((∃ next, c.perform h = some (.error f, next)) ↔ h.Fails c f) ∧
      ∀ next, c.perform h = some (.error f, next) →
        next = { h with known := c.stored h } ∧
        next.rebuild.map (·.1) = ((fresh a w).run ((c.stored h).map (·.2))).map (·.1) ∧
        (c.stored h = h.known → next.rebuild = h.rebuild) := by
  intro h c f
  obtain ⟨hsound, hanalysis, hworkers⟩ := (sound_fresh a w).after calls
  have hiff : (∃ next, c.perform h = some (.error f, next)) ↔ h.Fails c f := by
    constructor
    · rintro ⟨next, hnext⟩
      by_cases hfails : ∃ f, h.Fails c f
      · obtain ⟨f', hf'⟩ := hfails
        rw [hf'.perform_eq, Option.some.injEq, Prod.mk.injEq, Except.error.injEq] at hnext
        exact hnext.1 ▸ hf'
      · rcases hsound.perform_of_not_fails (not_exists.1 hfails) with hnever | ⟨r, known, hr, -⟩
        · cases hnever.symm.trans hnext
        · cases hr.symm.trans hnext
    · exact fun hfails => ⟨_, hfails.perform_eq⟩
  refine ⟨hiff, fun next hnext => ?_⟩
  rw [(hiff.1 ⟨next, hnext⟩).perform_eq, Option.some.injEq, Prod.mk.injEq] at hnext
  obtain ⟨-, rfl⟩ := hnext
  refine ⟨rfl, run_congr (h := c.remaining h) hanalysis hworkers _, fun hsame => ?_⟩
  rw [Call.remaining, hsame]

/-- A file with the id of a package is updated with an import.  The update fails, and
yet the import is in what is built after it. -/
theorem exists_remembered_descriptor :
    let engine : HostedEngine :=
      { analysis := ⟨Check.all, ⟨Classifier.default.classify, []⟩, .default .default, .error⟩
        workers := .alone }
    let file (imports : List ImportItem) : Offer :=
      .submission (.descriptor ⟨.str "external:x", .items imports, .null⟩)
    let changed := file [.record (.str "app/b.py") (.at { file := "external:x" })]
    let h := engine.after [.run [file []]]
    ∃ before after next,
      h.rebuild.map (·.1) = some (.ok before) ∧
      h.update changed = some (.error (.noKey "external:x"), next) ∧
      next.rebuild.map (·.1) = some (.ok after) ∧
      before.graph.edgeCount = 0 ∧ after.graph.edgeCount = 1 := by
  intro engine file changed h
  let d : Descriptor := ⟨.str "external:x",
    .items [.record (.str "app/b.py") (.at { file := "external:x" })], .null⟩
  let b := engine.analysis.builder
  have hpath : idOfPath? (.str "external:x") = some "external:x" := by decide +kernel
  have hid (imports : List ImportItem) : (file imports).id? = some "external:x" := by
    simp [file, Offer.id?, Submission.id?, Submission.usable?, hpath]
  have hs : changed.plain.usable? = some ("external:x", d) :=
    Submission.usable?_eq_some_iff.2 ⟨rfl, hpath⟩
  have hgone : ¬ ((b.build [(file []).plain]).replace
      (b.resurvey (b.build [(file []).plain]) "external:x" d)).contains "external:x" = true := by
    decide +kernel
  have hbuilt : (b.build [(file []).plain]).edgeCount = 0 := by decide +kernel
  have hrebuilt : (b.build [changed.plain]).edgeCount = 1 := by decide +kernel
  -- Neither of the two offers stops a run.
  have hfits (imports : List ImportItem) : ∀ o ∈ [file imports], Fits o := by
    intro o ho
    obtain rfl := List.mem_singleton.1 ho
    exact ⟨by rw [Offer.showingFault?, hid]; rfl, rfl⟩
  have hrun (h : HostedEngine) (imports : List ImportItem) (hworkers : h.workers = .alone) :
      ∃ r, h.run [file imports] =
          some (.ok r, { h with known := [("external:x", file imports)], last := some r }) ∧
        r.graph = h.analysis.builder.build [(file imports).plain] := by
    have hworks : ∀ count, h.workers.waits count = false := fun count => by rw [hworkers]; rfl
    obtain ⟨r, hr, -, hgraph⟩ := exists_run_of_fits hworks (hfits imports)
    rw [Offer.firsts_singleton (hid imports)] at hr
    exact ⟨r, hr, hgraph⟩
  obtain ⟨r, hfirst, hgraph⟩ := hrun engine [] rfl
  have hh : h = { engine with known := [("external:x", file [])], last := some r } := by
    change ((engine.run [file []]).map (·.2)).getD engine = _
    rw [hfirst]
    rfl
  clear_value h
  subst hh
  let h : HostedEngine := { engine with known := [("external:x", file [])], last := some r }
  have hknown : ¬h.Renews "external:x" := by
    rintro (hlast | hnew)
    · cases hlast
    · cases hnew
  have hmisses : h.Misses r "external:x" d :=
    Builder.not_contains_replace_iff.1 (hgraph ▸ hgone)
  have hupdate := Fails.perform_eq (.missed hs hknown rfl rfl hmisses)
  have hset : Call.stored h (.update changed) = [("external:x", changed)] := by
    rw [Call.stored, hid]
    rfl
  obtain ⟨before, hbefore, hgraphBefore⟩ := hrun h [] rfl
  obtain ⟨after, hafter, hgraphAfter⟩ := hrun (Call.remaining h (.update changed)) _ rfl
  have hrebuild : (Call.remaining h (.update changed)).rebuild =
      (Call.remaining h (.update changed)).run [changed] := by
    rw [rebuild, HostedEngine.offers, Call.remaining, hset]
    rfl
  refine ⟨before, after, _, ?_, hupdate, ?_, ?_, ?_⟩
  · exact congrArg (Option.map (·.1)) hbefore
  · rw [hrebuild, hafter]
    rfl
  · rw [hgraphBefore]
    exact hbuilt
  · rw [hgraphAfter]
    exact hrebuilt

end HostedEngine

end LayerLint
