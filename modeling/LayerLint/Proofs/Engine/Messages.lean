import LayerLint.Proofs.Engine.Failure
import LayerLint.Proofs.Engine.Order
import LayerLint.Proofs.Graph.Invariant

/-!
# Messages about what was left out

A full run on submissions that describe every file once has a message for every
record that it leaves out, and no others.  An update of one file drops the messages
about that file and puts those about its new descriptor in their place.

Which messages are about a file is told by their text: they begin with the file's id
and a colon.  This holds of the file's own messages, so none of them stays behind.
But it can hold of a message of another file as well, whose id goes on with a colon
where the first one ends.  Such a message is dropped too, and is missing until the
next full run.

So after any number of updates the messages of a full run are those that are there
and some that are missing, and every missing one is a message of one file that begins
with the id of another one and a colon.  Ids without colons cannot be mistaken.

## Main results

* `Accounts.amend`: an update of one file loses only messages that can be mistaken.
* `messages_of_update`: so does a run with updates after it.
* `exists_lost_message`: a message of another file is lost.
-/

namespace LayerLint

open Std (ExtTreeMap)

/-! ## The messages of a file -/

namespace Descriptor

variable {id : ModuleId} {d : Descriptor} {message : String}

/-- The messages about what a descriptor has to leave out. -/
def messages (id : ModuleId) (d : Descriptor) : List String := (d.omissions id).map Skip.text

theorem mem_omissions {skip : Skip} (h : skip ∈ d.omissions id) :
    (∃ kind, skip = .noImportList id kind) ∨
      ∃ number problem, skip = .badImport id number problem := by
  rw [omissions] at h
  cases hitems : d.imports.items? with
  | none =>
      rw [hitems] at h
      exact Or.inl ⟨_, List.mem_singleton.1 h⟩
  | some items =>
      rw [hitems] at h
      obtain ⟨⟨item, position⟩, -, hskip⟩ := List.mem_filterMap.1 h
      dsimp only at hskip
      split at hskip
      · cases hskip
      · exact Or.inr ⟨_, _, (Option.some.inj hskip).symm⟩

/-- A message of a file begins with the file's id and a colon. -/
theorem exists_eq_append (h : message ∈ d.messages id) : ∃ rest, message = id ++ ":" ++ rest := by
  obtain ⟨skip, hskip, rfl⟩ := List.mem_map.1 h
  rcases mem_omissions hskip with ⟨kind, rfl⟩ | ⟨number, problem, rfl⟩
  · change ∃ rest, id ++ ": imports must be a list, got " ++ kind = id ++ ":" ++ rest
    exact ⟨" imports must be a list, got " ++ kind, String.toList_inj.1 (by simp)⟩
  · change ∃ rest, id ++ ": skipping import #" ++ toString number ++ ": " ++ problem.text =
      id ++ ":" ++ rest
    exact ⟨" skipping import #" ++ toString number ++ ": " ++ problem.text,
      String.toList_inj.1 (by simp)⟩

theorem isAbout_of_mem_messages (h : message ∈ d.messages id) :
    Engine.isAbout id message = true := by
  rw [Engine.isAbout, Text.startsWith_iff]
  exact exists_eq_append h

end Descriptor

/-! ## The messages of a project -/

namespace Project

variable {p : Project} {id : ModuleId} {d : Descriptor} {message : String}

/-- The messages of all files. -/
def messages (p : Project) : List String := p.toList.flatMap fun u => u.2.messages u.1

theorem nodup_toList (p : Project) : p.toList.Nodup := by
  refine ExtTreeMap.distinct_keys_toList.imp fun {u v} hne heq => hne ?_
  rw [heq, Std.compare_self]

/-- The messages of one file, and those of the others. -/
theorem messages_insert (p : Project) (id : ModuleId) (d : Descriptor) :
    (messages (p.insert id d)).Perm (d.messages id ++ messages (p.erase id)) := by
  have hout : (id, d) ∉ (p.erase id).toList := by
    rw [ExtTreeMap.mem_toList_iff_getElem?_eq_some, Tables.getElem?_erase, if_pos rfl]
    exact nofun
  have hperm : (p.insert id d).toList.Perm ((id, d) :: (p.erase id).toList) := by
    refine (List.perm_ext_iff_of_nodup (nodup_toList _)
      (List.nodup_cons.2 ⟨hout, nodup_toList _⟩)).2 fun ⟨x, e⟩ => ?_
    rw [List.mem_cons, Prod.mk.injEq, ExtTreeMap.mem_toList_iff_getElem?_eq_some,
      ExtTreeMap.mem_toList_iff_getElem?_eq_some, Tables.getElem?_insert, Tables.getElem?_erase]
    by_cases hx : id = x
    · simp [hx, eq_comm]
    · simp [hx, Ne.symm hx]
  exact hperm.flatMap_right _

theorem mem_messages :
    message ∈ p.messages ↔ ∃ (id : ModuleId) (d : Descriptor),
      p[id]? = some d ∧ message ∈ d.messages id := by
  simp only [messages, List.mem_flatMap, Prod.exists, ExtTreeMap.mem_toList_iff_getElem?_eq_some]

/-- The message is one of a file and begins like those of another one. -/
def Mistakable (p : Project) (message : String) : Prop :=
  ∃ (id other : ModuleId) (d : Descriptor), p[id]? = some d ∧ message ∈ d.messages id ∧
    other ∈ p ∧ other ≠ id ∧ Engine.isAbout other message = true

/-- Without colons in ids, a message begins with one id and a colon only. -/
theorem not_mistakable (h : ∀ id ∈ p, ':' ∉ id.toList) : ¬ p.Mistakable message := by
  rintro ⟨id, other, d, hd, hmem, hother, hne, habout⟩
  obtain ⟨rest, rfl⟩ := Descriptor.exists_eq_append hmem
  obtain ⟨rest', heq⟩ := Text.startsWith_iff.1 habout
  have hbefore := congrArg (Text.beforeFirst ':') heq
  rw [show ":" = String.singleton ':' from rfl,
    Text.beforeFirst_append (h id (Tables.mem_of_getElem? hd)),
    Text.beforeFirst_append (h other hother)] at hbefore
  exact hne hbefore.symm

/-- The messages are those of the files, up to some that are missing and can be
mistaken. -/
def Accounts (p : Project) (skipped : List String) : Prop :=
  ∃ lost, (skipped ++ lost).Perm p.messages ∧ ∀ message ∈ lost, p.Mistakable message

/-- An update of one file loses messages of the others only when they can be mistaken. -/
theorem Accounts.amend {skipped : List String} (h : p.Accounts skipped) (hid : id ∈ p) :
    Accounts (p.insert id d)
      (skipped.filter (fun message => !Engine.isAbout id message) ++ d.messages id) := by
  obtain ⟨lost, hperm, hlost⟩ := h
  obtain ⟨old, hold⟩ := Tables.exists_getElem? hid
  have hsplit : p.messages.Perm (old.messages id ++ messages (p.erase id)) := by
    have hinsert := messages_insert p id old
    rwa [Tables.insert_eq_self hold] at hinsert
  -- The file's old messages all go, whatever else goes with them.
  have hown : (old.messages id).filter (fun message => !Engine.isAbout id message) = [] := by
    rw [List.filter_eq_nil_iff]
    intro message hmem
    rw [Descriptor.isAbout_of_mem_messages hmem]
    decide
  have hkept := (hperm.trans hsplit).filter fun message => !Engine.isAbout id message
  rw [List.filter_append, List.filter_append, hown, List.nil_append] at hkept
  have hothers := List.filter_append_perm (Engine.isAbout id) (messages (p.erase id))
  refine ⟨lost.filter (fun message => !Engine.isAbout id message) ++
    (messages (p.erase id)).filter (Engine.isAbout id), ?_, ?_⟩
  · refine List.perm_iff_count.2 fun message => ?_
    have hcountKept := hkept.count_eq message
    have hcountOthers := hothers.count_eq message
    have hcountAll := (messages_insert p id d).count_eq message
    simp only [List.count_append] at hcountKept hcountOthers hcountAll ⊢
    omega
  · intro message hmem
    rcases List.mem_append.1 hmem with hmem | hmem
    · obtain ⟨hmem, hnot⟩ := List.mem_filter.1 hmem
      obtain ⟨x, other, e, he, hmessage, hother, hne, habout⟩ := hlost message hmem
      have hx : id ≠ x := by
        rintro rfl
        rw [Descriptor.isAbout_of_mem_messages hmessage] at hnot
        cases hnot
      refine ⟨x, other, e, ?_, hmessage, Tables.mem_insert.2 (Or.inr hother), hne, habout⟩
      rw [Tables.getElem?_insert, if_neg hx, he]
    · obtain ⟨hmem, habout⟩ := List.mem_filter.1 hmem
      obtain ⟨x, e, he, hmessage⟩ := mem_messages.1 hmem
      rw [Tables.getElem?_erase, Option.ite_none_left_eq_some] at he
      refine ⟨x, id, e, ?_, hmessage, Tables.mem_insert.2 (Or.inl rfl), he.1, habout⟩
      rw [Tables.getElem?_insert, if_neg he.1, he.2]

end Project

/-! ## The messages of a run -/

section Runs

variable {ss : List Submission}

/-- When every submission describes a file, and no two of them the same, a run has the
messages of the files only. -/
theorem Builder.skipped_perm_messages (b : Builder) (hdistinct : Submission.Distinct ss)
    (husable : ∀ s ∈ ss, s.usable?.isSome = true) :
    (b.surveyAll ss).skipped.Perm (Project.ofSubmissions ss).messages := by
  have hrefusals : refusalsOf ss = [] := by
    rw [(selection_of_distinct hdistinct).2, List.map_eq_nil_iff, List.filter_eq_nil_iff]
    intro s hs
    rw [← Option.not_isSome, husable s hs]
    decide
  have hunits : (unitsOf ss).Perm (Project.ofSubmissions ss).toList := by
    refine (List.perm_ext_iff_of_nodup (nodup_unitsOf ss).of_map (Project.nodup_toList _)).2
      fun ⟨id, d⟩ => ?_
    rw [ExtTreeMap.mem_toList_iff_getElem?_eq_some, Project.getElem?_ofSubmissions]
  rw [Survey.skipped, surveyAll_eq, hrefusals, List.nil_append, List.map_flatMap]
  exact hunits.flatMap_right _

/-- The descriptors that an engine knows are of this kind. -/
theorem Descriptors.Lists.clean {ds : Descriptors} {p : Project} (h : ds.Lists p)
    (hp : p.Labelled) :
    Submission.Distinct ds.submissions ∧ ∀ s ∈ ds.submissions, s.usable?.isSome = true := by
  have husable : ∀ u ∈ ds, (Submission.descriptor u.2).usable? = some u := fun u hu =>
    Submission.usable?_eq_some_iff.2 ⟨rfl, hp u.1 u.2 ((h.mem u.1 u.2).1 hu)⟩
  constructor
  · have hids : ds.submissions.filterMap Submission.id? = ds.map (·.1) := by
      rw [Descriptors.submissions, List.filterMap_map, ← List.filterMap_eq_map]
      refine List.filterMap_congr fun u hu => ?_
      rw [Function.comp_apply, Submission.id?, husable u hu]
      rfl
    rw [Submission.Distinct, hids]
    exact h.nodup
  · intro s hs
    obtain ⟨u, hu, rfl⟩ := List.mem_map.1 hs
    rw [husable u hu]
    rfl

/-- The descriptors of a project in order. -/
theorem Project.lists_toList (p : Project) : Descriptors.Lists p.toList p where
  nodup := by
    refine List.pairwise_map.2 (ExtTreeMap.distinct_keys_toList.imp fun {u v} hne heq => hne ?_)
    rw [heq, Std.compare_self]
  mem := fun _ _ => ExtTreeMap.mem_toList_iff_getElem?_eq_some

end Runs

namespace Engine

section Updates

variable {a : Analysis} {p : Project} {e : Engine} {s : Submission} {id : ModuleId}
  {d : Descriptor}

/-- The outcome is a result that accounts for the messages of the project, and is
remembered. -/
def Recounts (p : Project) (o : Outcome) : Prop :=
  ∃ r, o.1 = .ok r ∧ o.2.last = some r ∧ p.Accounts r.skipped

/-- The engine is in step with the project, and its last result accounts for the
messages. -/
structure Tells (a : Analysis) (p : Project) (e : Engine) : Prop extends Keeps a p e where
  accounts : ∀ r, e.last = some r → p.Accounts r.skipped

theorem Recounts.tells {o : Outcome} (h : Recounts p o) (hkeeps : Keeps a p o.2) :
    Tells a p o.2 where
  toKeeps := hkeeps
  accounts := by
    intro r' hr'
    obtain ⟨r, -, hlast, haccounts⟩ := h
    rw [hlast] at hr'
    rwa [← Option.some.inj hr']

theorem advance_update (p : Project) (hs : s.usable? = some (id, d)) :
    Call.advance p (.update s) = p.insert id d := by
  rw [Call.advance, hs]

/-- A run for which every submission counts misses no message. -/
theorem exists_run_messages (e : Engine) {ss : List Submission}
    (hdistinct : Submission.Distinct ss) (husable : ∀ s ∈ ss, s.usable?.isSome = true) :
    ∃ r, (e.run ss).1 = .ok r ∧ (e.run ss).2.last = some r ∧
      r.skipped.Perm (Project.ofSubmissions ss).messages := by
  obtain ⟨r, hrun, -, -, hskipped, -⟩ := e.exists_run ss
  refine ⟨r, by rw [hrun], by rw [hrun], ?_⟩
  rw [hskipped]
  exact e.analysis.builder.skipped_perm_messages hdistinct husable

theorem recounts_run (e : Engine) {ss : List Submission} (hdistinct : Submission.Distinct ss)
    (husable : ∀ s ∈ ss, s.usable?.isSome = true) : Recounts (.ofSubmissions ss) (e.run ss) := by
  obtain ⟨r, hr, hlast, hperm⟩ := e.exists_run_messages hdistinct husable
  exact ⟨r, hr, hlast, [], by rwa [List.append_nil], fun _ hmem => absurd hmem List.not_mem_nil⟩

theorem Knows.recounts_rebuild (h : Knows a p e) : Recounts p e.rebuild := by
  obtain ⟨hdistinct, husable⟩ := h.lists.clean h.labelled
  have hrun := e.recounts_run hdistinct husable
  rwa [h.lists.ofSubmissions_eq h.labelled] at hrun

/-- Working out one file again keeps the messages that are not about it, and adds those
of its descriptor. -/
theorem exists_amend (e : Engine) {last : Result} (hlast : last.graph.WellFormed)
    (hs : s.usable? = some (id, d)) (hid : Import.isExternalId id = false) :
    ∃ r, e.amend last s id = (.ok r, { e with last := some r }) ∧
      r.skipped = last.skipped.filter (fun message => !isAbout id message) ++ d.messages id := by
  have hfits := Builder.fits_resurvey hlast.toFiled e.analysis.builder d hid
  have hskips : (e.analysis.builder.resurvey last.graph id d).skips = d.omissions id := by
    rw [Builder.resurvey, Builder.survey_eq]
  have hupdate := Builder.update_eq_replace (b := e.analysis.builder) hlast.toFiled hs hid
  obtain ⟨r, hr, -, -, hskipped⟩ :=
    e.analysis.exists_amended id hupdate (hlast.toFiled.replace hfits).closed
  refine ⟨r, by rw [amend, hr], ?_⟩
  rw [hskipped, hskips]
  rfl

/-- An update of a file keeps account of the messages. -/
theorem Tells.recounts_update (h : Tells a p e) (hs : s.usable? = some (id, d))
    (hid : Import.isExternalId id = false) : Recounts (p.insert id d) (e.update s) := by
  have hknows := h.toKnows.set (Submission.usable?_eq_some_iff.1 hs).2 hid
  rw [update, Builder.unitOf_of_usable? hs]
  dsimp only
  split
  · rename_i last hlast
    by_cases hnew : (e.descriptors.lookup id).isNone = true
    · rw [if_pos hnew]
      exact hknows.recounts_rebuild
    · rw [if_neg hnew]
      obtain ⟨r, hamend, hskipped⟩ :=
        exists_amend { e with descriptors := e.descriptors.set id d }
          ((h.last last hlast).wellFormed h.internal) hs hid
      rw [hamend]
      refine ⟨r, rfl, rfl, ?_⟩
      rw [hskipped]
      exact (h.accounts last hlast).amend (h.lists.mem_of_lookup hnew)
  · exact hknows.recounts_rebuild

/-- Any number of updates keep the messages in step. -/
theorem Tells.after_updates (h : Tells a p e) {updates : List Submission}
    (hids : ∀ s ∈ updates, ∀ id ∈ s.id?, Import.isExternalId id = false) :
    Tells a ((updates.map Call.update).foldl Call.advance p)
      (e.after (updates.map Call.update)) := by
  induction updates generalizing p e with
  | nil => exact h
  | cons s rest ih =>
      have hrest : ∀ t ∈ rest, ∀ id ∈ t.id?, Import.isExternalId id = false :=
        fun t ht => hids t (List.mem_cons_of_mem s ht)
      have hnext : Tells a (Call.advance p (.update s)) (Call.perform e (.update s)).2 := by
        cases hs : s.usable? with
        | none =>
            obtain ⟨f, hupdate⟩ := e.exists_update_eq_error hs
            rw [Call.perform, hupdate, Call.advance, hs]
            exact h
        | some u =>
            obtain ⟨id, d⟩ := u
            have hsid : id ∈ s.id? := by rw [Submission.id?, hs]; rfl
            have hid := hids s List.mem_cons_self id hsid
            have hcall : Call.Admissible (.update s) := ⟨id, hsid, hid⟩
            have hkeeps := (h.toKeeps.answers hcall).keeps
            rw [advance_update p hs] at hkeeps ⊢
            exact (h.recounts_update hs hid).tells hkeeps
      exact ih hnext hrest

end Updates

/-- **An update loses messages of other files only when they can be mistaken.**  Let an
engine run on submissions that describe every file once, update files as often as you
like, whether they are known or new, and then update one more.  The messages of the
last result, and some that are missing, are those of a full run on the descriptors
that are current by then.  A message that is missing is one of a file, and begins with
the id of another file and a colon.  So none is missing when no id has a colon.
Provided that no file has the id of a package. -/
theorem messages_of_update (engine : Engine) {ss updates : List Submission}
    (hdistinct : Submission.Distinct ss) (husable : ∀ s ∈ ss, s.usable?.isSome = true)
    (hids : ∀ s ∈ ss ++ updates, ∀ id ∈ s.id?, Import.isExternalId id = false)
    {s : Submission} {id : ModuleId} {d : Descriptor} (hs : s.usable? = some (id, d))
    (hid : Import.isExternalId id = false) {values : List Submission} :
    let calls := Call.run ss :: updates.map Call.update
    let p : Project := (calls ++ [Call.update s]).foldl Call.advance ∅
    values.Perm p.submissions →
    ∃ r full lost, ((engine.after calls).update s).1 = .ok r ∧
      ((fresh engine.analysis).run values).1 = .ok full ∧
      (r.skipped ++ lost).Perm full.skipped ∧ (∀ message ∈ lost, p.Mistakable message) ∧
      ((∀ x ∈ p, ':' ∉ x.toList) → r.skipped.Perm full.skipped) := by
  intro calls p hvalues
  have hstart : Tells engine.analysis (.ofSubmissions ss) (engine.run ss).2 :=
    (engine.recounts_run hdistinct husable).tells (answers_run rfl
      (.ofSubmissions fun t ht => hids t (List.mem_append_left _ ht))).keeps
  have hbefore := hstart.after_updates fun t ht => hids t (List.mem_append_right _ ht)
  have hp : p = ((updates.map Call.update).foldl Call.advance (.ofSubmissions ss)).insert id d := by
    change (calls ++ [Call.update s]).foldl Call.advance ∅ = _
    rw [List.foldl_append, List.foldl_cons, List.foldl_nil, advance_update _ hs]
    rfl
  have hlabelled : p.Labelled :=
    hp ▸ (hbefore.toKnows.set (Submission.usable?_eq_some_iff.1 hs).2 hid).labelled
  obtain ⟨r, hr, -, lost, hperm, hlost⟩ := hbefore.recounts_update hs hid
  rw [← hp] at hperm hlost
  -- The full run is on the descriptors of the project, in whatever order.
  obtain ⟨hdistinct', husable'⟩ := p.lists_toList.clean hlabelled
  have hproject : Project.ofSubmissions values = p := by
    refine Project.ofSubmissions_eq hlabelled fun t => ?_
    rw [hvalues.mem_iff, Project.submissions, List.mem_map]
    simp only [Prod.exists, ExtTreeMap.mem_toList_iff_getElem?_eq_some, eq_comm]
  obtain ⟨full, hfull, -, hmessages⟩ := (fresh engine.analysis).exists_run_messages
    (hdistinct'.of_perm hvalues.symm) fun t ht => husable' t (hvalues.mem_iff.1 ht)
  rw [hproject] at hmessages
  refine ⟨r, full, lost, hr, hfull, hperm.trans hmessages.symm, hlost, fun hcolons => ?_⟩
  have hnone : lost = [] := List.eq_nil_iff_forall_not_mem.2 fun message hmem =>
    Project.not_mistakable hcolons (hlost message hmem)
  rw [hnone, List.append_nil] at hperm
  exact hperm.trans hmessages.symm

/-- Between the run and the update a file is added and an update fails; every file
leaves something out in the end. -/
theorem messages_of_update_of_three_files :
    let engine : Engine :=
      { analysis := ⟨Check.all, ⟨Classifier.default.classify, []⟩, .default .default, .error⟩ }
    let file (path : String) (imports : ImportList) : Submission :=
      .descriptor ⟨.str path, imports, .null⟩
    let nowhere : ImportList := .items [.record (.str "b.dart") (.other .null), .other (.int 3)]
    let ss := [file "lib/b.dart" (.other (.str "a.dart")), file "lib/a.dart" (.items [])]
    let updates := [file "lib/c.dart" nowhere, .other .null]
    let calls := Call.run ss :: updates.map Call.update
    let s := file "lib/a.dart" nowhere
    let values := [file "lib/b.dart" (.other (.str "a.dart")), s, file "lib/c.dart" nowhere]
    ∃ r full, ((engine.after calls).update s).1 = .ok r ∧
      ((fresh engine.analysis).run values).1 = .ok full ∧ r.skipped.Perm full.skipped := by
  intro engine file nowhere ss updates calls s values
  have hdistinct : Submission.Distinct ss := by decide +kernel
  have husable : ∀ s ∈ ss, s.usable?.isSome = true := by decide +kernel
  have hids : ∀ s ∈ ss ++ updates, ∀ id ∈ s.id?, Import.isExternalId id = false := by
    decide +kernel
  have hs : s.usable? = some ("lib/a.dart", ⟨.str "lib/a.dart", nowhere, .null⟩) :=
    Submission.usable?_eq_some_iff.2 ⟨rfl, by decide +kernel⟩
  have hvalues : values.Perm
      ((calls ++ [Call.update s]).foldl Call.advance ∅ : Project).submissions :=
    List.Perm.swap _ _ _
  obtain ⟨r, full, lost, hr, hfull, -, -, hcolons⟩ :=
    messages_of_update engine hdistinct husable hids hs (by decide +kernel) hvalues
  refine ⟨r, full, hr, hfull, hcolons fun x hx => ?_⟩
  have hkeys : ∀ x ∈ ((calls ++ [Call.update s]).foldl Call.advance ∅ : Project).keys,
      ':' ∉ x.toList := by decide +kernel
  exact hkeys x (ExtTreeMap.mem_keys.2 hx)

/-- A file is updated, and the message about another one goes, whose id goes on with a
colon where the id of the first one ends. -/
theorem exists_lost_message :
    let engine : Engine :=
      { analysis := ⟨Check.all, ⟨Classifier.default.classify, []⟩, .default .default, .error⟩ }
    let s : Submission := .descriptor ⟨.str "app/a.py", .items [], .null⟩
    let other : Submission :=
      .descriptor ⟨.str "app/a.py:old", .items [.record (.str "app/b.py") (.other .null)], .null⟩
    let message := "app/a.py:old: skipping import #1: missing location for import 'app/b.py'"
    Submission.Distinct [s, other] ∧
    (∀ t ∈ [s, other], t.usable?.isSome = true ∧ ∀ id ∈ t.id?, Import.isExternalId id = false) ∧
    ∃ before r full, (engine.run [s, other]).1 = .ok before ∧
      ((engine.run [s, other]).2.update s).1 = .ok r ∧
      ((fresh engine.analysis).run [s, other]).1 = .ok full ∧
      before.skipped = [message] ∧ r.skipped = [] ∧ full.skipped = [message] ∧
      ¬ r.skipped.Perm full.skipped := by
  intro engine s other message
  have hdistinct : Submission.Distinct [s, other] := by decide +kernel
  have hids : ∀ t ∈ [s, other], t.usable?.isSome = true ∧
      ∀ id ∈ t.id?, Import.isExternalId id = false := by decide +kernel
  have hmessages : (engine.analysis.builder.surveyAll [s, other]).skipped = [message] := by
    decide +kernel
  obtain ⟨before, hrun, hgraph, -, hbefore, -⟩ := engine.exists_run [s, other]
  obtain ⟨full, hfull, -, -, hfullMessages, -⟩ := (fresh engine.analysis).exists_run [s, other]
  have hwell : before.graph.WellFormed := by
    rw [hgraph]
    exact (Builder.depicts_build _ _).wellFormed (.ofSubmissions fun t ht => (hids t ht).2)
  have hs : s.usable? = some ("app/a.py", ⟨.str "app/a.py", .items [], .null⟩) :=
    Submission.usable?_eq_some_iff.2 ⟨rfl, by decide +kernel⟩
  obtain ⟨r, hamend, hskipped⟩ := exists_amend
    { engine with
      descriptors := (knownFrom [s, other]).set "app/a.py" ⟨.str "app/a.py", .items [], .null⟩
      last := some before } hwell hs (by decide +kernel)
  have hknown : ((knownFrom [s, other]).lookup "app/a.py").isNone = false := by decide +kernel
  have hr : r.skipped = [] := by
    rw [hskipped, hbefore, hmessages]
    decide +kernel
  have hall : full.skipped = [message] := hfullMessages.trans hmessages
  refine ⟨hdistinct, hids, before, r, full, by rw [hrun], ?_, by rw [hfull],
    hbefore.trans hmessages, hr, hall, ?_⟩
  · rw [hrun, update, Builder.unitOf_of_usable? hs]
    dsimp only
    rw [hknown, if_neg Bool.false_ne_true, hamend]
  · rw [hr, hall, List.nil_perm]
    exact List.cons_ne_nil message []

end Engine

end LayerLint
