import LayerLint.Config.Discovery
import LayerLint.Proofs.Engine.Defaults

/-!
# What becomes of a configuration

Values come from files, from the environment and from overrides, and every field
can have a value of every kind.  Loading looks at some of them and refuses what
does not fit; what it does not look at is read only when something is derived
from it.

So there are two questions.  Loading should end with one of the program's own
faults or with a configuration; it does, but for a few other faults.  And a
configuration that was accepted should be of use; the checks and the classifier
always are, and so are the policy and the rules about edges unless the layers
that are exempt, a severity or one of the lists of names have a value that
nothing looked at.

## Main results

* `loadFault_of_discover`: the faults that loading can end with.
* `Passed.usable_iff`: an accepted configuration is of use just when the values
  that nothing looked at fit as well.
* `discover_cases`: both together.
-/

namespace LayerLint

namespace Config

/-- The faults that loading a configuration ends with.  All but the first are none of the
program's own. -/
inductive LoadFault : Fault → Prop
  | own {f : Fault} (h : f.family?.isSome = true) : LoadFault f
  /-- The value that a message would be about cannot be shown. -/
  | unshowable {f : Fault} {v : Value} (h : v.unshowable? = some f) : LoadFault f
  /-- The table of severities is no table. -/
  | noSeverities (kind : String) : LoadFault (.noOperation kind "items")
  | noHome : LoadFault .noHome
  | pathTooLong (path : String) : LoadFault (.pathTooLong path)

/-- The values that loading does not look at fit what is derived from them. -/
structure Complete (c : Config) : Prop where
  severities : ∀ (kind : ViolationKind) (v : Value),
    (c.get .severities).get? kind.name = some v → v.isStr = true
  exempt : c.get .exemptLayers = .null ∨ ∃ items, (c.get .exemptLayers).items? = some items ∧
    ∀ item ∈ items, item.unshowable? = none
  names : ∀ f ∈ [Field.leakMarkers, .internalSegments, .compositionRoots, .sharedSegments],
    ∃ items, (c.get f).items? = some items ∧ ∀ item ∈ items, item.isStr = true

/-- Everything that is derived from a configuration is there. -/
structure Usable (c : Config) : Prop where
  checks : ∃ checks, c.checks = .ok checks
  severities : ∀ kind, ∃ severity, c.severityFor kind = .ok severity
  policy : ∃ p, c.policy = .ok p
  classifier : ∃ classifier, c.classifier = .ok classifier
  analysis : ∃ a, Analysis.ofConfig c {} = .ok a

/-! ## What loading ends with -/

variable {f : Fault}

theorem LoadFault.ofSetting (key : String) (v : Value) (reason : String) :
    LoadFault (.ofSetting key v reason) := by
  rw [Fault.ofSetting, Fault.about]
  cases h : v.unshowable? with
  | none => exact .own rfl
  | some f => exact .unshowable h

theorem LoadFault.of_setting {key : String} {v : Value} {reason : String}
    (h : (throw (.ofSetting key v reason) : Except Fault Unit) = .error f) : LoadFault f := by
  cases h
  exact .ofSetting key v reason

theorem loadFault_of_rowsOfTable {t : Table} (h : LayerPolicy.rowsOfTable t = .error f) :
    LoadFault f := by
  rcases bind_eq_error_iff.1 h with h | ⟨_, -, h⟩
  · obtain ⟨⟨source, targets⟩, -, h⟩ := exists_of_mapM_eq_error h
    unfold LayerPolicy.rowsOfEntry at h
    split at h
    · obtain ⟨entry, -, h⟩ := exists_of_mapM_eq_error h
      unfold LayerPolicy.rowOfEntry at h
      split at h
      · cases h
      · cases h
        exact .ofSetting _ _ _
    · cases h
      exact .ofSetting _ _ _
  · cases h

theorem loadFault_of_checkSegments {v : Value} (h : checkSegments v = .error f) : LoadFault f := by
  unfold checkSegments at h
  split at h
  · obtain ⟨⟨layer, runs⟩, -, h⟩ := exists_of_forM_eq_error h
    dsimp only at h
    split at h
    · cases h
    · exact .of_setting h
  · exact .of_setting h

theorem loadFault_of_checkPackageNames {v : Value} (h : checkPackageNames v = .error f) :
    LoadFault f := by
  unfold checkPackageNames at h
  split at h
  · cases h
  · exact .of_setting h

theorem loadFault_of_checkPolicy {v : Value} (h : checkPolicy v = .error f) : LoadFault f := by
  unfold checkPolicy at h
  split at h
  · exact loadFault_of_rowsOfTable (map_eq_error_iff.1 h)
  · exact .of_setting h

theorem loadFault_of_checkSeverities {v : Value} (h : checkSeverities v = .error f) :
    LoadFault f := by
  unfold checkSeverities at h
  split at h
  · obtain ⟨entry, -, h⟩ := exists_of_forM_eq_error h
    unfold checkSeverity at h
    split at h
    · exact .of_setting h
    · exact .of_setting h
    · cases h
  · cases h
    exact .noSeverities _

theorem loadFault_of_checkEnabled {v : Value} (h : checkEnabled v = .error f) :
    LoadFault f ∨ isMismatch f = true := by
  rcases bind_eq_error_iff.1 h with h | ⟨items, -, h⟩
  · unfold itemsOf at h
    split at h
    · cases h
    · cases h
      exact Or.inr rfl
  · obtain ⟨item, -, h⟩ := exists_of_forM_eq_error h
    split at h
    · cases h
    · exact Or.inl (.of_setting h)

theorem loadFault_of_checkWorkers {v : Value} (h : checkWorkers v = .error f) :
    LoadFault f ∨ isMismatch f = true := by
  unfold checkWorkers at h
  split at h
  · cases h
  · rcases bind_eq_error_iff.1 h with h | ⟨below, -, h⟩
    · unfold belowOne at h
      split at h
      · cases h
      · cases h
      · cases h
      · cases h
        exact Or.inr rfl
    · split at h
      · exact Or.inl (.of_setting h)
      · cases h

theorem loadFault_of_checkVerbosity {v : Value} (h : checkVerbosity v = .error f) :
    LoadFault f := by
  unfold checkVerbosity at h
  split at h
  · cases h
  · cases h
  · cases h
  · exact .of_setting h

theorem loadFault_of_check {c : Config} (h : c.check = .error f) :
    LoadFault f ∨ isMismatch f = true := by
  unfold check at h
  rcases bind_eq_error_iff.1 h with h | ⟨_, -, h⟩
  · exact Or.inl (loadFault_of_checkSegments h)
  rcases bind_eq_error_iff.1 h with h | ⟨_, -, h⟩
  · exact Or.inl (loadFault_of_checkPackageNames h)
  rcases bind_eq_error_iff.1 h with h | ⟨_, -, h⟩
  · exact Or.inl (loadFault_of_checkPolicy h)
  rcases bind_eq_error_iff.1 h with h | ⟨_, -, h⟩
  · exact Or.inl (loadFault_of_checkSeverities h)
  rcases bind_eq_error_iff.1 h with h | ⟨_, -, h⟩
  · exact loadFault_of_checkEnabled h
  rcases bind_eq_error_iff.1 h with h | ⟨_, -, h⟩
  · exact loadFault_of_checkWorkers h
  · exact Or.inl (loadFault_of_checkVerbosity h)

/-- The values that do not fit the kind of their field are refused in words. -/
theorem loadFault_of_ofSources {s : Sources} (h : ofSources s = .error f) : LoadFault f := by
  have htable : ∀ {f}, ofTable s.merge = .error f → LoadFault f ∨ isMismatch f = true := by
    intro f h
    unfold ofTable at h
    dsimp only at h
    split at h
    · rcases bind_eq_error_iff.1 h with h | ⟨_, hnone, -⟩
      · cases h
        exact Or.inr rfl
      · cases hnone
    · rcases bind_eq_error_iff.1 h with h | ⟨_, -, h⟩
      · exact loadFault_of_check h
      · cases h
  unfold ofSources at h
  split at h
  · cases h
  · next fault hfault =>
    split at h
    · cases h
      exact .own rfl
    · next hmismatch =>
      cases h
      exact (htable hfault).resolve_right hmismatch

theorem loadFault_of_ofFile {files : Files} {path : String} (h : ofFile files path = .error f) :
    LoadFault f := by
  unfold ofFile at h
  dsimp only at h
  split at h
  · cases h
    exact .own rfl
  · split at h
    · cases h
    · cases h
      exact .own rfl

theorem loadFault_of_isThere {files : Files} {path : String} (h : isThere files path = .error f) :
    LoadFault f := by
  unfold isThere at h
  split at h
  · cases h
    exact .pathTooLong path
  · cases h

theorem loadFault_of_toolSection {t : Table} (h : toolSection t = .error f) : LoadFault f := by
  unfold toolSection at h
  dsimp only at h
  split at h
  · split at h
    · cases h
    · cases h
      exact .ofSetting _ _ _
  · cases h
    exact .ofSetting _ _ _

theorem loadFault_of_global {w : Workplace} (h : global w = .error f) : LoadFault f := by
  unfold global at h
  split at h
  · cases h
    exact .noHome
  · rcases bind_eq_error_iff.1 h with h | ⟨there, -, h⟩
    · exact loadFault_of_isThere h
    · split at h
      · exact loadFault_of_ofFile (map_eq_error_iff.1 h)
      · cases h

theorem loadFault_of_project {w : Workplace} (h : project w = .error f) : LoadFault f := by
  unfold project at h
  dsimp only at h
  split at h
  · exact loadFault_of_ofFile (map_eq_error_iff.1 h)
  · split at h
    · rcases bind_eq_error_iff.1 (map_eq_error_iff.1 h) with h | ⟨t, -, h⟩
      · exact loadFault_of_ofFile h
      · exact loadFault_of_toolSection h
    · cases h

theorem loadFault_of_explicit {w : Workplace} {file : Option String}
    (h : explicit w file = .error f) : LoadFault f := by
  unfold explicit at h
  split at h
  · cases h
  · rcases bind_eq_error_iff.1 h with h | ⟨there, -, h⟩
    · exact loadFault_of_isThere h
    · split at h
      · exact loadFault_of_ofFile (map_eq_error_iff.1 h)
      · cases h
        exact .own rfl

theorem loadFault_of_ofEnvironment {environment : String → Option String}
    (h : ofEnvironment environment = .error f) : LoadFault f := by
  rcases bind_eq_error_iff.1 h with h | ⟨_, -, h⟩
  · obtain ⟨field, -, h⟩ := exists_of_mapM_eq_error h
    split at h
    · cases h
    · split at h
      · cases h
      · cases h
        exact .own rfl
  · cases h

/-- Loading ends with one of these faults or with a configuration. -/
theorem loadFault_of_discover {w : Workplace} {file : Option String} {overrides : Table}
    (h : discover w file overrides = .error f) : LoadFault f := by
  rcases bind_eq_error_iff.1 h with h | ⟨s, -, h⟩
  · unfold sources at h
    rcases bind_eq_error_iff.1 h with h | ⟨_, -, h⟩
    · exact loadFault_of_global h
    rcases bind_eq_error_iff.1 h with h | ⟨_, -, h⟩
    · exact loadFault_of_project h
    rcases bind_eq_error_iff.1 h with h | ⟨_, -, h⟩
    · exact loadFault_of_explicit h
    rcases bind_eq_error_iff.1 h with h | ⟨_, -, h⟩
    · exact loadFault_of_ofEnvironment h
    · cases h
  · exact loadFault_of_ofSources h

/-! ## What an accepted configuration is good for -/

variable {c : Config}

/-- The checks that an accepted configuration passed, as far as something is derived
from what they look at. -/
structure Passed (c : Config) : Prop where
  segments : checkSegments (c.get .layerSegments) = .ok ()
  policy : checkPolicy (c.get .policy) = .ok ()
  severities : checkSeverities (c.get .severities) = .ok ()
  enabled : checkEnabled (c.get .enabledChecks) = .ok ()

theorem passed_of_check (h : c.check = .ok ()) : c.Passed := by
  obtain ⟨⟨⟩, hsegments, h⟩ := bind_eq_ok_iff.1 h
  obtain ⟨⟨⟩, -, h⟩ := bind_eq_ok_iff.1 h
  obtain ⟨⟨⟩, hpolicy, h⟩ := bind_eq_ok_iff.1 h
  obtain ⟨⟨⟩, hseverities, h⟩ := bind_eq_ok_iff.1 h
  obtain ⟨⟨⟩, henabled, -⟩ := bind_eq_ok_iff.1 h
  exact ⟨hsegments, hpolicy, hseverities, henabled⟩

/-- What was accepted is what the sources say together, and it has passed. -/
theorem of_ofSources_eq_ok {s : Sources} (h : ofSources s = .ok c) :
    c = fill s.merge ∧ c.check = .ok () := by
  unfold ofSources at h
  split at h
  · next d hd =>
    cases h
    unfold ofTable at hd
    dsimp only at hd
    split at hd
    · obtain ⟨_, hthrow, -⟩ := bind_eq_ok_iff.1 hd
      cases hthrow
    · obtain ⟨_, hcheck, hd⟩ := bind_eq_ok_iff.1 hd
      cases hd
      exact ⟨rfl, hcheck⟩
  · split at h <;> cases h

theorem passed_of_discover {w : Workplace} {file : Option String} {overrides : Table}
    (h : discover w file overrides = .ok c) : c.Passed := by
  obtain ⟨s, -, h⟩ := bind_eq_ok_iff.1 h
  exact passed_of_check (of_ofSources_eq_ok h).2

theorem itemsOf_eq_ok_iff {v : Value} {items : List Value} :
    itemsOf v = .ok items ↔ v.items? = some items := by
  unfold itemsOf
  cases v.items? <;> simp

/-- Every enabled check is one. -/
theorem Passed.exists_checks (h : c.Passed) : ∃ checks, c.checks = .ok checks := by
  obtain ⟨items, hitems, henabled⟩ := bind_eq_ok_iff.1 h.enabled
  have hall : ∀ item ∈ items, ∃ check, checkOf item = .ok check := by
    intro item hitem
    have hchecked := forM_eq_ok_iff.1 henabled item hitem
    split at hchecked
    · next check hcheck => exact ⟨check, hcheck⟩
    · cases hchecked
  obtain ⟨checks, hchecks⟩ := exists_mapM_eq_ok_iff.2 hall
  exact ⟨_, bind_eq_ok_iff.2 ⟨items, hitems, bind_eq_ok_iff.2 ⟨checks, hchecks, rfl⟩⟩⟩

/-- A list of names is a list of texts. -/
theorem isStr_of_isNameList {v : Value} (h : isNameList v = true) :
    ∃ items, v.items? = some items ∧ ∀ item ∈ items, item.isStr = true := by
  unfold isNameList at h
  split at h
  · next items =>
    refine ⟨items, rfl, fun item hitem => ?_⟩
    have hname := List.all_eq_true.1 h item hitem
    split at hname
    · rfl
    · cases hname
  · cases h

/-- Every layer has a list of names. -/
theorem Passed.exists_classifier (h : c.Passed) :
    ∃ classifier, c.classifier = .ok classifier := by
  have hsegments := h.segments
  unfold checkSegments at hsegments
  split at hsegments
  · next entries hentries =>
    have hlists : ∀ entry ∈ entries, isNameList entry.2 = true := by
      intro entry hentry
      have hchecked := forM_eq_ok_iff.1 hsegments entry hentry
      dsimp only at hchecked
      split at hchecked
      · next hlist => exact hlist
      · cases hchecked
    have hread : ∃ segments, segmentsOfValue (.dict entries) = .ok segments := by
      refine exists_mapM_eq_ok_iff.2 fun (layer, runs) hentry => ?_
      obtain ⟨items, hitems, htexts⟩ := isStr_of_isNameList (hlists (layer, runs) hentry)
      dsimp only at hitems ⊢
      rw [hitems]
      refine exists_bind_eq_ok (exists_mapM_eq_ok_iff.2 fun item hitem => ?_) fun _ => ⟨_, rfl⟩
      have htext := htexts item hitem
      cases item with
      | str s => exact ⟨s, rfl⟩
      | _ => cases htext
    obtain ⟨segments, hread⟩ := hread
    exact ⟨_, map_eq_ok_iff.2 ⟨segments, hentries ▸ hread, rfl⟩⟩
  · cases hsegments

theorem Passed.exists_rows (h : c.Passed) :
    ∃ entries rows, c.get .policy = .dict entries ∧
      LayerPolicy.rowsOfTable entries = .ok rows := by
  have hpolicy := h.policy
  unfold checkPolicy at hpolicy
  split at hpolicy
  · next entries hentries =>
    obtain ⟨rows, hrows, -⟩ := map_eq_ok_iff.1 hpolicy
    exact ⟨entries, rows, hentries, hrows⟩
  · cases hpolicy

theorem exists_exempt_iff {v : Value} :
    (∃ exempt, LayerPolicy.exemptOfValue v = .ok exempt) ↔
      v = .null ∨ ∃ items, v.items? = some items ∧ ∀ item ∈ items, item.unshowable? = none := by
  have hname : ∀ item : Value,
      (∃ name, LayerPolicy.exemptName item = .ok name) ↔ item.unshowable? = none := by
    intro item
    unfold LayerPolicy.exemptName
    cases item.unshowable? <;> simp
  unfold LayerPolicy.exemptOfValue
  split
  · simp
  · next hnull =>
    rw [or_iff_right hnull]
    split
    · next items hitems => simp [exists_mapM_eq_ok_iff, hname, hitems]
    · next hitems => simp [hitems]

/-- The policy is there just when the layers that are exempt can be told. -/
theorem Passed.exists_policy_iff (h : c.Passed) :
    (∃ p, c.policy = .ok p) ↔
      ∃ exempt, LayerPolicy.exemptOfValue (c.get .exemptLayers) = .ok exempt := by
  obtain ⟨entries, rows, hentries, hrows⟩ := h.exists_rows
  constructor
  · rintro ⟨p, hp⟩
    unfold Config.policy at hp
    rw [hentries] at hp
    dsimp only at hp
    obtain ⟨_, -, hp⟩ := bind_eq_ok_iff.1 hp
    obtain ⟨exempt, hexempt, -⟩ := bind_eq_ok_iff.1 hp
    exact ⟨exempt, hexempt⟩
  · rintro ⟨exempt, hexempt⟩
    unfold Config.policy
    rw [hentries, hexempt]
    dsimp only
    rw [hrows]
    cases (c.get .useDefaultPolicy).isTruthy with
    | true => exact ⟨_, rfl⟩
    | false => exact ⟨_, rfl⟩

/-- A value that passed the check for a severity is read as one just when it is a text. -/
theorem exists_severityOf_iff {kind : String} {v : Value} (h : checkSeverity (kind, v) = .ok ()) :
    (∃ severity, severityOf v = .ok severity) ↔ v.isStr = true := by
  unfold checkSeverity at h
  split at h
  · cases h
  · cases h
  · next severity _ hread =>
    cases v with
    | str s =>
        have htext : Severity.ofText? s = some severity := hread
        simp [severityOf, htext, Value.isStr]
    | _ => simp [severityOf, Value.isStr]

/-- The severity of a kind is there just when it is told in a text or not at all. -/
theorem Passed.exists_severityFor_iff (h : c.Passed) {kind : ViolationKind} :
    (∃ severity, c.severityFor kind = .ok severity) ↔
      ∀ v, (c.get .severities).get? kind.name = some v → v.isStr = true := by
  have hseverities := h.severities
  unfold checkSeverities at hseverities
  split at hseverities
  · next entries hentries =>
    rw [severityFor, hentries, Value.get?]
    dsimp only
    cases hlookup : entries.lookup kind.name with
    | none =>
        -- A kind that is not told has its default, which is a text.
        simp [severityOf_name]
    | some v =>
        obtain ⟨before, after, rfl, -⟩ := List.lookup_eq_some_iff.1 hlookup
        have hmem : (kind.name, v) ∈ before ++ (kind.name, v) :: after :=
          List.mem_append_right before List.mem_cons_self
        simpa using exists_severityOf_iff (forM_eq_ok_iff.1 hseverities _ hmem)
  · cases hseverities

theorem exists_names_iff {v : Value} :
    (∃ names, namesOf v = .ok names) ↔
      ∃ items, v.items? = some items ∧ ∀ item ∈ items, item.isStr = true := by
  constructor
  · rintro ⟨names, h⟩
    obtain ⟨items, hitems, h⟩ := bind_eq_ok_iff.1 h
    refine ⟨items, itemsOf_eq_ok_iff.1 hitems, fun item hitem => ?_⟩
    obtain ⟨name, hname⟩ := exists_mapM_eq_ok_iff.1 ⟨names, h⟩ item hitem
    cases item with
    | str s => rfl
    | _ => cases hname
  · rintro ⟨items, hitems, htexts⟩
    rw [namesOf, itemsOf_eq_ok_iff.2 hitems]
    refine exists_mapM_eq_ok_iff.2 fun item hitem => ?_
    have htext := htexts item hitem
    cases item with
    | str s => exact ⟨s, rfl⟩
    | _ => cases htext

theorem exists_boundaryNames_iff :
    (∃ names, c.boundaryNames = .ok names) ↔
      ∀ f ∈ [Field.leakMarkers, .internalSegments, .compositionRoots, .sharedSegments],
        ∃ items, (c.get f).items? = some items ∧ ∀ item ∈ items, item.isStr = true := by
  simp only [← exists_names_iff, List.forall_mem_cons, List.not_mem_nil, false_implies,
    implies_true, and_true]
  constructor
  · rintro ⟨names, h⟩
    obtain ⟨leaks, hleaks, h⟩ := bind_eq_ok_iff.1 h
    obtain ⟨internal, hinternal, h⟩ := bind_eq_ok_iff.1 h
    obtain ⟨roots, hroots, h⟩ := bind_eq_ok_iff.1 h
    obtain ⟨shared, hshared, -⟩ := bind_eq_ok_iff.1 h
    exact ⟨⟨leaks, hleaks⟩, ⟨internal, hinternal⟩, ⟨roots, hroots⟩, ⟨shared, hshared⟩⟩
  · rintro ⟨hleaks, hinternal, hroots, hshared⟩
    exact exists_bind_eq_ok hleaks fun _ => exists_bind_eq_ok hinternal fun _ =>
      exists_bind_eq_ok hroots fun _ => exists_bind_eq_ok hshared fun _ => ⟨_, rfl⟩

/-- An accepted configuration is of use just when the values that nothing looked at fit.
-/
theorem Passed.usable_iff (h : c.Passed) : c.Usable ↔ c.Complete := by
  constructor
  · intro husable
    obtain ⟨a, ha⟩ := husable.analysis
    obtain ⟨_, _, _, _, _, names, _, -, -, -, -, -, hnames, -⟩ := Analysis.ofConfig_eq_ok_iff.1 ha
    exact {
      severities := fun kind => h.exists_severityFor_iff.1 (husable.severities kind)
      exempt := exists_exempt_iff.1 (h.exists_policy_iff.1 husable.policy)
      names := exists_boundaryNames_iff.1 ⟨names, hnames⟩ }
  · intro hcomplete
    have hseverities : ∀ kind, ∃ severity, c.severityFor kind = .ok severity := fun kind =>
      h.exists_severityFor_iff.2 (hcomplete.severities kind)
    have hpolicy := h.exists_policy_iff.2 (exists_exempt_iff.2 hcomplete.exempt)
    have hnames := exists_boundaryNames_iff.2 hcomplete.names
    refine ⟨h.exists_checks, hseverities, hpolicy, h.exists_classifier, ?_⟩
    exact exists_bind_eq_ok h.exists_checks fun _ => exists_bind_eq_ok hpolicy fun _ =>
      exists_bind_eq_ok h.exists_classifier fun _ => exists_bind_eq_ok (hseverities _) fun _ =>
      exists_bind_eq_ok (hseverities _) fun _ => exists_bind_eq_ok hnames fun _ =>
      exists_bind_eq_ok (hseverities _) fun _ => ⟨_, rfl⟩

/-- **What loading a configuration comes to.**  Whatever is in the configuration files,
in the environment and in the overrides, loading ends with a fault of the program's own,
with one of the other faults listed in `LoadFault`, or with a configuration.  The
enabled checks and the classifier of that configuration are always there.  The
severities, the policy and a whole analysis are all there just when the values that
loading does not look at fit as well. -/
theorem discover_cases (w : Workplace) (file : Option String) (overrides : Table) :
    match discover w file overrides with
    | .error f => LoadFault f
    | .ok c =>
      (∃ checks, c.checks = .ok checks) ∧ (∃ classifier, c.classifier = .ok classifier) ∧
        (c.Usable ↔ c.Complete) := by
  cases h : discover w file overrides with
  | error f => exact loadFault_of_discover h
  | ok c =>
      have hpassed := passed_of_discover h
      exact ⟨hpassed.exists_checks, hpassed.exists_classifier, hpassed.usable_iff⟩

/-- A number in the place of the table of severities ends loading with a fault that is
not the program's own, and a number in the place of the exempt layers is accepted and
leaves no policy. -/
theorem discover_of_numbers :
    let w (text : String) : Workplace := {
      files := fun path =>
        if path = "/work/layerguard.toml" then .file (text.toList.map fun c => UInt8.ofNat c.toNat)
        else .missing
      home := "/home/user"
      work := "/work"
      environment := fun _ => none }
    (∃ f, discover (w "severities = 5") none [] = .error f ∧ f.family? = none) ∧
    ∃ c f, discover (w "exempt_layers = 5") none [] = .ok c ∧ c.policy = .error f := by
  intro w
  have hseverities : (match discover (w "severities = 5") none [] with
      | .error f => f.family?.isNone
      | .ok _ => false) = true := by
    decide +kernel
  have hexempt : (match discover (w "exempt_layers = 5") none [] with
      | .error _ => false
      | .ok c => !c.policy.isOk) = true := by
    decide +kernel
  constructor
  · split at hseverities
    · next f hf => exact ⟨f, hf, Option.isNone_iff_eq_none.1 hseverities⟩
    · cases hseverities
  · split at hexempt
    · cases hexempt
    · next c hc =>
      cases hp : c.policy with
      | error f => exact ⟨c, f, hc, hp⟩
      | ok p =>
          rw [hp] at hexempt
          cases hexempt

end Config

end LayerLint
