import LayerLint.Proofs.Config.Usability
import LayerLint.Proofs.Toml.Keys

/-!
# Which source decides a field

Loading reads the sources one after the other, gives the fields their proper names
in each of them and lays what it has found over what the sources before have left.
What comes out can be told for each field on its own, without any table: ask every
source what it says about the field, and take the last answer.

What a source says is written down first.  Then each source is shown to be a table
that has each key once and that says just this about every field.

## Main results

* `Table.lookup_foldl_update`: a key in tables that were laid over each other.
* `defines_of_global`, `defines_of_project`, `defines_of_explicit`,
  `defines_of_ofEnvironment`, `defines_ofOverrides`: the source of each kind.
* `get_of_discover`: the value of every field in a loaded configuration.
-/

namespace LayerLint

/-- The last of some answers, of which each may be missing. -/
def lastOf {α : Type} (said : List (Option α)) : Option α := (said.filterMap id).getLast?

theorem lastOf_cons {α : Type} (first : Option α) (more : List (Option α)) :
    lastOf (first :: more) = (lastOf more).or first := by
  cases first with
  | none => exact (Option.or_none).symm
  | some a =>
      show (a :: more.filterMap id).getLast? = (lastOf more).or (some a)
      rw [List.getLast?_cons, lastOf]
      cases (more.filterMap id).getLast? <;> rfl

/-! ## Tables laid over each other -/

namespace Table

variable {t : Table}

theorem lookup_cons (k k' : String) (v : Value) (t : Table) :
    List.lookup k ((k', v) :: t) = if k = k' then some v else t.lookup k := by
  rw [List.lookup_cons]
  by_cases h : k = k'
  · rw [beq_iff_eq.2 h, if_pos h]
  · rw [beq_eq_false_iff_ne.2 h, if_neg h]

theorem lookup_eq_none_of_cons {k : String} {v : Value} (h : (((k, v) :: t).map Prod.fst).Nodup) :
    t.lookup k = none := by
  refine List.lookup_eq_none_iff.2 fun entry hentry => bne_iff_ne.2 fun heq => ?_
  exact (List.nodup_cons.1 h).1 (List.mem_map.2 ⟨entry, hentry, heq.symm⟩)

theorem lookup_erase (key k : String) (t : Table) :
    (erase key t).lookup k = if k = key then none else t.lookup k := by
  induction t with
  | nil => exact (ite_self none).symm
  | cons entry more ih =>
      obtain ⟨k', v⟩ := entry
      rw [erase] at ih ⊢
      rw [lookup_cons]
      by_cases hkey : k' = key
      · subst hkey
        rw [List.filter_cons_of_neg (by simp), ih]
        by_cases hk : k = k'
        · rw [if_pos hk, if_pos hk]
        · rw [if_neg hk, if_neg hk, if_neg hk]
      · rw [List.filter_cons_of_pos (by simpa using hkey), lookup_cons, ih]
        by_cases hk : k = k'
        · rw [if_pos hk, if_neg (hk ▸ hkey), if_pos hk]
        · rw [if_neg hk, if_neg hk]

theorem nodup_keys_filter {p : String × Value → Bool} (h : (t.map Prod.fst).Nodup) :
    ((t.filter p).map Prod.fst).Nodup :=
  (List.filter_sublist.map Prod.fst).nodup h

theorem lookup_filter (p : Value → Bool) (h : (t.map Prod.fst).Nodup) (k : String) :
    (t.filter fun entry => p entry.2).lookup k = (t.lookup k).filter p := by
  induction t with
  | nil => rfl
  | cons entry more ih =>
      obtain ⟨k', v⟩ := entry
      have ih := ih (List.nodup_cons.1 h).2
      rw [List.filter_cons, lookup_cons]
      cases hv : p v with
      | true =>
          rw [if_pos rfl, lookup_cons, ih]
          by_cases hk : k = k'
          · rw [if_pos hk, if_pos hk, Option.filter_some_pos hv]
          · rw [if_neg hk, if_neg hk]
      | false =>
          rw [if_neg Bool.false_ne_true, ih]
          by_cases hk : k = k'
          · subst hk
            rw [if_pos rfl, Option.filter_some_neg (Bool.not_eq_true _ ▸ hv),
              lookup_eq_none_of_cons h]
            rfl
          · rw [if_neg hk]

/-- The upper one of two tables counts where it has the key. -/
theorem lookup_update {base upper : Table} (h : (upper.map Prod.fst).Nodup) (k : String) :
    (update base upper).lookup k = (upper.lookup k).or (base.lookup k) := by
  induction upper generalizing base with
  | nil => rfl
  | cons entry more ih =>
      obtain ⟨k', v'⟩ := entry
      have hupdate : update base ((k', v') :: more) = update (set k' v' base) more := rfl
      rw [hupdate, ih (List.nodup_cons.1 h).2, lookup_set, lookup_cons]
      by_cases hk : k = k'
      · subst hk
        rw [if_pos rfl, if_pos rfl, lookup_eq_none_of_cons h]
        rfl
      · rw [if_neg hk, if_neg hk]

/-- Of tables laid over each other the last one that has the key counts. -/
theorem lookup_foldl_update {tables : List Table} (h : ∀ t ∈ tables, (t.map Prod.fst).Nodup)
    (base : Table) (k : String) :
    (tables.foldl update base).lookup k =
      (lastOf (tables.map (·.lookup k))).or (base.lookup k) := by
  induction tables generalizing base with
  | nil => rfl
  | cons t more ih =>
      obtain ⟨ht, hmore⟩ := List.forall_mem_cons.1 h
      rw [List.foldl_cons, ih hmore, lookup_update ht, List.map_cons, lastOf_cons, Option.or_assoc]

end Table

namespace Config

/-! ## What each source says about a field -/

/-- What the table of a file says about a field.  The segments of the layers have two
names there, and `layers` comes first. -/
def inTable (t : Table) (f : Field) : Option Value :=
  if f = .layerSegments then (t.lookup "layers").or (t.lookup f.name) else t.lookup f.name

/-- The table in a file, if there is such a file and it can be read. -/
def tableAt (files : Files) (path : String) : Option Table :=
  match (files path).text path with
  | .ok cs => Toml.parse cs
  | .error _ => none

def inFile (files : Files) (path : String) (f : Field) : Option Value :=
  (tableAt files path).bind (inTable · f)

/-- The table under a key. -/
def tableIn (key : String) (t : Table) : Option Table := (t.lookup key).bind Value.dict?

/-- The table under `tool.layerguard`. -/
def sectionOf (t : Table) : Option Table := (tableIn "tool" t).bind (tableIn "layerguard")

/-- The file of the program's own speaks for the project, and if there is none, the
section of the project's file does. -/
def inProject (w : Workplace) (f : Field) : Option Value :=
  if (w.files (ownPath w.work)).exists then inFile w.files (ownPath w.work) f
  else ((tableAt w.files (sharedPath w.work)).bind sectionOf).bind (inTable · f)

/-- A field that is a table has no variable; the others are read by their shape. -/
def inVariable (environment : String → Option String) (f : Field) : Option Value :=
  let text? := environment (variableName f)
  match f.shape with
  | .table => none
  | .list => text?.map listOf
  | .flag => text?.bind fun text => (flagOf text).toOption
  | .count => text?.bind fun text => (countOf text).toOption
  | .word => text?.map .str

/-- A level of logging that is asked for by `quiet` or else by `verbose` comes before
one that is given; null says nothing. -/
def inOverrides (overrides : Table) (f : Field) : Option Value :=
  let asked (flag : String) : Bool := (overrides.lookup flag).any Value.isTruthy
  if f = .verbosity ∧ asked "quiet" then some (.str "quiet")
  else if f = .verbosity ∧ asked "verbose" then some (.str "verbose")
  else (overrides.lookup f.name).filter fun v => !v.isNull

/-! ## The tables of the sources -/

/-- The table has each key once and says this about the fields. -/
structure Defines (t : Table) (said : Field → Option Value) : Prop where
  keys : (t.map Prod.fst).Nodup
  lookup : ∀ f : Field, t.lookup f.name = said f

theorem Defines.nil : Defines [] fun _ => none := ⟨List.nodup_nil, fun _ => rfl⟩

theorem Defines.congr {t : Table} {said said' : Field → Option Value} (h : Defines t said)
    (heq : ∀ f, said f = said' f) : Defines t said' :=
  ⟨h.keys, fun f => (h.lookup f).trans (heq f)⟩

theorem Field.name_inj {f g : Field} : f.name = g.name ↔ f = g := by
  have hread : ∀ f : Field, Field.ofName? f.name = some f := by
    intro f
    cases f <;> decide
  constructor
  · intro h
    exact Option.some.inj ((hread f).symm.trans (h ▸ hread g))
  · exact congrArg Field.name

theorem defines_ofFileTable {t : Table} (h : t.WellKeyed) :
    Defines (ofFileTable t) (inTable t) := by
  have hlayers : ∀ f : Field, f.name ≠ "layers" := by
    intro f
    cases f <;> decide
  unfold ofFileTable
  split
  · next v hv =>
    refine ⟨Table.nodup_keys_set (Table.nodup_keys_filter h.keys), fun f => ?_⟩
    rw [Table.lookup_set, Table.lookup_erase, if_neg (hlayers f), inTable, hv]
    simp only [Field.name_inj, Option.some_or]
  · next hnone =>
    refine ⟨h.keys, fun f => ?_⟩
    rw [inTable, hnone, Option.none_or, ite_self]

/-- A table that is missing counts as an empty one. -/
theorem eq_of_getD_eq_dict {t s : Table} {key : String}
    (h : (t.lookup key).getD (.dict []) = .dict s) : s = (tableIn key t).getD [] := by
  rw [tableIn]
  cases hv : t.lookup key with
  | none =>
      rw [hv] at h
      cases h
      rfl
  | some v =>
      rw [hv] at h
      cases h
      rfl

theorem eq_of_toolSection {t fields : Table} (h : toolSection t = .ok fields) :
    fields = (sectionOf t).getD [] := by
  unfold toolSection at h
  dsimp only at h
  split at h
  · next tools htools =>
    split at h
    · next own hown =>
      cases h
      rw [eq_of_getD_eq_dict hown, eq_of_getD_eq_dict htools, sectionOf]
      cases tableIn "tool" t <;> rfl
    · cases h
  · cases h

theorem wellKeyed_tableIn {t s : Table} {key : String} (ht : t.WellKeyed)
    (h : tableIn key t = some s) : s.WellKeyed := by
  obtain ⟨v, hv, hs⟩ := Option.bind_eq_some_iff.1 h
  cases v with
  | dict entries =>
      cases hs
      exact Value.wellKeyed_dict.1 (ht.of_lookup hv)
  | _ => cases hs

theorem wellKeyed_sectionOf {t fields : Table} (ht : t.WellKeyed) (h : sectionOf t = some fields) :
    fields.WellKeyed := by
  obtain ⟨tool, htool, hfields⟩ := Option.bind_eq_some_iff.1 h
  exact wellKeyed_tableIn (wellKeyed_tableIn ht htool) hfields

/-! ### Files -/

variable {files : Files} {path : String} {t : Table}

theorem tableAt_of_ofFile (h : ofFile files path = .ok t) : tableAt files path = some t := by
  unfold ofFile at h
  dsimp only at h
  unfold tableAt
  split at h
  · cases h
  · next cs hcs =>
    rw [hcs]
    split at h
    · next t ht =>
      cases h
      exact ht
    · cases h

theorem tableAt_eq_none (h : (files path).exists = false) : tableAt files path = none := by
  unfold tableAt
  cases hstate : files path with
  | file bytes =>
      rw [hstate] at h
      cases h
  | _ => rfl

theorem wellKeyed_of_tableAt (h : tableAt files path = some t) : t.WellKeyed := by
  unfold tableAt at h
  split at h
  · exact Toml.wellKeyed_of_parse h
  · cases h

theorem defines_of_ofFile (h : (ofFile files path).map ofFileTable = .ok t) :
    Defines t (inFile files path) := by
  obtain ⟨read, hread, rfl⟩ := map_eq_ok_iff.1 h
  have hat := tableAt_of_ofFile hread
  refine (defines_ofFileTable (wellKeyed_of_tableAt hat)).congr fun f => ?_
  rw [inFile, hat, Option.bind_some]

theorem defines_of_missing (h : (files path).exists = false) : Defines [] (inFile files path) :=
  Defines.nil.congr fun f => by rw [inFile, tableAt_eq_none h, Option.bind_none]

theorem exists_of_isThere {there : Bool} (h : isThere files path = .ok there) :
    (files path).exists = there := by
  unfold isThere at h
  split at h
  · cases h
  · exact Except.ok.inj h

variable {w : Workplace}

theorem defines_of_global (h : global w = .ok t) :
    Defines t (inFile w.files (globalPath w.home)) := by
  unfold global at h
  split at h
  · cases h
  · obtain ⟨there, hthere, h⟩ := bind_eq_ok_iff.1 h
    have hthere := exists_of_isThere hthere
    split at h
    · exact defines_of_ofFile h
    · next hmissing =>
      cases h
      exact defines_of_missing (hthere.trans (Bool.eq_false_iff.2 hmissing))

theorem defines_of_project (h : project w = .ok t) : Defines t (inProject w) := by
  unfold project at h
  dsimp only at h
  split at h
  · next hown =>
    exact (defines_of_ofFile h).congr fun f => by rw [inProject, if_pos hown]
  · next hown =>
    split at h
    · obtain ⟨fields, hfields, rfl⟩ := map_eq_ok_iff.1 h
      obtain ⟨read, hread, hfields⟩ := bind_eq_ok_iff.1 hfields
      have hat := tableAt_of_ofFile hread
      have hsection := eq_of_toolSection hfields
      cases hof : sectionOf read with
      | none =>
          rw [hof, Option.getD_none] at hsection
          subst hsection
          refine Defines.nil.congr fun f => ?_
          rw [inProject, if_neg hown, hat, Option.bind_some, hof]
          rfl
      | some own =>
          rw [hof, Option.getD_some] at hsection
          subst hsection
          refine (defines_ofFileTable (wellKeyed_sectionOf (wellKeyed_of_tableAt hat) hof)).congr ?_
          intro f
          rw [inProject, if_neg hown, hat, Option.bind_some, hof, Option.bind_some]
    · next hshared =>
      cases h
      have hnone := tableAt_eq_none (Bool.eq_false_iff.2 hshared)
      refine Defines.nil.congr fun f => ?_
      rw [inProject, if_neg hown, hnone]
      rfl

theorem defines_of_explicit {file : Option String} (h : explicit w file = .ok t) :
    Defines t fun f => file.bind fun path => inFile w.files (Path.shown path) f := by
  unfold explicit at h
  split at h
  · cases h
    exact .nil
  · obtain ⟨there, -, h⟩ := bind_eq_ok_iff.1 h
    split at h
    · exact defines_of_ofFile h
    · cases h

/-! ### The environment -/

variable {environment : String → Option String}

theorem inVariable_of_unset {f : Field} (h : environment (variableName f) = none) :
    inVariable environment f = none := by
  rw [inVariable, h]
  cases f.shape <;> rfl

theorem toOption_eq_of_map_some {x : Except String Value} {said : Option Value}
    (h : x.map some = .ok said) : x.toOption = said := by
  cases x with
  | error reason => cases h
  | ok v => exact Except.ok.inj h

theorem inVariable_of_set {f : Field} {text : String} {said : Option Value}
    (hset : environment (variableName f) = some text) (h : ofVariable f text = .ok said) :
    inVariable environment f = said := by
  rw [inVariable, hset]
  unfold ofVariable at h
  cases hshape : f.shape with
  | flag =>
      rw [hshape] at h
      exact toOption_eq_of_map_some h
  | count =>
      rw [hshape] at h
      exact toOption_eq_of_map_some h
  | _ =>
      rw [hshape] at h
      exact Except.ok.inj h

/-- A field is found among the entries of some fields if it is one of them. -/
theorem lookup_entries (said : Field → Option Value) (fields : List Field) (f : Field) :
    (fields.filterMap fun f => (said f).map (f.name, ·)).lookup f.name =
      if f ∈ fields then said f else none := by
  induction fields with
  | nil => rfl
  | cons g more ih =>
      cases hg : said g with
      | none =>
          -- The field has no entry, and none further down is found in its place.
          rw [List.filterMap_cons_none (by rw [hg]; rfl), ih]
          by_cases heq : f = g
          · subst heq
            rw [hg, ite_self, ite_self]
          · simp [List.mem_cons, heq]
      | some v =>
          rw [List.filterMap_cons_some (by rw [hg]; rfl), Table.lookup_cons, ih]
          by_cases heq : f = g
          · subst heq
            rw [if_pos rfl, if_pos List.mem_cons_self, hg]
          · simp [List.mem_cons, heq, Field.name_inj]

theorem defines_of_ofEnvironment (h : ofEnvironment environment = .ok t) :
    Defines t (inVariable environment) := by
  obtain ⟨entries, hentries, h⟩ := bind_eq_ok_iff.1 h
  cases h
  have hsaid : entries = Field.all.map fun f => (inVariable environment f).map (f.name, ·) := by
    refine Except.ok.inj (hentries.symm.trans (mapM_eq_ok_iff.2 ?_))
    rw [List.map_map]
    refine List.map_congr_left fun f hf => ?_
    obtain ⟨entry, hentry⟩ := exists_mapM_eq_ok_iff.1 ⟨entries, hentries⟩ f hf
    rw [hentry]
    split at hentry
    · next hunset =>
      cases hentry
      rw [Function.comp, inVariable_of_unset hunset, Option.map_none]
    · next text hset =>
      split at hentry
      · next said hsaid =>
        cases hentry
        rw [Function.comp, inVariable_of_set hset hsaid]
      · cases hentry
  rw [hsaid, List.filterMap_map]
  refine ⟨?_, fun f => ?_⟩
  · have hall : Field.all.Nodup := by decide
    refine List.pairwise_map.2 (List.pairwise_filterMap.2 (hall.imp ?_))
    intro f g hne entry hf entry' hg heq
    obtain ⟨v, -, rfl⟩ := Option.map_eq_some_iff.1 hf
    obtain ⟨v', -, rfl⟩ := Option.map_eq_some_iff.1 hg
    exact hne (Field.name_inj.1 heq)
  · have hall : f ∈ Field.all := by cases f <;> decide
    exact (lookup_entries _ _ f).trans (if_pos hall)

/-! ### Overrides -/

theorem nodup_keys_levelOverride (flag level : String) (h : (t.map Prod.fst).Nodup) :
    ((levelOverride flag level t).map Prod.fst).Nodup := by
  unfold levelOverride
  split
  · exact h
  · split
    · exact Table.nodup_keys_filter (Table.nodup_keys_set h)
    · exact Table.nodup_keys_filter h

theorem lookup_levelOverride {flag level k : String} (hk : k ≠ flag) :
    (levelOverride flag level t).lookup k =
      if k = Field.verbosity.name ∧ (t.lookup flag).any Value.isTruthy then some (.str level)
      else t.lookup k := by
  unfold levelOverride
  split
  · next hnone => rw [hnone, Option.any_none, if_neg fun h => Bool.false_ne_true h.2]
  · next v hv =>
    rw [hv, Option.any_some, Table.lookup_erase, if_neg hk]
    cases v.isTruthy with
    | true => simp only [if_true, Table.lookup_set, and_true]
    | false => simp

theorem defines_ofOverrides (h : (t.map Prod.fst).Nodup) :
    Defines (ofOverrides t) (inOverrides t) := by
  have hlevels := nodup_keys_levelOverride "quiet" "quiet"
    (nodup_keys_levelOverride "verbose" "verbose" h)
  refine ⟨Table.nodup_keys_filter hlevels, fun f => ?_⟩
  have hnoflag : f.name ≠ "quiet" ∧ f.name ≠ "verbose" := by
    cases f <;> decide
  -- The first flag leaves the second one as it was given.
  have hquiet : (levelOverride "verbose" "verbose" t).lookup "quiet" = t.lookup "quiet" := by
    rw [lookup_levelOverride (by decide), if_neg fun h => absurd h.1 (by decide)]
  refine (Table.lookup_filter (fun v => !v.isNull) hlevels f.name).trans ?_
  rw [lookup_levelOverride hnoflag.1, hquiet, lookup_levelOverride hnoflag.2]
  simp only [Field.name_inj, inOverrides]
  split
  · rfl
  · split
    · rfl
    · rfl

/-! ## All sources together -/

variable {file : Option String} {overrides : Table} {c : Config}

/-- **Which source decides a field.**  Let a configuration be loaded, and let no
override be given twice.  Every field then has the value that the last of these says it
has: the file in the home directory, the file of the project, the file that was named,
the environment and the overrides.  A field about which none of them says anything has
its default. -/
theorem get_of_discover {w : Workplace} (hkeys : (overrides.map Prod.fst).Nodup)
    (h : discover w file overrides = .ok c) (f : Field) :
    c.get f =
      (lastOf [
        inFile w.files (globalPath w.home) f,
        inProject w f,
        file.bind fun path => inFile w.files (Path.shown path) f,
        inVariable w.environment f,
        inOverrides overrides f]).getD f.default := by
  obtain ⟨s, hs, h⟩ := bind_eq_ok_iff.1 h
  obtain ⟨global, hglobal, hs⟩ := bind_eq_ok_iff.1 hs
  obtain ⟨project, hproject, hs⟩ := bind_eq_ok_iff.1 hs
  obtain ⟨explicit, hexplicit, hs⟩ := bind_eq_ok_iff.1 hs
  obtain ⟨environment, henvironment, hs⟩ := bind_eq_ok_iff.1 hs
  cases hs
  have hglobal := defines_of_global hglobal
  have hproject := defines_of_project hproject
  have hexplicit := defines_of_explicit hexplicit
  have henvironment := defines_of_ofEnvironment henvironment
  have hoverrides := defines_ofOverrides hkeys
  have hall : ∀ t ∈ [global, project, explicit, environment, ofOverrides overrides],
      (t.map Prod.fst).Nodup := by
    simp only [List.forall_mem_cons]
    exact ⟨hglobal.keys, hproject.keys, hexplicit.keys, henvironment.keys, hoverrides.keys,
      fun t ht => absurd ht List.not_mem_nil⟩
  rw [(of_ofSources_eq_ok h).1]
  show ((List.foldl Table.update [] [global, project, explicit, environment,
    ofOverrides overrides]).lookup f.name).getD f.default = _
  rw [Table.lookup_foldl_update hall, List.lookup_nil, Option.or_none]
  simp only [List.map_cons, List.map_nil, hglobal.lookup, hproject.lookup, hexplicit.lookup,
    henvironment.lookup, hoverrides.lookup]

/-- Every source has its say, and some say more than counts in the end. -/
theorem get_of_discover_of_every_source :
    let bytes (lines : List String) : FileState :=
      .file (("\n".intercalate lines).toList.map fun c => UInt8.ofNat c.toNat)
    let w : Workplace := {
      files := fun path =>
        if path = "/home/user/.layerguard.toml" then
          bytes ["fail_on_cycle_only = true", "package_names = ['home']", "workers = 1"]
        else if path = "/work/layerguard.toml" then
          bytes ["package_names = ['own']", "[layer_segments]", "old = ['old']", "[layers]",
            "core = ['core']"]
        else if path = "/work/pyproject.toml" then
          bytes ["[tool.layerguard]", "package_names = ['shared']"]
        else if path = "/etc/named.toml" then bytes ["workers = 2", "verbosity = 'normal'"]
        else .missing
      home := "/home/user"
      work := "/work"
      environment := fun name =>
        if name = "LAYERGUARD_WORKERS" then some "3"
        else if name = "LAYERGUARD_LAYER_SEGMENTS" then some "none"
        else none }
    let overrides : Table :=
      [("verbosity", .str "normal"), ("verbose", .bool true), ("quiet", .bool true),
        ("workers", .null)]
    (overrides.map Prod.fst).Nodup ∧ ∃ c, discover w (some "/etc/named.toml") overrides = .ok c ∧
      c.failsOnCycleOnly = true ∧ c.packageNames = ["own"] ∧
      (c.get .layerSegments).items?.map (·.map Value.text) = some ["core"] ∧
      (c.get .workers).text = "3" ∧ (c.get .verbosity).text = "quiet" := by
  intro bytes w overrides
  have hkeys : (overrides.map Prod.fst).Nodup := by decide
  have hok : (discover w (some "/etc/named.toml") overrides).isOk = true := by decide +kernel
  obtain ⟨c, hc⟩ := exists_of_isOk hok
  have hget := get_of_discover hkeys hc
  refine ⟨hkeys, c, hc, ?_⟩
  rw [failsOnCycleOnly, packageNames, hget, hget, hget, hget, hget]
  decide +kernel

end Config

end LayerLint
