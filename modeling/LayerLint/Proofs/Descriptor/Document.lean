import LayerLint.Descriptor.Document
import LayerLint.Proofs.Fallible
import LayerLint.Proofs.Graph.Project

/-!
# The format of descriptor documents

The format says which values are an import, a module and a document, and nothing
about how they are read: a list in a document holds the parts that are in the
format, and between them may stand whatever else, which counts for nothing.

Reading keeps to the format.  It fails on exactly those documents that list no
modules.  Of all others it yields the modules in the format, in order, with the
imports in the format.  An import may come without a place; it is the survey that
leaves it out, and of the imports that are read it leaves out no other.

## Main results

* `fst_importOf`, `fst_moduleOf`: what is read of an import and of a module.
* `skips_survey`, `links_survey`: what the survey makes of the imports of a module.
* `load_of_format`: reading and the survey agree with the format.
-/

namespace LayerLint.Document

/-! ## The format -/

/-- The modules that a document lists, bare or under their key. -/
inductive Lists : Value → List Value → Prop
  | bare (raws : List Value) : Lists (.list raws) raws
  | keyed {entries : Table} {raws : List Value} (h : entries.lookup "modules" = some (.list raws)) :
    Lists (.dict entries) raws

/-- The parts that the values in a format stand for, in order; other values stand for
none. -/
inductive Gathers {α : Type} (Format : Value → α → Prop) : List Value → List α → Prop
  | nil : Gathers Format [] []
  | take {raw : Value} {part : α} {raws : List Value} {parts : List α} (h : Format raw part)
    (more : Gathers Format raws parts) : Gathers Format (raw :: raws) (part :: parts)
  | skip {raw : Value} {raws : List Value} {parts : List α} (h : ∀ part, ¬Format raw part)
    (more : Gathers Format raws parts) : Gathers Format (raw :: raws) parts

/-- The value has a text that is not blank under the key. -/
def HasText (raw : Value) (key text : String) : Prop :=
  raw.get? key = some (.str text) ∧ Text.isBlankText text = false

/-- The end of a place is known when it is a whole number from one on. -/
def HasEnd (raw : Value) (key : String) (known : Option Int) : Prop :=
  ∀ i, known = some i ↔ raw.get? key = some (.int i) ∧ 1 ≤ i

/-- An import of the module `path`: without a line it has no place, and else line and
column have to be whole numbers from one on, where the column is the first one unless it
is told. -/
inductive ImportFormat (path : String) (raw : Value) : ImportItem → Prop
  | unplaced {target : String} (htarget : HasText raw "target" target)
    (hline : raw.get? "line" = none ∨ raw.get? "line" = some .null) :
    ImportFormat path raw (.record (.str target) (.other .null))
  | placed {target : String} {location : Location} (htarget : HasText raw "target" target)
    (hfile : location.file = path)
    (hline : raw.get? "line" = some (.int location.line) ∧ 1 ≤ location.line)
    (hcolumn : (raw.get? "column").getD (.int 1) = .int location.column ∧ 1 ≤ location.column)
    (hendLine : HasEnd raw "end_line" location.endLine)
    (hendColumn : HasEnd raw "end_column" location.endColumn) :
    ImportFormat path raw (.record (.str target) (.at location))

/-- A layer is kept when it is a text. -/
def HasLayer (raw layer : Value) : Prop :=
  (∀ s, layer = .str s ↔ raw.get? "layer" = some (.str s)) ∧ (layer.isStr = true ∨ layer = .null)

/-- A module: its path, its imports if they are a list or not there, and its layer. -/
inductive ModuleFormat (raw : Value) : Descriptor → Prop
  | intro {path : String} {raws : List Value} {items : List ImportItem} {layer : Value}
    (hpath : HasText raw "path" path)
    (himports : raw.get? "imports" = none ∧ raws = [] ∨ raw.get? "imports" = some (.list raws))
    (hitems : Gathers (ImportFormat path) raws items) (hlayer : HasLayer raw layer) :
    ModuleFormat raw ⟨.str path, .items items, layer⟩

/-! ## What is read -/

section Gathered

variable {α : Type} {Format : Value → α → Prop} {f : Nat → Value → Noted α}

/-- A list is read part by part, whatever the number of a part. -/
theorem gathers_iff (hread : ∀ n raw part, (f n raw).1 = some part ↔ Format raw part)
    {raws : List Value} {parts : List α} :
    Gathers Format raws parts ↔ (gather (raws.mapIdx f)).1 = parts := by
  rw [gather]
  dsimp only
  induction raws generalizing f parts with
  | nil =>
      constructor
      · intro h
        cases h
        rfl
      · rintro rfl
        exact .nil
  | cons raw raws ih =>
      have hmore : ∀ {parts}, Gathers Format raws parts ↔ _ := fun {_} =>
        ih (f := fun i => f (i + 1)) fun n => hread (n + 1)
      rw [List.mapIdx_cons]
      cases hpart : (f 0 raw).1 with
      | none =>
          have hnone : ∀ part, ¬Format raw part := fun part hformat => by
            rw [(hread 0 raw part).2 hformat] at hpart
            cases hpart
          rw [List.filterMap_cons_none hpart, ← hmore]
          constructor
          · intro h
            cases h with
            | take hformat => exact absurd hformat (hnone _)
            | skip _ more => exact more
          · exact .skip hnone
      | some part =>
          have hformat := (hread 0 raw part).1 hpart
          rw [List.filterMap_cons_some hpart]
          constructor
          · intro h
            cases h with
            | take hother more =>
                rw [(hread 0 raw _).2 hother] at hpart
                rw [hmore.1 more, Option.some.inj hpart]
            | skip hnone => exact absurd hformat (hnone part)
          · rintro rfl
            exact .take hformat (hmore.2 rfl)

end Gathered

section Fields

variable {raw v : Value} {key : String} {i : Int}

theorem field_eq_iff (hv : v ≠ .null) : raw.field key = v ↔ raw.get? key = some v := by
  rw [Value.field]
  cases raw.get? key with
  | none => simpa using hv.symm
  | some w => simp

theorem isNull_field_iff :
    (raw.field key).isNull = true ↔ raw.get? key = none ∨ raw.get? key = some .null := by
  rw [Value.field]
  cases raw.get? key with
  | none => simp [Value.isNull]
  | some w => cases w <;> simp [Value.isNull]

theorem isSome_dict?_of_get? (h : raw.get? key = some v) : raw.dict?.isNone = false := by
  cases raw with
  | dict entries => rfl
  | _ => cases h

theorem position?_eq_some_iff : position? v = some i ↔ v = .int i ∧ 1 ≤ i := by
  unfold position?
  split
  · next j =>
    split
    · next hj =>
      constructor
      · rintro ⟨⟩
        exact ⟨rfl, hj⟩
      · rintro ⟨⟨⟩, -⟩
        rfl
    · next hj =>
      constructor
      · rintro ⟨⟩
      · rintro ⟨⟨⟩, hi⟩
        exact absurd hi hj
  · next hint =>
    constructor
    · rintro ⟨⟩
    · rintro ⟨rfl, -⟩
      exact absurd rfl (hint i)

theorem hasEnd_iff {known : Option Int} :
    HasEnd raw key known ↔ known = position? (raw.field key) := by
  have hread : ∀ i, position? (raw.field key) = some i ↔ raw.get? key = some (.int i) ∧ 1 ≤ i := by
    intro i
    rw [position?_eq_some_iff, field_eq_iff (by simp)]
  constructor
  · exact fun h => Option.ext fun i => (h i).trans (hread i).symm
  · rintro rfl
    exact hread

end Fields

theorem placeOf_eq_some_iff {path : String} {raw line column : Value} {location : Location} :
    placeOf path raw line column = some location ↔ location.file = path ∧
      (line = .int location.line ∧ 1 ≤ location.line) ∧
      (column = .int location.column ∧ 1 ≤ location.column) ∧
      HasEnd raw "end_line" location.endLine ∧ HasEnd raw "end_column" location.endColumn := by
  rw [hasEnd_iff, hasEnd_iff, ← position?_eq_some_iff, ← position?_eq_some_iff, placeOf]
  constructor
  · intro h
    obtain ⟨l, hl, h⟩ := Option.bind_eq_some_iff.1 h
    obtain ⟨c, hc, h⟩ := Option.bind_eq_some_iff.1 h
    cases h
    exact ⟨rfl, hl, hc, rfl, rfl⟩
  · rintro ⟨rfl, hl, hc, hendLine, hendColumn⟩
    rw [hl, hc, ← hendLine, ← hendColumn]
    rfl

/-- What is read of an import is what the format says. -/
theorem fst_importOf {path : String} {n : Nat} {raw : Value} {item : ImportItem} :
    (importOf path n raw).1 = some item ↔ ImportFormat path raw item := by
  rw [importOf]
  dsimp only
  constructor
  · intro h
    split at h
    · cases h
    split at h
    · next target htarget =>
      have htext := (field_eq_iff (by simp)).1 htarget
      split at h
      · cases h
      next hblank =>
      split at h
      · next hline =>
        cases h
        exact .unplaced ⟨htext, eq_false_of_ne_true hblank⟩ (isNull_field_iff.1 hline)
      split at h
      · next location hplace =>
        cases h
        obtain ⟨hfile, ⟨hline, hfirst⟩, hcolumn, hends⟩ := placeOf_eq_some_iff.1 hplace
        exact .placed ⟨htext, eq_false_of_ne_true hblank⟩ hfile
          ⟨(field_eq_iff (by simp)).1 hline, hfirst⟩ hcolumn hends.1 hends.2
      · cases h
    · cases h
  · intro h
    cases h with
    | unplaced htarget hline =>
        rw [isSome_dict?_of_get? htarget.1, (field_eq_iff (by simp)).2 htarget.1]
        dsimp only
        rw [htarget.2, isNull_field_iff.2 hline]
        rfl
    | @placed target location htarget hfile hline hcolumn hendLine hendColumn =>
        have hfield : raw.field "line" = .int location.line := (field_eq_iff (by simp)).2 hline.1
        have hplace : placeOf path raw (raw.field "line") ((raw.get? "column").getD (.int 1)) =
            some location :=
          placeOf_eq_some_iff.2 ⟨hfile, ⟨hfield, hline.2⟩, hcolumn, hendLine, hendColumn⟩
        rw [isSome_dict?_of_get? htarget.1, (field_eq_iff (by simp)).2 htarget.1]
        dsimp only
        rw [htarget.2, hplace, hfield]
        rfl

theorem HasLayer.unique {raw layer other : Value} (h : HasLayer raw layer)
    (hother : HasLayer raw other) : layer = other := by
  have htext : ∀ s, layer = .str s ↔ other = .str s := fun s => (h.1 s).trans (hother.1 s).symm
  cases layer with
  | str s => exact ((htext s).1 rfl).symm
  | null =>
      rcases hother.2 with hstr | hnull
      · cases other with
        | str s => exact (htext s).2 rfl
        | _ => cases hstr
      · exact hnull.symm
  | _ => rcases h.2 with hstr | hnull <;> contradiction

/-- The layer that is read is the one that is kept. -/
theorem hasLayer_layerOf (path : String) (raw : Value) : HasLayer raw (layerOf path raw).1 := by
  have htext : ∀ s, raw.get? "layer" = some (.str s) ↔ raw.field "layer" = .str s := fun s =>
    (field_eq_iff (by simp)).symm
  unfold HasLayer
  simp only [htext]
  rw [layerOf]
  split
  · next hnull => simp [hnull]
  · next s hs => simp [hs, Value.isStr]
  · next hnull hstr => simpa using fun s hs => hstr s hs

/-- What is read of a module is what the format says. -/
theorem fst_moduleOf {n : Nat} {raw : Value} {d : Descriptor} :
    (moduleOf n raw).1 = some d ↔ ModuleFormat raw d := by
  have himports : ∀ {path : String} {raws : List Value} {items : List ImportItem},
      Gathers (ImportFormat path) raws items ↔ (importsOf path raws).1 = items := by
    intro path raws items
    exact gathers_iff (f := fun i raw => importOf path (i + 1) raw) fun _ _ _ => fst_importOf
  rw [moduleOf]
  dsimp only
  constructor
  · intro h
    split at h
    · cases h
    split at h
    · next path hpath =>
      split at h
      · cases h
      next hblank =>
      split at h
      · next raws hraws =>
        cases h
        refine .intro ⟨(field_eq_iff (by simp)).1 hpath, eq_false_of_ne_true hblank⟩ ?_
          (himports.2 rfl) (hasLayer_layerOf path raw)
        cases hget : raw.get? "imports" with
        | none =>
            rw [hget] at hraws
            cases hraws
            exact Or.inl ⟨rfl, rfl⟩
        | some v =>
            rw [hget] at hraws
            exact Or.inr (congrArg some hraws)
      · cases h
    · cases h
  · rintro @⟨path, raws, items, layer, hpath, hraws, hitems, hlayer⟩
    have hlisted : (raw.get? "imports").getD (.list []) = .list raws := by
      rcases hraws with ⟨hnone, rfl⟩ | hsome
      · rw [hnone, Option.getD_none]
      · rw [hsome, Option.getD_some]
    rw [isSome_dict?_of_get? hpath.1, (field_eq_iff (by simp)).2 hpath.1]
    dsimp only
    rw [hpath.2, hlisted, hlayer.unique (hasLayer_layerOf path raw), ← himports.1 hitems]
    rfl

/-! ## What the survey makes of it -/

/-- The target of an import without a place. -/
def unplaced? : ImportItem → Option String
  | .record (.str target) (.other .null) => some target
  | _ => none

/-- The target and the place of an import that has both. -/
def placed? : ImportItem → Option (String × Location)
  | .record (.str target) (.at location) => some (target, location)
  | _ => none

theorem Gathers.exists_of_mem {α : Type} {Format : Value → α → Prop} {raws : List Value}
    {parts : List α} (h : Gathers Format raws parts) {part : α} (hpart : part ∈ parts) :
    ∃ raw ∈ raws, Format raw part := by
  induction h with
  | nil => exact absurd hpart List.not_mem_nil
  | @take raw first raws parts hformat _ ih =>
      rcases List.mem_cons.1 hpart with rfl | hpart
      · exact ⟨raw, List.mem_cons_self, hformat⟩
      · obtain ⟨other, hother, hformat⟩ := ih hpart
        exact ⟨other, List.mem_cons_of_mem raw hother, hformat⟩
  | skip _ _ ih =>
      obtain ⟨other, hother, hformat⟩ := ih hpart
      exact ⟨other, List.mem_cons_of_mem _ hother, hformat⟩

/-- An import in the format can become an edge, or it has no place. -/
theorem ImportFormat.check_cases {path : String} {raw : Value} {item : ImportItem}
    (h : ImportFormat path raw item) :
    (∃ target, item.check = .error (.noLocation target) ∧ unplaced? item = some target ∧
      placed? item = none) ∨
    ∃ record, item.check = .ok record ∧ unplaced? item = none ∧ placed? item = some record := by
  cases h with
  | @unplaced target htarget _ =>
      refine Or.inl ⟨target, ?_, rfl, rfl⟩
      rw [ImportItem.check, htarget.2]
      rfl
  | @placed target location htarget =>
      refine Or.inr ⟨(target, location), ?_, rfl, rfl⟩
      rw [ImportItem.check, htarget.2]
      rfl

section Surveyed

variable {path : String} {raws : List Value} {items : List ImportItem}

/-- The survey leaves out the imports without a place, each for this reason, and no
others. -/
theorem skips_survey (hitems : Gathers (ImportFormat path) raws items) (b : Builder)
    (r : Import.Resolver) (id : ModuleId) (layer : Value) :
    (b.survey r id ⟨.str path, .items items, layer⟩).skips =
      items.zipIdx.filterMap fun place =>
        (unplaced? place.1).map fun target => .badImport id (place.2 + 1) (.noLocation target) := by
  rw [Builder.survey_eq]
  refine List.filterMap_congr fun place hplace => ?_
  obtain ⟨raw, -, hformat⟩ := hitems.exists_of_mem (List.fst_mem_of_mem_zipIdx hplace)
  rcases hformat.check_cases with ⟨target, hcheck, htarget, -⟩ | ⟨record, hcheck, htarget, -⟩
  · rw [hcheck, htarget]
    rfl
  · rw [hcheck, htarget]
    rfl

/-- The survey makes a link of every import with a place. -/
theorem links_survey (hitems : Gathers (ImportFormat path) raws items) (b : Builder)
    (r : Import.Resolver) (id : ModuleId) (layer : Value) :
    (b.survey r id ⟨.str path, .items items, layer⟩).links.map
      (fun link => (link.edge.written, link.edge.location)) = items.filterMap placed? := by
  have hrecords :
      Descriptor.records ⟨.str path, .items items, layer⟩ = items.filterMap placed? := by
    refine List.filterMap_congr fun item hitem => ?_
    obtain ⟨raw, -, hformat⟩ := hitems.exists_of_mem hitem
    rcases hformat.check_cases with ⟨target, hcheck, -, hplaced⟩ | ⟨record, hcheck, -, hplaced⟩
    · rw [hcheck, hplaced]
      rfl
    · rw [hcheck, hplaced]
      rfl
  rw [Builder.survey_eq, hrecords]
  dsimp only
  rw [List.map_map]
  refine (List.map_congr_left fun record _ => ?_).trans (List.map_id' _)
  rw [Function.comp_apply, Builder.linkOf_eq]

end Surveyed

/-- A document is refused when it lists no modules, and only then. -/
theorem modulesOf_cases (label : String) (document : Value) :
    (∃ raws, modulesOf label document = .ok raws ∧ Lists document raws) ∨
    ∃ reason, modulesOf label document = .error (.descriptors label reason none) ∧
      ∀ raws, ¬Lists document raws := by
  unfold modulesOf
  cases document with
  | list raws => exact Or.inl ⟨raws, rfl, .bare raws⟩
  | dict entries =>
      dsimp only [Value.get?]
      cases hlisted : entries.lookup "modules" with
      | none =>
          refine Or.inr ⟨_, rfl, fun raws h => ?_⟩
          cases h with
          | keyed h =>
              rw [hlisted] at h
              cases h
      | some v =>
          cases v with
          | list raws => exact Or.inl ⟨raws, rfl, .keyed hlisted⟩
          | _ =>
              refine Or.inr ⟨_, rfl, fun raws h => ?_⟩
              cases h with
              | keyed h =>
                  rw [hlisted] at h
                  cases h
  | _ =>
      refine Or.inr ⟨_, rfl, fun raws h => ?_⟩
      cases h

/-- **Reading a document keeps to the format.**  A document that lists no modules is
refused as no descriptor document, and no other one is.  Of the modules that a document
lists, those in the format are read, in order, each with its path as it stands, its
layer if that is a text, and those of its imports that are in the format.  The survey of
such a module leaves out, with the reason that the place is missing, exactly its imports
without a place, and makes a link of every other one. -/
theorem load_of_format (label : String) (document : Value) :
    match load label document with
    | .error f => (∃ reason, f = .descriptors label reason none) ∧ ∀ raws, ¬Lists document raws
    | .ok loaded =>
      ∃ raws, Lists document raws ∧ Gathers ModuleFormat raws loaded.descriptors ∧
        ∀ d ∈ loaded.descriptors, ∃ items, d.imports = .items items ∧
          ∀ (b : Builder) (r : Import.Resolver) (id : ModuleId),
            (b.survey r id d).skips = (items.zipIdx.filterMap fun place =>
              (unplaced? place.1).map fun target =>
                .badImport id (place.2 + 1) (.noLocation target)) ∧
            (b.survey r id d).links.map (fun link => (link.edge.written, link.edge.location)) =
              items.filterMap placed? := by
  rcases modulesOf_cases label document with ⟨raws, hread, hlists⟩ | ⟨reason, hread, hnone⟩
  · rw [load, hread]
    have hmodules : Gathers ModuleFormat raws
        (gather (raws.mapIdx fun i raw => moduleOf (i + 1) raw)).1 :=
      (gathers_iff (f := fun i raw => moduleOf (i + 1) raw) fun _ _ _ => fst_moduleOf).2 rfl
    refine ⟨raws, hlists, hmodules, fun d hd => ?_⟩
    obtain ⟨raw, -, hformat⟩ := hmodules.exists_of_mem hd
    obtain @⟨path, raws, items, layer, -, -, hitems, -⟩ := hformat
    exact ⟨items, rfl, fun b r id => ⟨skips_survey hitems b r id layer,
      links_survey hitems b r id layer⟩⟩
  · rw [load, hread]
    exact ⟨⟨reason, rfl⟩, hnone⟩

end LayerLint.Document
