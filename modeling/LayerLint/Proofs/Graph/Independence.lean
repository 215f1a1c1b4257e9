import LayerLint.Proofs.Graph.Invariant

/-!
# Changes of single files

Take a graph that changes lead to.  There is nothing to a package but its id, and
the packages are those that some edge leads to; so the graph is decided by the
nodes of its files.  To compare two such graphs it is enough to look at their
files, and there a change touches one node: the file's own.

What a file's node becomes depends on its descriptor and on the set of files,
which stays the same when a file that is there already gets another descriptor.
Hence such changes do not get in each other's way, and of several to one file the
last one counts.  That they drop packages and bring them back in different orders
does not show.  Likewise a file that was added leaves nothing behind when it is
removed, since no file of the graph imports it.

## Main results

* `Tidy.eq_of_files`: graphs with the same files are equal.
* `Tidy.performAll`: changes lead to graphs of this kind.
* `remove_update`: removing a file that was just added undoes the addition.
* `update_independent`: changes of files that are there commute, the last one counts,
  and all other files stay as they are.
-/

namespace LayerLint

open Std (ExtTreeMap)

namespace ModuleGraph

variable {g h : ModuleGraph} {s : Surveyed} {id x source target : ModuleId}

/-! ## Packages have nothing but their ids -/

/-- Under the id of a package stands the package's node. -/
def Plain (g : ModuleGraph) : Prop :=
  ∀ (id : ModuleId) (n : Node), g.nodes[id]? = some n → Import.isExternalId id = true →
    n = packageNode id

theorem Plain.prune (h : g.Plain) : g.prune.Plain :=
  fun id n hn => h id n (getElem?_prune_eq_some_iff.1 hn).1

theorem Plain.without (h : g.Plain) (id : ModuleId) : (g.without id).Plain := by
  intro x n hn hx
  rw [getElem?_without, Option.ite_none_left_eq_some, Option.map_eq_some_iff] at hn
  obtain ⟨-, m, hm, rfl⟩ := hn
  rw [h x m hm hx, packageNode]
  dsimp only
  rw [ExtTreeMap.erase_empty]

theorem Plain.changed (h : g.Plain) (hs : Import.isExternalId s.record.id = false) :
    ((g.setFile s).addPackages s.links).Plain := by
  intro x n hn hx
  rw [getElem?_changed, Option.or_eq_some_iff] at hn
  rcases hn with hn | ⟨-, hn⟩
  · by_cases hid : s.record.id = x
    · rw [← hid, hs] at hx
      cases hx
    · rw [if_neg hid] at hn
      exact h x n hn hx
  · rw [Option.ite_none_right_eq_some, Option.some.injEq] at hn
    exact hn.2.symm

/-- The graph is well formed, and its packages have nothing but their ids. -/
structure Tidy (g : ModuleGraph) : Prop extends WellFormed g where
  plain : g.Plain

/-! ## The files decide -/

theorem Filed.edge?_of_package (h : g.Filed) (hsource : Import.isExternalId source = true) :
    g.edge? source target = none := by
  cases he : g.edge? source target with
  | none => rfl
  | some e =>
      obtain ⟨n, hn, hedge⟩ := edge?_eq_some_iff.1 he
      rw [((h.nodes source n hn).package hsource).2, ExtTreeMap.getElem?_empty] at hedge
      cases hedge

/-- A package that an edge of one graph leads to is in the other one as well. -/
private theorem Tidy.getElem?_of_edges (hg : g.Tidy) (hh : h.Tidy)
    (hedges : ∀ source target : ModuleId, g.edge? source target = h.edge? source target)
    {n : Node} (hx : Import.isExternalId x = true) (hn : g.nodes[x]? = some n) :
    h.nodes[x]? = some n := by
  obtain ⟨source, himported⟩ := hg.imported x (contains_iff_exists.2 ⟨n, hn⟩) hx
  obtain ⟨e, he⟩ := Option.isSome_iff_exists.1 (hedges source x ▸ himported)
  obtain ⟨m, hm⟩ := contains_iff_exists.1 (hh.edges source x e he).2.2.2
  rw [hg.plain x n hn hx, hm, hh.plain x m hm hx]

/-- Graphs with the same files are equal. -/
theorem Tidy.eq_of_files (hg : g.Tidy) (hh : h.Tidy)
    (hfiles : ∀ id : ModuleId, Import.isExternalId id = false → g.nodes[id]? = h.nodes[id]?) :
    g = h := by
  have hedges : ∀ source target : ModuleId, g.edge? source target = h.edge? source target := by
    intro source target
    cases hsource : Import.isExternalId source with
    | false => rw [edge?_eq, edge?_eq, hfiles source hsource]
    | true => rw [hg.edge?_of_package hsource, hh.edge?_of_package hsource]
  refine ModuleGraph.ext fun x => ?_
  cases hx : Import.isExternalId x with
  | false => exact hfiles x hx
  | true =>
      refine Option.ext fun n => ⟨fun hn => ?_, fun hn => ?_⟩
      · exact hg.getElem?_of_edges hh hedges hx hn
      · exact hh.getElem?_of_edges hg (fun s t => (hedges s t).symm) hx hn

/-! ## What a change does to the files -/

theorem Filed.getElem?_prune_file (h : g.Filed) (hx : Import.isExternalId x = false) :
    g.prune.nodes[x]? = g.nodes[x]? := by
  refine Option.ext fun n => ?_
  rw [getElem?_prune_eq_some_iff, and_iff_left_iff_imp]
  intro hn hexternal
  rw [h.isExternal hn, hx] at hexternal
  cases hexternal

/-- Of the files, only the one that was surveyed gets another node. -/
theorem Filed.getElem?_replace_file (h : g.Filed)
    (hs : s.Fits fun id => g.contains id = true ∨ id = s.record.id)
    (hx : Import.isExternalId x = false) :
    (g.replace s).nodes[x]? = if s.record.id = x then some (fileNode s) else g.nodes[x]? := by
  have hlead : ¬ LeadsTo s.links x := by
    rintro ⟨l, hl, hres, rfl⟩
    rw [hs.unresolved l hl hres] at hx
    cases hx
  rw [replace_eq, (h.changed hs).getElem?_prune_file hx, getElem?_changed, if_neg hlead,
    Option.or_none]

/-- Removing a module takes away its node and the edges that lead to it. -/
theorem Filed.getElem?_remove_file (h : g.Filed) (id : ModuleId)
    (hx : Import.isExternalId x = false) :
    (g.without id).prune.nodes[x]? =
      if id = x then none
      else (g.nodes[x]?).map fun n => { n with outgoing := n.outgoing.erase id } := by
  rw [(h.without id).getElem?_prune_file hx, getElem?_without]

end ModuleGraph

namespace Builder

variable {b : Builder} {g h : ModuleGraph} {s : Submission} {id : ModuleId} {d : Descriptor}

/-! ## Changes keep graphs tidy -/

theorem Depicts.tidy {p : Project} (hg : Depicts b p g) (hp : Internal p) : g.Tidy where
  toWellFormed := hg.wellFormed hp
  plain := by
    intro id n hn hid
    have hout : id ∉ p := fun hmem => by
      rw [hp id hmem] at hid
      cases hid
    exact ((hg.packages id n hout).1 hn).2

theorem tidy_replace_resurvey (hg : g.Tidy) (b : Builder) (d : Descriptor)
    (hid : Import.isExternalId id = false) : (g.replace (b.resurvey g id d)).Tidy where
  toWellFormed := hg.replace (fits_resurvey hg.toFiled b d hid)
  plain := by
    rw [ModuleGraph.replace_eq]
    exact (hg.plain.changed (fits_resurvey hg.toFiled b d hid).internal).prune

theorem tidy_remove (hg : g.Tidy) (id : ModuleId) : (g.without id).prune.Tidy where
  toWellFormed := (hg.without id).prune
  plain := (hg.plain.without id).prune

/-- Every single change keeps a graph tidy. -/
theorem tidy_perform (hg : g.Tidy) (b : Builder) {c : Change} (hc : c.Admissible) :
    (c.perform b g).Tidy := by
  rcases hc.perform_cases b g with heq | ⟨id, d, hid, heq⟩ | ⟨id, heq⟩
  · rwa [heq]
  · rw [heq]
    exact tidy_replace_resurvey hg b d hid
  · rw [heq]
    exact tidy_remove hg id

/-- The graphs that changes of a built graph lead to are tidy. -/
theorem tidy_of_changes (b : Builder) {ss : List Submission} {changes : List Change}
    (hss : ∀ s ∈ ss, ∀ id ∈ s.id?, Import.isExternalId id = false)
    (hchanges : ∀ c ∈ changes, c.Admissible) :
    (changes.foldl (Change.perform b) (b.build ss)).Tidy :=
  List.foldlRecOn changes (Change.perform b) ((depicts_build b ss).tidy (.ofSubmissions hss))
    fun _ hg c hc => tidy_perform hg b (hchanges c hc)

/-! ## Surveying one file against a graph -/

/-- The survey of a file depends on the set of files of the graph only. -/
theorem resurvey_congr (hg : g.Filed) (hh : h.Filed) (id : ModuleId) (d : Descriptor)
    (hid : g.contains id = true) (hid' : h.contains id = true)
    (hfiles : ∀ x : ModuleId, Import.isExternalId x = false → g.contains x = h.contains x) :
    b.resurvey g id d = b.resurvey h id d := by
  have hresolver : Import.Resolver.ofFiles (g.internalModules.map (·.id)) b.packageNames =
      .ofFiles (h.internalModules.map (·.id)) b.packageNames := by
    refine Import.Resolver.ofFiles_congr fun x => ?_
    rw [hg.mem_internalModules, hh.mem_internalModules]
    by_cases hx : Import.isExternalId x = false
    · rw [hfiles x hx]
    · simp [hx]
  rw [resurvey, resurvey, if_pos hid, if_pos hid', hresolver]

/-- The graph after a file of it was surveyed anew. -/
theorem getElem?_update_file (hg : g.Filed) (b : Builder) (d : Descriptor)
    (hid : Import.isExternalId id = false) {x : ModuleId} (hx : Import.isExternalId x = false) :
    (g.replace (b.resurvey g id d)).nodes[x]? =
      if id = x then some (ModuleGraph.fileNode (b.resurvey g id d)) else g.nodes[x]? := by
  rw [hg.getElem?_replace_file (fits_resurvey hg b d hid) hx, resurvey, survey_record_id]

/-- A file that is there stays, and no other file comes in. -/
theorem contains_update_file (hg : g.Filed) (b : Builder) (d : Descriptor)
    (hid : Import.isExternalId id = false) (hmem : g.contains id = true) {x : ModuleId}
    (hx : Import.isExternalId x = false) :
    (g.replace (b.resurvey g id d)).contains x = g.contains x := by
  simp only [ModuleGraph.contains, ExtTreeMap.contains_eq_isSome_getElem?,
    getElem?_update_file hg b d hid hx] at hmem ⊢
  by_cases heq : id = x
  · rw [if_pos heq, ← heq, hmem, Option.isSome_some]
  · rw [if_neg heq]

/-- So the second of two updates finds the same as it would find alone. -/
theorem resurvey_update (hg : g.Tidy) (b : Builder) {id' : ModuleId} (d d' : Descriptor)
    (hid : Import.isExternalId id = false) (hmem : g.contains id = true)
    (hid' : Import.isExternalId id' = false) (hmem' : g.contains id' = true) :
    b.resurvey (g.replace (b.resurvey g id d)) id' d' = b.resurvey g id' d' := by
  have hafter := tidy_replace_resurvey hg b d hid
  have hfiles : ∀ x : ModuleId, Import.isExternalId x = false →
      (g.replace (b.resurvey g id d)).contains x = g.contains x := fun _ hx =>
    contains_update_file hg.toFiled b d hid hmem hx
  exact resurvey_congr hafter.toFiled hg.toFiled id' d' ((hfiles id' hid').trans hmem') hmem' hfiles

/-! ## Adding a file and removing it -/

theorem remove_of_idOfPath? {path : Value} (hpath : idOfPath? path = some id)
    (hmem : g.contains id = true) : remove g path = .ok (g.without id).prune := by
  cases path with
  | str p =>
      rw [idOfPath?, Option.ite_none_left_eq_some, Option.some.injEq] at hpath
      rw [remove, hpath.2, if_pos hmem]
  | _ => cases hpath

/-- No file of the graph imports the one that was added, so removing it takes away no
edge of another file. -/
theorem without_update_eq_self (hg : g.Tidy) (b : Builder) (d : Descriptor)
    (hid : Import.isExternalId id = false) (hnew : g.contains id = false) :
    ((g.replace (b.resurvey g id d)).without id).prune = g := by
  have hafter := tidy_replace_resurvey hg b d hid
  refine (tidy_remove hafter id).eq_of_files hg fun x hx => ?_
  rw [hafter.toFiled.getElem?_remove_file id hx, getElem?_update_file hg.toFiled b d hid hx]
  by_cases heq : id = x
  · rw [if_pos heq, ← heq]
    rw [ModuleGraph.contains, ExtTreeMap.contains_eq_isSome_getElem?, Option.isSome_eq_false_iff,
      Option.isNone_iff_eq_none] at hnew
    exact hnew.symm
  · rw [if_neg heq, if_neg heq]
    cases hn : g.nodes[x]? with
    | none => rfl
    | some n =>
        have hedge : n.outgoing[id]? = none := by
          cases he : n.outgoing[id]? with
          | none => rfl
          | some e =>
              have himported := hg.edges x id e (ModuleGraph.edge?_eq_some_iff.2 ⟨n, hn, he⟩)
              rw [himported.2.2.2] at hnew
              cases hnew
        rw [Option.map_some, Tables.erase_eq_self hedge]

/-- **Removing a file that was just added undoes the addition.**  Build a graph, and
then change, add and remove files as often as you like.  Add a file that is not in
the graph, whatever it imports, and remove it by the path that it was added with:
neither fails, and the graph is the one before.  Provided that no file has the id of
a package. -/
theorem remove_update (b : Builder) (ss : List Submission) (changes : List Change)
    (hss : ∀ s ∈ ss, ∀ id ∈ s.id?, Import.isExternalId id = false)
    (hchanges : ∀ c ∈ changes, c.Admissible) {s : Submission} {id : ModuleId} {d : Descriptor}
    (hs : s.usable? = some (id, d)) (hid : Import.isExternalId id = false) :
    let g := changes.foldl (Change.perform b) (b.build ss)
    g.contains id = false →
    ∃ after skipped, b.update g s = .ok (after, skipped) ∧ remove after d.path = .ok g := by
  intro g hnew
  have hg : g.Tidy := tidy_of_changes b hss hchanges
  have hpath := (Submission.usable?_eq_some_iff.1 hs).2
  have hnode := getElem?_update_file hg.toFiled b d hid hid
  rw [if_pos rfl] at hnode
  have hmem := ModuleGraph.contains_iff_exists.2 ⟨_, hnode⟩
  refine ⟨_, _, update_eq_replace hg.toFiled hs hid, ?_⟩
  rw [remove_of_idOfPath? hpath hmem, without_update_eq_self hg b d hid hnew]

/-- The new file imports itself, a file, a package that is there and one that is not;
the graph has had a file taken away from it. -/
theorem remove_update_of_four_imports :
    let b : Builder := ⟨Classifier.default.classify, []⟩
    let file (path : String) (targets : List String) : Submission :=
      .descriptor ⟨.str path,
        .items (targets.map fun t => .record (.str t) (.at { file := path })), .null⟩
    let ss := [file "lib/a.dart" ["package:http/http.dart"], file "lib/b.dart" ["a.dart"]]
    let changes : List Change :=
      [.update (file "lib/c.dart" ["b.dart"]), .remove (.str "lib/b.dart")]
    let g := changes.foldl (Change.perform b) (b.build ss)
    let s := file "./lib//d.dart" ["d.dart", "a.dart", "package:http/io.dart", "dart:async"]
    g.contains "lib/d.dart" = false ∧
    ∃ after skipped, b.update g s = .ok (after, skipped) ∧
      remove after (.str "./lib//d.dart") = .ok g := by
  intro b file ss changes g s
  have hss : ∀ s ∈ ss, ∀ id ∈ s.id?, Import.isExternalId id = false := by decide +kernel
  have hchanges : ∀ c ∈ changes, c.Admissible := by decide +kernel
  have hs : s.usable? = some ("lib/d.dart", ⟨.str "./lib//d.dart",
      .items (["d.dart", "a.dart", "package:http/io.dart", "dart:async"].map fun t =>
        .record (.str t) (.at { file := "./lib//d.dart" })), .null⟩) :=
    Submission.usable?_eq_some_iff.2 ⟨rfl, by decide +kernel⟩
  have hnew : g.contains "lib/d.dart" = false := by decide +kernel
  exact ⟨hnew, remove_update b ss changes hss hchanges hs (by decide +kernel) hnew⟩

/-! ## Several updates -/

/-- Updates of different files commute. -/
theorem update_comm (hg : g.Tidy) (b : Builder) {id₁ id₂ : ModuleId} (d₁ d₂ : Descriptor)
    (h₁ : Import.isExternalId id₁ = false) (hmem₁ : g.contains id₁ = true)
    (h₂ : Import.isExternalId id₂ = false) (hmem₂ : g.contains id₂ = true) (hne : id₁ ≠ id₂) :
    let g₁ := g.replace (b.resurvey g id₁ d₁)
    let g₂ := g.replace (b.resurvey g id₂ d₂)
    g₁.replace (b.resurvey g₁ id₂ d₂) = g₂.replace (b.resurvey g₂ id₁ d₁) := by
  intro g₁ g₂
  have hg₁ : g₁.Tidy := tidy_replace_resurvey hg b d₁ h₁
  have hg₂ : g₂.Tidy := tidy_replace_resurvey hg b d₂ h₂
  refine (tidy_replace_resurvey hg₁ b d₂ h₂).eq_of_files (tidy_replace_resurvey hg₂ b d₁ h₁)
    fun x hx => ?_
  rw [getElem?_update_file hg₁.toFiled b d₂ h₂ hx, getElem?_update_file hg.toFiled b d₁ h₁ hx,
    getElem?_update_file hg₂.toFiled b d₁ h₁ hx, getElem?_update_file hg.toFiled b d₂ h₂ hx,
    resurvey_update hg b d₁ d₂ h₁ hmem₁ h₂ hmem₂, resurvey_update hg b d₂ d₁ h₂ hmem₂ h₁ hmem₁]
  by_cases hx₁ : id₁ = x
  · have hx₂ : id₂ ≠ x := fun heq => hne (hx₁.trans heq.symm)
    rw [if_neg hx₂, if_pos hx₁, if_pos hx₁]
  · rw [if_neg hx₁, if_neg hx₁]

/-- Of several updates of one file the last one counts. -/
theorem update_update (hg : g.Tidy) (b : Builder) (d₁ d₂ : Descriptor)
    (hid : Import.isExternalId id = false) (hmem : g.contains id = true) :
    let g₁ := g.replace (b.resurvey g id d₁)
    g₁.replace (b.resurvey g₁ id d₂) = g.replace (b.resurvey g id d₂) := by
  intro g₁
  have hg₁ : g₁.Tidy := tidy_replace_resurvey hg b d₁ hid
  refine (tidy_replace_resurvey hg₁ b d₂ hid).eq_of_files (tidy_replace_resurvey hg b d₂ hid)
    fun x hx => ?_
  rw [getElem?_update_file hg₁.toFiled b d₂ hid hx, getElem?_update_file hg.toFiled b d₁ hid hx,
    getElem?_update_file hg.toFiled b d₂ hid hx, resurvey_update hg b d₁ d₂ hid hmem hid hmem]
  by_cases heq : id = x
  · rw [if_pos heq, if_pos heq]
  · rw [if_neg heq, if_neg heq, if_neg heq]

/-- The edges of all other modules stay, packages included. -/
theorem neighbors_update (hg : g.Tidy) (b : Builder) (d : Descriptor)
    (hid : Import.isExternalId id = false) {x : ModuleId} (hne : x ≠ id) :
    (g.replace (b.resurvey g id d)).neighbors x = g.neighbors x := by
  have hafter := tidy_replace_resurvey hg b d hid
  refine ExtTreeMap.ext_getElem? fun target => ?_
  change (g.replace (b.resurvey g id d)).edge? x target = g.edge? x target
  cases hx : Import.isExternalId x with
  | false =>
      rw [ModuleGraph.edge?_eq, ModuleGraph.edge?_eq, getElem?_update_file hg.toFiled b d hid hx,
        if_neg hne.symm]
  | true => rw [hafter.toFiled.edge?_of_package hx, hg.toFiled.edge?_of_package hx]

/-- **Updates of files do not get in each other's way.**  Build a graph, and then
change, add and remove files as often as you like.  Update two files of the graph:
no update fails; when they are different files, the order of the updates matters
neither for the graph nor for the messages, and when they are the same file, the
last update alone counts.  An update leaves the edges of all other modules as they
are, and the records of all other files.  Provided that no file has the id of a
package. -/
theorem update_independent (b : Builder) (ss : List Submission) (changes : List Change)
    (hss : ∀ s ∈ ss, ∀ id ∈ s.id?, Import.isExternalId id = false)
    (hchanges : ∀ c ∈ changes, c.Admissible) {s₁ s₂ : Submission} {id₁ id₂ : ModuleId}
    {d₁ d₂ : Descriptor} (hs₁ : s₁.usable? = some (id₁, d₁)) (hs₂ : s₂.usable? = some (id₂, d₂)) :
    let g := changes.foldl (Change.perform b) (b.build ss)
    id₁ ∈ g.internalModules.map (·.id) → id₂ ∈ g.internalModules.map (·.id) →
    ∃ g₁ skipped₁ g₂ skipped₂,
      b.update g s₁ = .ok (g₁, skipped₁) ∧ b.update g s₂ = .ok (g₂, skipped₂) ∧
      (id₁ ≠ id₂ → ∃ both,
        b.update g₁ s₂ = .ok (both, skipped₂) ∧ b.update g₂ s₁ = .ok (both, skipped₁)) ∧
      (id₁ = id₂ → b.update g₁ s₂ = .ok (g₂, skipped₂)) ∧
      ∀ x, x ≠ id₁ → g₁.neighbors x = g.neighbors x ∧
        (Import.isExternalId x = false → g₁.module? x = g.module? x) := by
  intro g hfile₁ hfile₂
  have hg : g.Tidy := tidy_of_changes b hss hchanges
  obtain ⟨hmem₁, h₁⟩ := hg.mem_internalModules.1 hfile₁
  obtain ⟨hmem₂, h₂⟩ := hg.mem_internalModules.1 hfile₂
  have hg₁ := tidy_replace_resurvey hg b d₁ h₁
  have hg₂ := tidy_replace_resurvey hg b d₂ h₂
  have hsecond := resurvey_update hg b d₁ d₂ h₁ hmem₁ h₂ hmem₂
  have hfirst := resurvey_update hg b d₂ d₁ h₂ hmem₂ h₁ hmem₁
  refine ⟨_, _, _, _, update_eq_replace hg.toFiled hs₁ h₁, update_eq_replace hg.toFiled hs₂ h₂,
    ?_, ?_, ?_⟩
  · intro hne
    have hcomm := update_comm hg b d₁ d₂ h₁ hmem₁ h₂ hmem₂ hne
    refine ⟨(g.replace (b.resurvey g id₁ d₁)).replace (b.resurvey g id₂ d₂), ?_, ?_⟩
    · rw [update_eq_replace hg₁.toFiled hs₂ h₂, hsecond]
    · rw [update_eq_replace hg₂.toFiled hs₁ h₁, ← hcomm, hsecond, hfirst]
  · rintro rfl
    rw [update_eq_replace hg₁.toFiled hs₂ h₂, update_update hg b d₁ d₂ h₁ hmem₁, hsecond]
  · intro x hne
    refine ⟨neighbors_update hg b d₁ h₁ hne, fun hx => ?_⟩
    rw [ModuleGraph.module?, ModuleGraph.module?, getElem?_update_file hg.toFiled b d₁ h₁ hx,
      if_neg hne.symm]

/-- Both files import a package; one of the updates drops the import and the other one
brings it back, after another file was added and one was taken away. -/
theorem update_independent_of_shared_package :
    let b : Builder := ⟨Classifier.default.classify, []⟩
    let file (path : String) (targets : List String) : Submission :=
      .descriptor ⟨.str path,
        .items (targets.map fun t => .record (.str t) (.at { file := path })), .null⟩
    let ss := [file "lib/a.dart" ["package:http/http.dart"], file "lib/b.dart" ["a.dart"]]
    let changes : List Change :=
      [.update (file "lib/c.dart" ["b.dart"]), .remove (.str "lib/b.dart")]
    let g := changes.foldl (Change.perform b) (b.build ss)
    let s₁ := file "lib/a.dart" ["c.dart", "dart:io"]
    let s₂ := file "lib/c.dart" ["package:http/http.dart", "b.dart"]
    ∃ g₁ skipped₁ g₂ skipped₂,
      b.update g s₁ = .ok (g₁, skipped₁) ∧ b.update g s₂ = .ok (g₂, skipped₂) ∧
      (∃ both, b.update g₁ s₂ = .ok (both, skipped₂) ∧ b.update g₂ s₁ = .ok (both, skipped₁)) ∧
      ∀ x, x ≠ "lib/a.dart" → g₁.neighbors x = g.neighbors x ∧
        (Import.isExternalId x = false → g₁.module? x = g.module? x) := by
  intro b file ss changes g s₁ s₂
  have hss : ∀ s ∈ ss, ∀ id ∈ s.id?, Import.isExternalId id = false := by decide +kernel
  have hchanges : ∀ c ∈ changes, c.Admissible := by decide +kernel
  have hfile : ∀ (id : ModuleId) (targets : List String), idOfPath? (.str id) = some id →
      (file id targets).usable? = some (id, ⟨.str id,
        .items (targets.map fun t => .record (.str t) (.at { file := id })), .null⟩) :=
    fun _ _ hid => Submission.usable?_eq_some_iff.2 ⟨rfl, hid⟩
  obtain ⟨g₁, skipped₁, g₂, skipped₂, h₁, h₂, hcomm, -, hframe⟩ :=
    update_independent b ss changes hss hchanges
      (hfile "lib/a.dart" ["c.dart", "dart:io"] (by decide +kernel))
      (hfile "lib/c.dart" ["package:http/http.dart", "b.dart"] (by decide +kernel))
      (by decide +kernel) (by decide +kernel)
  exact ⟨g₁, skipped₁, g₂, skipped₂, h₁, h₂, hcomm (by decide), hframe⟩

end Builder

end LayerLint
