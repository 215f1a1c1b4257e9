import LayerLint.Proofs.Engine.Analysis
import LayerLint.Proofs.Graph.Update

/-!
# Changes leave no loose ends

Some things hold of every graph that changes lead to, whatever the ids are.  A
host may describe a file whose id is that of a package.  Such a file has edges of
its own, and it goes with the packages when nothing imports it.  Even so modules
and edges stand under their own ids, and every edge leads from a module to a
module; so the edges can always be checked.

Pruning takes away what no edge leads to, so it leaves no loose ends behind, even
where what it takes away has edges.

## Main results

* `Consistent.prune`, `Consistent.without`, `Consistent.changed`: each of the steps that changes
  are made of leaves no loose ends.
* `contains_replace_iff`: a file goes when it is changed if it has the id of a package and nothing
  imports it.
* `Change.perform_cases`: what a change can do.
* `consistent_of_changes`: changes to a built graph leave no loose ends.
-/

namespace LayerLint

open Std (ExtTreeMap)

namespace ModuleGraph

variable {g : ModuleGraph} {id x source target : ModuleId} {e : Edge}

/-- Modules and edges stand under their own ids, and no edge has a loose end. -/
structure Consistent (g : ModuleGraph) : Prop where
  records : ∀ (id : ModuleId) (n : Node), g.nodes[id]? = some n → n.record.id = id
  edges : ∀ (source target : ModuleId) (e : Edge), g.edge? source target = some e →
    e.source = source ∧ e.target = target ∧
      g.contains source = true ∧ g.contains target = true

theorem contains_iff_exists : g.contains id = true ↔ ∃ n, g.nodes[id]? = some n := by
  rw [contains, ExtTreeMap.contains_eq_isSome_getElem?, Option.isSome_iff_exists]

theorem edge?_eq_some_iff :
    g.edge? source target = some e ↔
      ∃ n, g.nodes[source]? = some n ∧ n.outgoing[target]? = some e := by
  rw [edge?_eq, Option.bind_eq_some_iff]

theorem contains_of_edge? (h : g.edge? source target = some e) : g.contains source = true :=
  contains_of_hasArc (a := (source, target)) (Option.isSome_of_eq_some h)

theorem Consistent.labelled (h : g.Consistent) : g.Labelled := fun source target e he =>
  ⟨(h.edges source target e he).1, (h.edges source target e he).2.1⟩

theorem Consistent.closed (h : g.Consistent) : g.Closed := by
  intro e he
  obtain ⟨source, target, hedge⟩ := mem_edges_iff.1 he
  obtain ⟨rfl, rfl, hsource, htarget⟩ := h.edges source target e hedge
  exact ⟨hsource, htarget⟩

theorem Consistent.isExternal (h : g.Consistent) {n : Node} (hn : g.nodes[id]? = some n) :
    n.record.isExternal = Import.isExternalId id := by
  rw [Module.isExternal, h.records id n hn]

/-- Modules are listed under the ids of their nodes. -/
theorem Consistent.mem_ids_filter (h : g.Consistent) {q : Module → Bool} :
    x ∈ ((g.nodes.toList.map fun (_, n) => n.record).filter q).map (·.id) ↔
      ∃ n, g.nodes[x]? = some n ∧ q n.record = true := by
  simp only [List.mem_map, List.mem_filter, Prod.exists,
    ExtTreeMap.mem_toList_iff_getElem?_eq_some]
  constructor
  · rintro ⟨m, ⟨⟨k, n, hn, rfl⟩, hq⟩, rfl⟩
    rw [h.records k n hn]
    exact ⟨n, hn, hq⟩
  · rintro ⟨n, hn, hq⟩
    exact ⟨n.record, ⟨⟨x, n, hn, rfl⟩, hq⟩, h.records x n hn⟩

/-- The files of a graph. -/
theorem Consistent.mem_internalModules (h : g.Consistent) :
    x ∈ g.internalModules.map (·.id) ↔ g.contains x = true ∧ Import.isExternalId x = false := by
  rw [internalModules, h.mem_ids_filter, contains_iff_exists]
  constructor
  · rintro ⟨n, hn, hinternal⟩
    rw [h.isExternal hn, Bool.not_eq_true'] at hinternal
    exact ⟨⟨n, hn⟩, hinternal⟩
  · rintro ⟨⟨n, hn⟩, hinternal⟩
    exact ⟨n, hn, by rw [h.isExternal hn, hinternal]; rfl⟩

/-- The packages of a graph. -/
theorem Consistent.mem_externalModules (h : g.Consistent) :
    x ∈ g.externalModules.map (·.id) ↔ g.contains x = true ∧ Import.isExternalId x = true := by
  rw [externalModules, h.mem_ids_filter, contains_iff_exists]
  constructor
  · rintro ⟨n, hn, hexternal⟩
    rw [h.isExternal hn] at hexternal
    exact ⟨⟨n, hn⟩, hexternal⟩
  · rintro ⟨⟨n, hn⟩, hexternal⟩
    exact ⟨n, hn, by rw [h.isExternal hn, hexternal]⟩

/-- No module is listed twice. -/
theorem Consistent.nodup_internalModules (h : g.Consistent) :
    (g.internalModules.map (·.id)).Nodup := by
  have hrecords : g.nodes.toList.map (fun u => u.2.record.id) = g.nodes.keys := by
    rw [← ExtTreeMap.map_fst_toList_eq_keys]
    refine List.map_congr_left fun u hu => h.records u.1 u.2 ?_
    exact ExtTreeMap.mem_toList_iff_getElem?_eq_some.1 hu
  have hkeys : ((g.nodes.toList.map fun (_, n) => n.record).map (·.id)).Nodup := by
    rw [List.map_map]
    exact hrecords ▸ ExtTreeMap.nodup_keys
  exact hkeys.sublist (List.filter_sublist.map _)

/-! ## Pruning -/

theorem edge?_of_prune (h : g.prune.edge? source target = some e) :
    g.edge? source target = some e := by
  obtain ⟨n, hn, he⟩ := edge?_eq_some_iff.1 h
  exact edge?_eq_some_iff.2 ⟨n, (getElem?_prune_eq_some_iff.1 hn).1, he⟩

theorem Consistent.prune (h : g.Consistent) : g.prune.Consistent where
  records := fun id n hn => h.records id n (getElem?_prune_eq_some_iff.1 hn).1
  edges := by
    intro source target e he
    obtain ⟨hs, ht, -, htarget⟩ := h.edges source target e (edge?_of_prune he)
    obtain ⟨n, hn⟩ := contains_iff_exists.1 htarget
    refine ⟨hs, ht, contains_of_edge? he, contains_iff_exists.2 ⟨n, ?_⟩⟩
    have himported := Option.isSome_of_eq_some (edge?_of_prune he)
    exact getElem?_prune_eq_some_iff.2 ⟨hn, fun _ => ⟨source, himported⟩⟩

/-! ## Taking a module away -/

theorem getElem?_without (g : ModuleGraph) (id x : ModuleId) :
    (g.without id).nodes[x]? =
      if id = x then none
      else (g.nodes[x]?).map fun n => { n with outgoing := n.outgoing.erase id } := by
  rw [without, ExtTreeMap.getElem?_map, Tables.getElem?_erase]
  by_cases hx : id = x
  · rw [if_pos hx, if_pos hx, Option.map_none]
  · rw [if_neg hx, if_neg hx]

/-- The edges at the module go, all others stay. -/
theorem edge?_without (g : ModuleGraph) (id source target : ModuleId) :
    (g.without id).edge? source target =
      if id = source ∨ id = target then none else g.edge? source target := by
  rw [edge?_eq, edge?_eq, getElem?_without]
  by_cases hs : id = source
  · simp [hs]
  · cases hn : g.nodes[source]? with
    | none => simp
    | some n => simp [hs, Tables.getElem?_erase]

theorem Consistent.without (h : g.Consistent) (id : ModuleId) : (g.without id).Consistent where
  records := by
    intro x n hn
    rw [getElem?_without, Option.ite_none_left_eq_some, Option.map_eq_some_iff] at hn
    obtain ⟨-, m, hm, rfl⟩ := hn
    exact h.records x m hm
  edges := by
    intro source target e he
    rw [edge?_without, Option.ite_none_left_eq_some, not_or] at he
    obtain ⟨⟨hsource, htarget⟩, he⟩ := he
    have hkept : ∀ x, id ≠ x → g.contains x = true → (g.without id).contains x = true := by
      intro x hx hmem
      obtain ⟨n, hn⟩ := contains_iff_exists.1 hmem
      exact contains_iff_exists.2 ⟨_, by rw [getElem?_without, if_neg hx, hn, Option.map_some]⟩
    obtain ⟨hs, ht, hsmem, htmem⟩ := h.edges source target e he
    exact ⟨hs, ht, hkept source hsource hsmem, hkept target htarget htmem⟩

end ModuleGraph

/-! ## Setting a file -/

/-- The links lead from the file, and those that are resolved lead to files that are
there. -/
structure Surveyed.Linked (files : ModuleId → Prop) (s : Surveyed) : Prop where
  source : ∀ l ∈ s.links, l.edge.source = s.record.id
  resolved : ∀ l ∈ s.links, l.resolved = true → files l.edge.target

namespace ModuleGraph

variable {g : ModuleGraph} {s : Surveyed} {id target : ModuleId}

theorem contains_changed_iff :
    ((g.setFile s).addPackages s.links).contains id = true ↔
      s.record.id = id ∨ g.contains id = true ∨ LeadsTo s.links id := by
  simp only [contains, ExtTreeMap.contains_eq_isSome_getElem?, getElem?_changed]
  by_cases hid : s.record.id = id <;> simp [hid]

/-- A graph with a file surveyed anew, before packages are dropped. -/
theorem Consistent.changed (h : g.Consistent)
    (hs : s.Linked fun id => g.contains id = true ∨ id = s.record.id) :
    ((g.setFile s).addPackages s.links).Consistent where
  records := by
    intro id n hn
    rw [getElem?_changed, Option.or_eq_some_iff] at hn
    rcases hn with hn | ⟨-, hn⟩
    · by_cases hid : s.record.id = id
      · rw [if_pos hid] at hn
        rw [← Option.some.inj hn, ← hid]
        rfl
      · rw [if_neg hid] at hn
        exact h.records id n hn
    · rw [Option.ite_none_right_eq_some, Option.some.injEq] at hn
      rw [← hn.2]
      rfl
  edges := by
    intro source target e he
    simp only [contains_changed_iff]
    rw [edge?_addPackages, edge?_setFile] at he
    by_cases hid : s.record.id = source
    · subst hid
      rw [if_pos rfl, fileNode, getElem?_edgeMap] at he
      obtain ⟨l, hl, rfl⟩ := List.mem_map.1 (List.mem_of_find?_eq_some he)
      have htarget : l.edge.target = target := by simpa using List.find?_some he
      refine ⟨hs.source l hl, htarget, Or.inl rfl, ?_⟩
      rw [← htarget]
      cases hres : l.resolved with
      | true =>
          rcases hs.resolved l hl hres with hmem | hself
          · exact Or.inr (Or.inl hmem)
          · exact Or.inl hself.symm
      | false => exact Or.inr (Or.inr ⟨l, hl, hres, rfl⟩)
    · rw [if_neg hid] at he
      obtain ⟨hsource, htarget, hsmem, htmem⟩ := h.edges source target e he
      exact ⟨hsource, htarget, Or.inr (Or.inl hsmem), Or.inr (Or.inl htmem)⟩

theorem Consistent.replace (h : g.Consistent)
    (hs : s.Linked fun id => g.contains id = true ∨ id = s.record.id) :
    (g.replace s).Consistent := by
  rw [replace_eq]
  exact (h.changed hs).prune

/-- What leads to a module after a change is an import of the file, or an edge that was
there. -/
theorem exists_edge?_changed_iff :
    (∃ source, (((g.setFile s).addPackages s.links).edge? source target).isSome) ↔
      (∃ l ∈ s.links, l.edge.target = target) ∨
        ∃ source, source ≠ s.record.id ∧ (g.edge? source target).isSome := by
  simp only [edge?_addPackages, edge?_setFile, ← isSome_outgoing_iff]
  constructor
  · rintro ⟨source, h⟩
    by_cases hsource : s.record.id = source
    · rw [if_pos hsource] at h
      exact Or.inl h
    · rw [if_neg hsource] at h
      exact Or.inr ⟨source, Ne.symm hsource, h⟩
  · rintro (h | ⟨source, hsource, h⟩)
    · exact ⟨s.record.id, by rwa [if_pos rfl]⟩
    · exact ⟨source, by rwa [if_neg (Ne.symm hsource)]⟩

/-- A file goes with the packages when it has the id of one and nothing imports it. -/
theorem contains_replace_iff :
    (g.replace s).contains s.record.id = true ↔ (Import.isExternalId s.record.id = true →
      (∃ l ∈ s.links, l.edge.target = s.record.id) ∨
        ∃ source, source ≠ s.record.id ∧ (g.edge? source s.record.id).isSome) := by
  have hnode : ((g.setFile s).addPackages s.links).nodes[s.record.id]? = some (fileNode s) := by
    rw [getElem?_changed, if_pos rfl, Option.some_or]
  rw [← exists_edge?_changed_iff, contains_iff_exists, replace_eq]
  simp only [getElem?_prune_eq_some_iff, hnode, Option.some.injEq, exists_eq_left']
  rfl

end ModuleGraph

namespace Builder

variable {b : Builder} {g : ModuleGraph} {id : ModuleId} {d : Descriptor} {s : Submission}

/-- A graph that depicts a project has no loose ends. -/
theorem Depicts.consistent {p : Project} (h : Depicts b p g) : g.Consistent where
  records := by
    intro id n hn
    by_cases hid : id ∈ p
    · obtain ⟨d, hd⟩ := Tables.exists_getElem? hid
      rw [h.files id d hd, Option.some.injEq] at hn
      rw [← hn]
      exact survey_record_id b _ id d
    · rw [((h.packages id n hid).1 hn).2]
      rfl
  edges := by
    intro source target e he
    obtain ⟨rfl, rfl⟩ := h.labelled source target e he
    obtain ⟨hsource, htarget⟩ := h.closed e (ModuleGraph.mem_edges_iff.2 ⟨_, _, he⟩)
    exact ⟨rfl, rfl, hsource, htarget⟩

theorem exists_of_mem_links {r : Import.Resolver} {l : Link} (hl : l ∈ (b.survey r id d).links) :
    ∃ x : String × Location,
      l = ⟨⟨id, r.targetOf id x.1, x.2, x.1⟩, (r.resolve? x.1 id).isSome⟩ := by
  rw [survey_eq] at hl
  obtain ⟨x, -, rfl⟩ := List.mem_map.1 hl
  exact ⟨x, linkOf_eq r id x.1 x.2⟩

/-- A file that is surveyed against some files is linked with them. -/
theorem linked_survey (b : Builder) (known : List ModuleId) (id : ModuleId) (d : Descriptor) :
    (b.survey (.ofFiles known b.packageNames) id d).Linked (· ∈ known) where
  source := by
    intro l hl
    obtain ⟨x, rfl⟩ := exists_of_mem_links hl
    exact (survey_record_id b _ id d).symm
  resolved := by
    intro l hl hres
    obtain ⟨x, rfl⟩ := exists_of_mem_links hl
    dsimp only at hres ⊢
    obtain ⟨file, hfile⟩ := Option.isSome_iff_exists.1 hres
    rw [Import.Resolver.targetOf, hfile]
    exact Import.Resolver.resolve?_mem hfile

/-- A file is surveyed against files of the graph and itself. -/
theorem exists_known (h : g.Consistent) (b : Builder) (id : ModuleId) (d : Descriptor) :
    ∃ known : List ModuleId, b.resurvey g id d = b.survey (.ofFiles known b.packageNames) id d ∧
      ∀ x ∈ known, g.contains x = true ∨ x = id := by
  by_cases hid : g.contains id = true
  · refine ⟨g.internalModules.map (·.id), by rw [resurvey, if_pos hid], ?_⟩
    intro x hx
    exact Or.inl (h.mem_internalModules.1 hx).1
  · refine ⟨g.internalModules.map (·.id) ++ [id], by rw [resurvey, if_neg hid], ?_⟩
    intro x hx
    rcases List.mem_append.1 hx with hx | hx
    · exact Or.inl (h.mem_internalModules.1 hx).1
    · exact Or.inr (List.mem_singleton.1 hx)

/-- A file that is surveyed against a graph is linked with the graph's files and itself.
-/
theorem linked_resurvey (h : g.Consistent) (b : Builder) (id : ModuleId) (d : Descriptor) :
    (b.resurvey g id d).Linked fun x =>
      g.contains x = true ∨ x = (b.resurvey g id d).record.id := by
  obtain ⟨known, heq, hknown⟩ := exists_known h b id d
  have hlinked := b.linked_survey known id d
  rw [heq, survey_record_id]
  exact { hlinked with resolved := fun l hl hres => hknown _ (hlinked.resolved l hl hres) }

/-! ## Changes -/

/-- A submission that describes no file has no unit. -/
theorem exists_unitOf_error (hs : s.usable? = none) : ∃ f, unitOf s = .error f := by
  cases s with
  | other v => exact ⟨_, rfl⟩
  | nameless shown refusal => exact ⟨_, rfl⟩
  | descriptor d =>
      rw [Submission.usable?, Option.map_eq_none_iff] at hs
      exact ⟨_, by rw [unitOf, idOf, hs]; rfl⟩

/-- Only a submission of a file can be used for an update. -/
theorem exists_update_error (b : Builder) (g : ModuleGraph) (hs : s.usable? = none) :
    ∃ f, b.update g s = .error f := by
  obtain ⟨f, hf⟩ := exists_unitOf_error hs
  exact ⟨f, by rw [Builder.update, hf]; rfl⟩

/-- A file is changed, or added, by surveying it against the graph; it has to be there
then. -/
theorem update_eq (b : Builder) (g : ModuleGraph) (hs : s.usable? = some (id, d)) :
    b.update g s =
      if (g.replace (b.resurvey g id d)).contains id = true then
        .ok (g.replace (b.resurvey g id d), (b.resurvey g id d).skips.map Skip.text)
      else .error (.noKey id) := by
  rw [Builder.update, unitOf_of_usable? hs]
  rfl

/-- A change of a graph. -/
inductive Change where
  | update (s : Submission)
  | remove (path : Value)

namespace Change

/-- The graph after a change; one that fails leaves it as it is. -/
def perform (b : Builder) (g : ModuleGraph) : Change → ModuleGraph
  | update s =>
    match b.update g s with
    | .ok (after, _) => after
    | .error _ => g
  | remove path =>
    match Builder.remove g path with
    | .ok after => after
    | .error _ => g

/-- What a change can do: it fails and leaves the graph as it is, it surveys a file and
sets it, or it takes a module away. -/
theorem perform_cases (b : Builder) (g : ModuleGraph) (c : Change) :
    c.perform b g = g ∨
      (∃ s id d, c = .update s ∧ s.usable? = some (id, d) ∧
        c.perform b g = g.replace (b.resurvey g id d)) ∨
      ∃ id, c.perform b g = (g.without id).prune := by
  cases c with
  | update s =>
      cases hs : s.usable? with
      | none =>
          obtain ⟨f, hf⟩ := exists_update_error b g hs
          exact Or.inl (by rw [perform, hf])
      | some u =>
          obtain ⟨id, d⟩ := u
          rw [perform, update_eq b g hs]
          by_cases hkept : (g.replace (b.resurvey g id d)).contains id = true
          · rw [if_pos hkept]
            exact Or.inr (Or.inl ⟨s, id, d, rfl, hs, rfl⟩)
          · rw [if_neg hkept]
            exact Or.inl rfl
  | remove path =>
      cases path with
      | str s =>
          rw [perform, Builder.remove]
          by_cases hmem : g.contains (Path.canonical s) = true
          · exact Or.inr (Or.inr ⟨Path.canonical s, by rw [if_pos hmem]⟩)
          · exact Or.inl (by rw [if_neg hmem])
      | _ => exact Or.inl rfl

end Change

end Builder

namespace ModuleGraph

open Builder (Change)

/-- No change leaves a loose end. -/
theorem Consistent.perform {g : ModuleGraph} (h : g.Consistent) (b : Builder) (c : Change) :
    (c.perform b g).Consistent := by
  rcases c.perform_cases b g with heq | ⟨s, id, d, -, -, heq⟩ | ⟨id, heq⟩
  · rwa [heq]
  · rw [heq]
    exact h.replace (Builder.linked_resurvey h b id d)
  · rw [heq]
    exact (h.without id).prune

end ModuleGraph

/-- However a built graph is changed, it has no loose ends. -/
theorem Builder.consistent_of_changes (b : Builder) (ss : List Submission)
    (changes : List Change) : (changes.foldl (Change.perform b) (b.build ss)).Consistent := by
  have hbuilt : (b.build ss).Consistent := (depicts_build b ss).consistent
  generalize b.build ss = g at hbuilt
  induction changes generalizing g with
  | nil => exact hbuilt
  | cons c rest ih => exact ih _ (hbuilt.perform b c)

end LayerLint
