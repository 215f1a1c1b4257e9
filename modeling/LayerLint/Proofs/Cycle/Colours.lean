import LayerLint.Proofs.Cycle.Search

/-!
# The colours that a search sets

The search does not store how far it is with a module: `colour` reads this off
the unvisited modules and the positions.  Here the colours are kept apart, each
one set where a module is entered or left and asked for where the search has to
decide.  `Painted` gathers the states that a search comes to together with the
colours that were set on the way.

Both ways agree in every state about everything that the graph mentions.  So a
module that was opened and not yet left stands on the path, and its position
can be looked up.

## Main results

* `Painted.colour_eq`: the colours that were set are those that are read off.
* `Painted.exists_position`: an open module has its position on the path.
* `exists_painted_run`: in the end every module was painted as finished.
-/

namespace LayerLint

open Std (ExtTreeMap ExtTreeSet)

namespace CycleSearch

/-- The colours after the next step.  A module is entered if it is still painted as
unvisited, and a root only if it is a module of the graph. -/
def repaint (g : ModuleGraph) (s : CycleSearch) (paint : ModuleId → Colour) :
    ModuleId → Colour :=
  match s.frames with
  | [] =>
    match s.roots with
    | [] => paint
    | root :: _ =>
      if g.contains root && paint root = .unvisited then Function.update paint root .opened
      else paint
  | ⟨node, []⟩ :: _ => Function.update paint node .finished
  | ⟨_, target :: _⟩ :: _ =>
    if paint target = .unvisited then Function.update paint target .opened else paint

/-- The states that a search comes to, with the colours that were set on the way. -/
inductive Painted (g : ModuleGraph) (roots : List ModuleId) :
    CycleSearch → (ModuleId → Colour) → Prop
  | start : Painted g roots (start g roots) fun _ => .unvisited
  | step {s t : CycleSearch} {paint : ModuleId → Colour} (h : Painted g roots s paint)
      (hst : step g s = some t) : Painted g roots t (repaint g s paint)

/-- The colours that were set tell the open modules, and of what the graph mentions what
is unvisited. -/
structure Agrees (g : ModuleGraph) (s : CycleSearch) (paint : ModuleId → Colour) : Prop where
  opened : ∀ id, paint id = .opened ↔ id ∈ s.opened
  unvisited : ∀ id ∈ g.mentioned, paint id = .unvisited ↔ id ∈ s.unvisited

variable {g : ModuleGraph} {roots : List ModuleId} {s t : CycleSearch}
  {paint : ModuleId → Colour} {id : ModuleId}

/-! ## Every step sets the right colours -/

theorem Agrees.start (g : ModuleGraph) (roots : List ModuleId) :
    Agrees g (start g roots) fun _ => .unvisited where
  opened := by simp [CycleSearch.start, CycleSearch.opened]
  unvisited := fun _ hid => ⟨fun _ => hid, fun _ => rfl⟩

/-- Entering an unvisited module. -/
theorem Agrees.enter (h : Agrees g s paint) (id : ModuleId) :
    Agrees g (enter g id s) (Function.update paint id .opened) where
  opened := by
    intro x
    have hopen : (CycleSearch.enter g id s).opened = id :: s.opened := rfl
    rw [hopen, List.mem_cons, ← h.opened]
    by_cases hx : x = id
    · simp [hx]
    · simp [hx]
  unvisited := by
    intro x hknown
    rw [CycleSearch.enter, ExtTreeSet.mem_erase, ← h.unvisited x hknown]
    by_cases hx : x = id
    · simp [hx]
    · simp [hx, Ne.symm hx]

/-- Leaving the end of the path. -/
theorem Agrees.leave (h : Agrees g s paint) (hl : Layout g s) {node : ModuleId}
    {below : List Frame} (hf : s.frames = ⟨node, []⟩ :: below) :
    Agrees g (leave node below s) (Function.update paint node .finished) := by
  have hopen : s.opened = node :: (CycleSearch.leave node below s).opened := opened_of_frames hf
  have hnodup := hl.nodup
  rw [hopen, List.nodup_cons] at hnodup
  have hvisited : node ∉ s.unvisited := hl.visited node (hopen ▸ List.mem_cons_self)
  refine { opened := fun x => ?_, unvisited := fun x hknown => ?_ }
  · by_cases hx : x = node
    · simp [hx, hnodup.1]
    · simp [hx, h.opened, hopen]
  · change _ ↔ x ∈ s.unvisited
    by_cases hx : x = node
    · simp [hx, hvisited]
    · simp [hx, h.unvisited x hknown]

/-- Nothing is entered and nothing is left. -/
theorem Agrees.keep (h : Agrees g s paint) (hopen : t.opened = s.opened)
    (hunvisited : t.unvisited = s.unvisited) : Agrees g t paint where
  opened := hopen ▸ h.opened
  unvisited := hunvisited ▸ h.unvisited

theorem Agrees.step (h : Agrees g s paint) (hl : Layout g s) (hst : Step g s t) :
    Agrees g t (repaint g s paint) := by
  -- A target is mentioned, so its colour decides as the set of the unvisited modules does.
  have htarget : ∀ {node target : ModuleId} {pending : List ModuleId} {below : List Frame},
      s.frames = ⟨node, target :: pending⟩ :: below →
        (paint target = .unvisited ↔ target ∈ s.unvisited) := by
    intro node target pending below hf
    have harc := (hl.pending _ (hf ▸ List.mem_cons_self)).2 target List.mem_cons_self
    exact h.unvisited target harc.mem_mentioned
  cases hst with
  | @passRoot root more hf hr hu =>
      have hpass : ¬ (g.contains root && decide (paint root = .unvisited)) = true := by
        rw [Bool.and_eq_true, decide_eq_true_eq]
        exact fun ⟨hc, hp⟩ =>
          hu hc ((h.unvisited root (ModuleGraph.mem_mentioned_of_contains hc)).1 hp)
      have hpaint : repaint g s paint = paint := by
        simp only [repaint, hf, hr, if_neg hpass]
      rw [hpaint]
      exact h.keep rfl rfl
  | @enterRoot root more hf hr hu hc =>
      have hpaint : repaint g s paint = Function.update paint root .opened := by
        have hwhite := (h.unvisited root (ModuleGraph.mem_mentioned_of_contains hc)).2 hu
        simp [repaint, hf, hr, hc, hwhite]
      rw [hpaint]
      exact (h.keep rfl rfl : Agrees g { s with roots := more } paint).enter root
  | @leave node below hf =>
      have hpaint : repaint g s paint = Function.update paint node .finished := by
        simp only [repaint, hf]
      rw [hpaint]
      exact h.leave hl hf
  | @descend node target pending below hf hu =>
      have hpaint : repaint g s paint = Function.update paint target .opened := by
        simp only [repaint, hf, if_pos ((htarget hf).2 hu)]
      rw [hpaint]
      exact (h.keep (opened_look hf s.found) rfl).enter target
  | @close node target pending below i hf hp =>
      have hvisited : target ∉ s.unvisited := hl.visited target (hl.mem_opened hp)
      have hpaint : repaint g s paint = paint := by
        simp only [repaint, hf, if_neg (mt (htarget hf).1 hvisited)]
      rw [hpaint]
      exact h.keep (opened_look hf _) rfl
  | skip hf hu hp =>
      have hpaint : repaint g s paint = paint := by
        simp only [repaint, hf, if_neg (mt (htarget hf).1 hu)]
      rw [hpaint]
      exact h.keep (opened_look hf s.found) rfl

/-! ## What the colours of a state tell -/

theorem Painted.layout (h : Painted g roots s paint) : Layout g s := by
  induction h with
  | start => exact Layout.start g roots
  | step _ hst ih => exact ih.step (.of_step hst)

theorem Painted.agrees (h : Painted g roots s paint) : Agrees g s paint := by
  induction h with
  | start => exact Agrees.start g roots
  | step h hst ih => exact ih.step h.layout (.of_step hst)

/-- The position of an open module is where it stands on the path. -/
theorem Layout.exists_position (h : Layout g s) (hid : id ∈ s.opened) :
    ∃ i, s.position[id]? = some i ∧ s.path[i]? = some id := by
  obtain ⟨i, hi⟩ := List.mem_iff_getElem?.1 (List.mem_reverse.2 hid)
  refine ⟨i, (h.position id i).2 hi, ?_⟩
  rw [← Array.getElem?_toList, h.path, hi]

/-- A module that was painted as open is on the path, and its position there can be
looked up. -/
theorem Painted.exists_position (h : Painted g roots s paint) (hid : paint id = .opened) :
    ∃ i, s.position[id]? = some i ∧ s.path[i]? = some id :=
  h.layout.exists_position ((h.agrees.opened id).1 hid)

/-- The colours that were set are those that the state tells. -/
theorem Painted.colour_eq (h : Painted g roots s paint) (hid : id ∈ g.mentioned) :
    s.colour id = paint id := by
  have hunvisited := h.agrees.unvisited id hid
  have hopened := h.agrees.opened id
  have hposition : id ∈ s.position ↔ id ∈ s.opened := by
    constructor
    · intro hmem
      obtain ⟨i, hi⟩ := Tables.exists_getElem? hmem
      exact h.layout.mem_opened hi
    · intro hmem
      obtain ⟨i, hi, -⟩ := h.layout.exists_position hmem
      exact Tables.mem_of_getElem? hi
  unfold colour
  cases hp : paint id with
  | unvisited => simp [hunvisited.1 hp]
  | opened =>
      have hmem := hopened.1 hp
      simp [h.layout.visited id hmem, hposition.2 hmem]
  | finished =>
      have hvisited : id ∉ s.unvisited := fun hmem => by simp [hunvisited.2 hmem] at hp
      have hleft : id ∉ s.position := fun hmem => by simp [hopened.2 (hposition.1 hmem)] at hp
      simp [hvisited, hleft]

/-- The search ends in a state where every module is painted as finished. -/
theorem exists_painted_run (g : ModuleGraph) (roots : List ModuleId) :
    ∃ paint, Painted g roots (run g (start g roots)) paint ∧
      ∀ id, g.contains id = true → paint id = .finished := by
  have hnext : ∀ s t, step g s = some t → (∃ paint, Painted g roots s paint) →
      ∃ paint, Painted g roots t paint := fun s t hst ⟨paint, h⟩ => ⟨_, h.step hst⟩
  obtain ⟨paint, h⟩ := run_of_next hnext (start g roots) ⟨_, .start⟩
  refine ⟨paint, h, fun id hid => ?_⟩
  have hvisited : id ∉ (run g (start g roots)).unvisited := visited_of_run hid
  have hend := (frames_roots_of_run g (start g roots)).1
  cases hp : paint id with
  | finished => rfl
  | unvisited =>
      have hmentioned := ModuleGraph.mem_mentioned_of_contains hid
      exact absurd ((h.agrees.unvisited id hmentioned).1 hp) hvisited
  | opened =>
      have hmem := (h.agrees.opened id).1 hp
      simp [CycleSearch.opened, hend] at hmem

end CycleSearch

end LayerLint
