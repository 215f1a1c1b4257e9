import Mathlib.Order.Monotone.Basic
import LayerLint.Proofs.Cycle.Colours
import LayerLint.Proofs.Cycle.Trail

/-!
# The course of a search

The search as a sequence: where it stands after so many steps, and which
colours it has set by then.  Whatever the graph and the roots are, the open
modules are the path in every state of the sequence, in the frames and in the
positions as well as in the colours.

Nothing happens twice on the way.  Being visited, being finished and being seen
are never taken back, and a module is opened, a module is left and an arc is
looked at only where one of them begins.

`remaining` counts what is still to be done: roots to start from, modules to
enter, frames to leave and arcs to look at.  Every step takes one from it, so
the number of steps is known from the start.

## Main results

* `seen_step_iff`: a step sees the arc that it looks at, and no other.
* `remaining_step`: every step takes one from what remains.
* `remaining_after`: so after so many steps the rest remains.
* `course`: the path in every state, nothing twice, and the end.
-/

namespace LayerLint

open Std (ExtTreeMap ExtTreeSet)

namespace CycleSearch

variable {g : ModuleGraph} {roots : List ModuleId} {s t : CycleSearch}
  {paint : ModuleId → Colour} {id : ModuleId} {n m : Nat}

/-- Where the search stands after so many steps, or at its end. -/
def after (g : ModuleGraph) (roots : List ModuleId) (n : Nat) : CycleSearch :=
  steps g n (start g roots)

/-- The colours that were set in so many steps. -/
def paintAfter (g : ModuleGraph) (roots : List ModuleId) : Nat → ModuleId → Colour
  | 0 => fun _ => .unvisited
  | n + 1 => repaint g (after g roots n) (paintAfter g roots n)

/-- The arc that the next step looks at. -/
def examined? (s : CycleSearch) : Option Arc :=
  match s.frames with
  | ⟨node, target :: _⟩ :: _ => some (node, target)
  | _ => none

/-- The path is a walk in the graph without repeats.  The same modules stand in the same
order in the frames and in the positions, and they are those that were painted as open.
-/
structure Follows (g : ModuleGraph) (s : CycleSearch) (paint : ModuleId → Colour) : Prop where
  colour : ∀ id ∈ g.mentioned, s.colour id = paint id
  opened : ∀ id, paint id = .opened ↔ id ∈ s.path
  nodup : s.path.toList.Nodup
  frames : s.frames.reverse.map (·.node) = s.path.toList
  position : ∀ (id : ModuleId) (i : Nat), s.position[id]? = some i ↔ s.path[i]? = some id
  links : s.path.toList.IsChain fun source target => g.HasArc (source, target)

/-! ## The sequence of states -/

theorem steps_succ (g : ModuleGraph) (n : Nat) (s : CycleSearch) :
    steps g (n + 1) s = (step g (steps g n s)).getD (steps g n s) := by
  induction n generalizing s with
  | zero =>
      rw [steps, steps]
      cases step g s with
      | none => rfl
      | some t => rfl
  | succ n ih =>
      rw [steps, steps]
      cases hst : step g s with
      | none => simp [hst]
      | some t => exact ih t

theorem after_succ_of_step (hst : step g (after g roots n) = some t) :
    after g roots (n + 1) = t := by
  show steps g (n + 1) (start g roots) = t
  rw [steps_succ]
  show (step g (after g roots n)).getD _ = t
  rw [hst, Option.getD_some]

theorem after_succ_of_end (hend : step g (after g roots n) = none) :
    after g roots (n + 1) = after g roots n := by
  show steps g (n + 1) (start g roots) = _
  rw [steps_succ]
  show (step g (after g roots n)).getD _ = _
  rw [hend, Option.getD_none]
  rfl

theorem repaint_of_end (hend : step g s = none) : repaint g s paint = paint := by
  unfold step at hend
  split at hend
  · next hf =>
    split at hend
    · next hr => simp only [repaint, hf, hr]
    · dsimp only at hend
      split at hend <;> cases hend
  · cases hend
  · dsimp only at hend
    split at hend
    · cases hend
    · split at hend <;> cases hend

/-- Every state of the sequence is one that the search comes to, with those colours. -/
theorem painted_after (g : ModuleGraph) (roots : List ModuleId) (n : Nat) :
    Painted g roots (after g roots n) (paintAfter g roots n) := by
  induction n with
  | zero => exact .start
  | succ n ih =>
      show Painted g roots _ (repaint g (after g roots n) (paintAfter g roots n))
      cases hst : step g (after g roots n) with
      | none =>
          rw [after_succ_of_end hst, repaint_of_end hst]
          exact ih
      | some t =>
          rw [after_succ_of_step hst]
          exact ih.step hst

/-- What holds at the start and is kept by every step holds after any number of steps. -/
theorem after_of_step {P : CycleSearch → Prop} (hStart : P (start g roots))
    (hStep : ∀ s t, Layout g s → Step g s t → P s → P t) (n : Nat) : P (after g roots n) := by
  induction n with
  | zero => exact hStart
  | succ n ih =>
      cases hst : step g (after g roots n) with
      | none => rwa [after_succ_of_end hst]
      | some t =>
          rw [after_succ_of_step hst]
          exact hStep _ t (painted_after g roots n).layout (.of_step hst) ih

theorem trail_after (g : ModuleGraph) (roots : List ModuleId) (n : Nat) :
    Trail g (after g roots n) :=
  after_of_step (.start g roots) (fun _ _ hl hst h => h.step hst hl) n

/-! ## The path in every state -/

theorem follows_after (g : ModuleGraph) (roots : List ModuleId) (n : Nat) :
    Follows g (after g roots n) (paintAfter g roots n) := by
  have hpainted := painted_after g roots n
  have hlayout := hpainted.layout
  have hpath := hlayout.path
  refine
    { colour := fun _ => hpainted.colour_eq
      opened := fun id => ?_
      nodup := ?_
      frames := ?_
      position := fun id i => ?_
      links := ?_ }
  · rw [hpainted.agrees.opened, ← Array.mem_toList_iff, hpath, List.mem_reverse]
  · rw [hpath]
    exact List.nodup_reverse.2 hlayout.nodup
  · rw [hpath, List.map_reverse]
    rfl
  · rw [hlayout.position, ← Array.getElem?_toList, hpath]
  · rw [hpath, List.isChain_reverse]
    exact (trail_after g roots n).links.imp fun _ _ hw => hw.1.1

/-! ## Nothing happens twice -/

/-- What is never taken back begins at most once. -/
theorem eq_of_begins {P : Nat → Prop} (hKeep : ∀ n, P n → P (n + 1)) (hn : ¬ P n)
    (hn' : P (n + 1)) (hm : ¬ P m) (hm' : P (m + 1)) : n = m := by
  have hmono : Monotone P := monotone_nat_of_le_succ hKeep
  rcases lt_trichotomy n m with hlt | heq | hlt
  · exact absurd (hmono (Nat.succ_le_of_lt hlt) hn') hm
  · exact heq
  · exact absurd (hmono (Nat.succ_le_of_lt hlt) hm') hn

/-- The next step leaves the colour of a module, or opens what was unvisited, or
finishes what was open. -/
theorem repaint_cases (h : Agrees g s paint) (id : ModuleId) :
    repaint g s paint id = paint id ∨
      (paint id = .unvisited ∧ repaint g s paint id = .opened) ∨
      (paint id = .opened ∧ repaint g s paint id = .finished) := by
  have hupdate : ∀ (x : ModuleId) (c : Colour), id ≠ x → Function.update paint x c id = paint id :=
    fun x c hne => Function.update_of_ne hne c paint
  generalize hnext : repaint g s paint = next
  unfold repaint at hnext
  split at hnext
  · split at hnext
    · exact Or.inl (hnext ▸ rfl)
    · next root more hr =>
      split at hnext
      · next hc =>
        rw [Bool.and_eq_true, decide_eq_true_eq] at hc
        rw [← hnext]
        by_cases hid : id = root
        · exact Or.inr (Or.inl ⟨hid ▸ hc.2, by simp [hid]⟩)
        · exact Or.inl (hupdate root .opened hid)
      · exact Or.inl (hnext ▸ rfl)
  · next node below hf =>
    have hopen : paint node = .opened :=
      (h.opened node).2 (opened_of_frames hf ▸ List.mem_cons_self)
    rw [← hnext]
    by_cases hid : id = node
    · exact Or.inr (Or.inr ⟨hid ▸ hopen, by simp [hid]⟩)
    · exact Or.inl (hupdate node .finished hid)
  · next node target pending below hf =>
    split at hnext
    · next hc =>
      rw [← hnext]
      by_cases hid : id = target
      · exact Or.inr (Or.inl ⟨hid ▸ hc, by simp [hid]⟩)
      · exact Or.inl (hupdate target .opened hid)
    · exact Or.inl (hnext ▸ rfl)

theorem paintAfter_cases (g : ModuleGraph) (roots : List ModuleId) (n : Nat) (id : ModuleId) :
    paintAfter g roots (n + 1) id = paintAfter g roots n id ∨
      (paintAfter g roots n id = .unvisited ∧ paintAfter g roots (n + 1) id = .opened) ∨
      (paintAfter g roots n id = .opened ∧ paintAfter g roots (n + 1) id = .finished) :=
  repaint_cases (painted_after g roots n).agrees id

/-- A module is opened at most once. -/
theorem eq_of_opened_once (hn : paintAfter g roots n id ≠ .opened)
    (hn' : paintAfter g roots (n + 1) id = .opened) (hm : paintAfter g roots m id ≠ .opened)
    (hm' : paintAfter g roots (m + 1) id = .opened) : n = m := by
  -- What is opened was unvisited before, and nothing becomes unvisited again.
  have hwhite : ∀ k, paintAfter g roots k id ≠ .opened → paintAfter g roots (k + 1) id = .opened →
      paintAfter g roots k id = .unvisited := by
    intro k hk hk'
    rcases paintAfter_cases g roots k id with h | h | h
    · exact absurd (h.symm.trans hk') hk
    · exact h.1
    · exact absurd h.1 hk
  refine eq_of_begins (P := fun k => paintAfter g roots k id ≠ .unvisited) ?_
    (not_not_intro (hwhite n hn hn')) (by simp [hn']) (not_not_intro (hwhite m hm hm'))
    (by simp [hm'])
  intro k hk
  rcases paintAfter_cases g roots k id with h | h | h
  · rwa [h]
  · exact absurd h.1 hk
  · simp [h.2]

/-- A module is finished at most once. -/
theorem eq_of_finished_once (hn : paintAfter g roots n id ≠ .finished)
    (hn' : paintAfter g roots (n + 1) id = .finished) (hm : paintAfter g roots m id ≠ .finished)
    (hm' : paintAfter g roots (m + 1) id = .finished) : n = m := by
  refine eq_of_begins (P := fun k => paintAfter g roots k id = .finished) ?_ hn hn' hm hm'
  intro k hk
  rcases paintAfter_cases g roots k id with h | h | h
  · rw [h, hk]
  · simp [hk] at h
  · exact h.2

/-- A step sees the arc that it looks at, and no other. -/
theorem seen_step_iff (hl : Layout g s) (hst : Step g s t) {a : Arc} :
    Seen g t a ↔ Seen g s a ∨ s.examined? = some a := by
  -- The steps that look at no arc, and the others.
  have hno : s.examined? = none → (Seen g s a ↔ Seen g s a ∨ s.examined? = some a) := by
    intro hnone
    simp [hnone]
  have hlook : ∀ {node target : ModuleId} {pending : List ModuleId} {below : List Frame}
      (found : Array Cycle), s.frames = ⟨node, target :: pending⟩ :: below →
      (Seen g { s with frames := ⟨node, pending⟩ :: below, found := found } a ↔
        Seen g s a ∨ s.examined? = some a) := by
    intro node target pending below found hf
    rw [seen_look_iff hl hf found, examined?, hf]
    simp only [Option.some.injEq, eq_comm]
  cases hst with
  | passRoot hf hr hu => exact hno (by simp [examined?, hf])
  | @enterRoot root more hf hr hu hg =>
      have henter : Seen g (enter g root { s with roots := more }) a ↔ Seen g s a :=
        seen_enter_iff hu
      exact henter.trans (hno (by simp [examined?, hf]))
  | leave hf => exact (seen_leave_iff hf).trans (hno (by simp [examined?, hf]))
  | @descend node target pending below hf hu =>
      have henter := seen_enter_iff (g := g) (s := { s with frames := ⟨node, pending⟩ :: below })
        hu (a := a)
      exact henter.trans (hlook s.found hf)
  | close hf hp => exact hlook _ hf
  | skip hf hu hp => exact hlook s.found hf

theorem awaits_of_examined {a : Arc} (h : s.examined? = some a) : Awaits s a := by
  unfold examined? at h
  split at h
  · next node target pending below hf =>
    rw [← Option.some.inj h]
    exact awaits_of_pending hf
  · cases h

theorem step_ne_none_of_examined {a : Arc} (h : s.examined? = some a) : step g s ≠ none := by
  intro hend
  unfold examined? at h
  split at h
  · next node target pending below hf =>
    simp only [step, hf] at hend
    split at hend
    · cases hend
    · split at hend <;> cases hend
  · cases h

theorem seen_after_succ_iff {a : Arc} :
    Seen g (after g roots (n + 1)) a ↔
      Seen g (after g roots n) a ∨ (after g roots n).examined? = some a := by
  cases hst : step g (after g roots n) with
  | none =>
      rw [after_succ_of_end hst]
      exact ⟨Or.inl, fun h => h.resolve_right fun hex => step_ne_none_of_examined hex hst⟩
  | some t =>
      rw [after_succ_of_step hst]
      exact seen_step_iff (painted_after g roots n).layout (.of_step hst)

/-- An arc is looked at at most once. -/
theorem eq_of_examined_once {a : Arc} (hn : (after g roots n).examined? = some a)
    (hm : (after g roots m).examined? = some a) : n = m :=
  eq_of_begins (P := fun k => Seen g (after g roots k) a)
    (fun _ hk => seen_after_succ_iff.2 (Or.inl hk))
    (fun hk => hk.2 (awaits_of_examined hn)) (seen_after_succ_iff.2 (Or.inr hn))
    (fun hk => hk.2 (awaits_of_examined hm)) (seen_after_succ_iff.2 (Or.inr hm))

/-! ## What remains to be done -/

instance (s : CycleSearch) : DecidablePred (Awaits s) := fun a =>
  inferInstanceAs (Decidable (a.1 ∈ s.unvisited ∨ ∃ f ∈ s.frames, f.node = a.1 ∧ a.2 ∈ f.pending))

/-- The roots to start from, the modules to enter, the frames to leave and the arcs to
look at. -/
def remaining (g : ModuleGraph) (s : CycleSearch) : Nat :=
  s.roots.length + s.unvisited.size + s.frames.length + g.arcs.countP (Awaits s ·)

private theorem countP_eq_succ {arcs : List Arc} (hnodup : arcs.Nodup) {p q : Arc → Bool} {a : Arc}
    (ha : a ∈ arcs) (hp : p a = true) (hq : ∀ b ∈ arcs, q b = true ↔ p b = true ∧ b ≠ a) :
    arcs.countP p = arcs.countP q + 1 := by
  have hperm := List.perm_cons_erase ha
  have hrest : (arcs.erase a).countP p = (arcs.erase a).countP q := by
    refine List.countP_congr fun b hb => ?_
    obtain ⟨hne, hb⟩ := hnodup.mem_erase_iff.1 hb
    rw [hq b hb]
    exact ⟨fun h => ⟨h, hne⟩, And.left⟩
  have hout : ¬ q a = true := fun h => ((hq a ha).1 h).2 rfl
  rw [hperm.countP_eq p, hperm.countP_eq q, List.countP_cons_of_pos hp,
    List.countP_cons_of_neg hout, hrest]

/-- Coming to a root takes it away. -/
theorem remaining_root {root : ModuleId} {more : List ModuleId} (hr : s.roots = root :: more) :
    remaining g s = remaining g { s with roots := more } + 1 := by
  unfold remaining
  rw [hr, List.length_cons]
  show _ = more.length + s.unvisited.size + s.frames.length + g.arcs.countP (Awaits s ·) + 1
  omega

/-- Entering a module trades it for a frame. -/
theorem remaining_enter (hu : id ∈ s.unvisited) : remaining g (enter g id s) = remaining g s := by
  have hsize : (s.unvisited.erase id).size + 1 = s.unvisited.size := by
    have hlt := size_erase_lt (ExtTreeSet.contains_iff_mem.2 hu)
    have hle := ExtTreeSet.size_le_size_erase (t := s.unvisited) (k := id)
    omega
  have harcs : g.arcs.countP (Awaits (enter g id s) ·) = g.arcs.countP (Awaits s ·) := by
    refine List.countP_congr fun a ha => ?_
    rw [decide_eq_true_eq, decide_eq_true_eq, awaits_enter_iff hu (ModuleGraph.mem_arcs_iff.1 ha)]
  unfold remaining
  rw [harcs]
  show s.roots.length + (s.unvisited.erase id).size + (s.frames.length + 1) + _ = _
  omega

/-- Looking at an arc takes it away. -/
theorem remaining_look (hl : Layout g s) {node target : ModuleId} {pending : List ModuleId}
    {below : List Frame} (hf : s.frames = ⟨node, target :: pending⟩ :: below)
    (found : Array Cycle) :
    remaining g s =
      remaining g { s with frames := ⟨node, pending⟩ :: below, found := found } + 1 := by
  have harc : g.HasArc (node, target) :=
    (hl.pending _ (hf ▸ List.mem_cons_self)).2 target List.mem_cons_self
  have harcs := countP_eq_succ g.nodup_arcs (ModuleGraph.mem_arcs_iff.2 harc)
    (p := (Awaits s ·))
    (q := (Awaits { s with frames := ⟨node, pending⟩ :: below, found := found } ·))
    (by simpa using awaits_of_pending hf) (fun b _ => by simpa using awaits_look_iff hl hf found)
  unfold remaining
  rw [harcs, hf]
  simp only [List.length_cons]
  omega

/-- Every step takes one from what remains. -/
theorem remaining_step (hl : Layout g s) (hst : Step g s t) :
    remaining g s = remaining g t + 1 := by
  cases hst with
  | passRoot hf hr hu => exact remaining_root hr
  | @enterRoot root more hf hr hu hg =>
      have henter : remaining g (enter g root { s with roots := more }) =
          remaining g { s with roots := more } := remaining_enter hu
      rw [remaining_root hr, henter]
  | @leave node below hf =>
      have harcs : g.arcs.countP (Awaits (leave node below s) ·) = g.arcs.countP (Awaits s ·) := by
        refine List.countP_congr fun a _ => ?_
        rw [decide_eq_true_eq, decide_eq_true_eq, awaits_leave_iff hf]
      unfold remaining
      rw [harcs, hf, List.length_cons]
      show _ = s.roots.length + s.unvisited.size + below.length + _ + 1
      omega
  | @descend node target pending below hf hu =>
      have henter : remaining g (enter g target { s with frames := ⟨node, pending⟩ :: below }) =
          remaining g { s with frames := ⟨node, pending⟩ :: below } := remaining_enter hu
      rw [remaining_look hl hf s.found, henter]
  | close hf hp => exact remaining_look hl hf _
  | skip hf hu hp => exact remaining_look hl hf s.found

/-! ## The end -/

theorem Step.mem_unvisited (hst : Step g s t) (hid : id ∈ t.unvisited) : id ∈ s.unvisited := by
  cases hst with
  | passRoot hf hr hu => exact hid
  | enterRoot hf hr hu hg => exact ExtTreeSet.mem_of_mem_erase hid
  | leave hf => exact hid
  | descend hf hu => exact ExtTreeSet.mem_of_mem_erase hid
  | close hf hp => exact hid
  | skip hf hu hp => exact hid

/-- Where an arc leads that was looked at is visited by then. -/
theorem Step.visited_of_examined (hl : Layout g s) (hst : Step g s t) {a : Arc}
    (hex : s.examined? = some a) : a.2 ∉ t.unvisited := by
  have htarget : ∀ {node target : ModuleId} {pending : List ModuleId} {below : List Frame},
      s.frames = ⟨node, target :: pending⟩ :: below → a.2 = target := by
    intro node target pending below hf
    simp only [examined?, hf, Option.some.injEq] at hex
    rw [← hex]
  cases hst with
  | passRoot hf hr hu => simp [examined?, hf] at hex
  | enterRoot hf hr hu hg => simp [examined?, hf] at hex
  | leave hf => simp [examined?, hf] at hex
  | descend hf hu =>
      rw [htarget hf]
      intro hmem
      exact (ExtTreeSet.mem_erase.1 hmem).1 Std.ReflCmp.compare_self
  | close hf hp =>
      rw [htarget hf]
      exact hl.visited _ (hl.mem_opened hp)
  | skip hf hu hp =>
      rw [htarget hf]
      exact hu

/-- What is unvisited is mentioned by the graph, and nothing that was seen leads there. -/
structure Unreached (g : ModuleGraph) (s : CycleSearch) : Prop where
  mentioned : ∀ id ∈ s.unvisited, id ∈ g.mentioned
  seen : ∀ a, Seen g s a → a.2 ∉ s.unvisited

theorem Unreached.start (g : ModuleGraph) (roots : List ModuleId) :
    Unreached g (start g roots) where
  mentioned := fun _ hid => hid
  seen := by
    intro a ha
    have hsource := ModuleGraph.mem_mentioned_of_contains (ModuleGraph.contains_of_hasArc ha.1)
    exact absurd (Or.inl hsource) ha.2

theorem Unreached.step (h : Unreached g s) (hl : Layout g s) (hst : Step g s t) :
    Unreached g t where
  mentioned := fun id hid => h.mentioned id (hst.mem_unvisited hid)
  seen := by
    intro a ha
    rcases (seen_step_iff hl hst).1 ha with hs | hex
    · exact fun hmem => h.seen a hs (hst.mem_unvisited hmem)
    · exact hst.visited_of_examined hl hex

theorem run_of_end (hend : step g (after g roots n) = none) :
    run g (start g roots) = after g roots n :=
  run_eq_steps (Option.isNone_iff_eq_none.2 hend)

/-- At the end of the search no frame and no root is left. -/
theorem frames_roots_of_end (hend : step g (after g roots n) = none) :
    (after g roots n).frames = [] ∧ (after g roots n).roots = [] :=
  run_of_end hend ▸ frames_roots_of_run g (start g roots)

/-- At the end of the search nothing is unvisited. -/
theorem unvisited_of_end (hend : step g (after g roots n) = none) (id : ModuleId) :
    id ∉ (after g roots n).unvisited := by
  have hvisited : ∀ x, g.contains x = true → x ∉ (after g roots n).unvisited :=
    fun x hx => run_of_end hend ▸ visited_of_run hx
  have hreach : Unreached g (after g roots n) :=
    after_of_step (.start g roots) (fun _ _ hl hst h => h.step hl hst) n
  intro hid
  rcases ModuleGraph.mem_mentioned_iff.1 (hreach.mentioned id hid) with hg | ⟨source, harc⟩
  · exact hvisited id hg hid
  · -- The module that imports it is visited and left, so the import was seen.
    have hseen : Seen g (after g roots n) (source, id) := by
      refine ⟨harc, ?_⟩
      rintro (hsource | ⟨f, hmem, -⟩)
      · exact hvisited source (ModuleGraph.contains_of_hasArc (a := (source, id)) harc) hsource
      · rw [(frames_roots_of_end hend).1] at hmem
        exact List.not_mem_nil hmem
    exact hreach.seen _ hseen hid

theorem remaining_of_end (hend : step g (after g roots n) = none) :
    remaining g (after g roots n) = 0 := by
  have hends := frames_roots_of_end hend
  have hunvisited : (after g roots n).unvisited.size = 0 := by
    refine ExtTreeSet.eq_empty_iff_size_eq_zero.1 (ExtTreeSet.ext_mem fun id => ?_)
    exact iff_of_false (unvisited_of_end hend id) ExtTreeSet.not_mem_empty
  have harcs : g.arcs.countP (Awaits (after g roots n) ·) = 0 := by
    refine List.countP_eq_zero.2 fun a _ ha => ?_
    rcases of_decide_eq_true ha with hsource | ⟨f, hmem, -⟩
    · exact unvisited_of_end hend a.1 hsource
    · rw [hends.1] at hmem
      exact List.not_mem_nil hmem
  simp only [remaining, hends, hunvisited, harcs, List.length_nil]

theorem remaining_start (g : ModuleGraph) (roots : List ModuleId) :
    remaining g (start g roots) = roots.length + g.size + g.mentioned.size + g.edgeCount := by
  have harcs : g.arcs.countP (Awaits (start g roots) ·) = g.edgeCount := by
    rw [← ModuleGraph.length_arcs]
    refine List.countP_eq_length.2 fun a ha => decide_eq_true (Or.inl ?_)
    exact ModuleGraph.mem_mentioned_of_contains
      (ModuleGraph.contains_of_hasArc (ModuleGraph.mem_arcs_iff.1 ha))
  have hids : g.ids.length = g.size := ExtTreeMap.length_keys
  unfold remaining
  rw [harcs]
  simp [start, hids]

/-- After so many steps the rest remains. -/
theorem remaining_after (g : ModuleGraph) (roots : List ModuleId) (n : Nat) :
    remaining g (after g roots n) = remaining g (start g roots) - n := by
  induction n with
  | zero => rfl
  | succ n ih =>
      cases hst : step g (after g roots n) with
      | none =>
          have hzero := remaining_of_end hst
          rw [after_succ_of_end hst]
          omega
      | some t =>
          have htake := remaining_step (painted_after g roots n).layout (.of_step hst)
          rw [after_succ_of_step hst]
          omega

/-- The search is over as soon as nothing remains. -/
theorem step_after_eq_none_iff : step g (after g roots n) = none ↔
    roots.length + g.size + g.mentioned.size + g.edgeCount ≤ n := by
  have hafter := remaining_after g roots n
  rw [← remaining_start]
  constructor
  · intro hend
    have hzero := remaining_of_end hend
    omega
  · intro hle
    cases hst : step g (after g roots n) with
    | none => rfl
    | some t =>
        have htake := remaining_step (painted_after g roots n).layout (.of_step hst)
        omega

/-- At the end all that the graph mentions is finished, and nothing is open. -/
theorem paintAfter_of_end (hend : step g (after g roots n) = none) :
    (∀ id ∈ g.mentioned, paintAfter g roots n id = .finished) ∧
      ∀ id, paintAfter g roots n id ≠ .opened := by
  have hagrees := (painted_after g roots n).agrees
  have hopened : (after g roots n).opened = [] := by
    rw [opened, (frames_roots_of_end hend).1, List.map_nil]
  have hclosed : ∀ id, paintAfter g roots n id ≠ .opened := by
    intro id hid
    have hmem := (hagrees.opened id).1 hid
    rw [hopened] at hmem
    exact List.not_mem_nil hmem
  refine ⟨fun id hid => ?_, hclosed⟩
  cases hp : paintAfter g roots n id with
  | finished => rfl
  | unvisited => exact absurd ((hagrees.unvisited id hid).1 hp) (unvisited_of_end hend id)
  | opened => exact absurd hp (hclosed id)

/-! ## The whole course -/

/-- In every state the open modules are the path.  No module is opened or finished twice
and no arc is looked at twice.  The search is over after so many steps, and then every
module is finished. -/
theorem course (g : ModuleGraph) (roots : List ModuleId) :
    (∀ n, Follows g (after g roots n) (paintAfter g roots n)) ∧
      (∀ id n m, paintAfter g roots n id ≠ .opened → paintAfter g roots (n + 1) id = .opened →
        paintAfter g roots m id ≠ .opened → paintAfter g roots (m + 1) id = .opened → n = m) ∧
      (∀ id n m, paintAfter g roots n id ≠ .finished → paintAfter g roots (n + 1) id = .finished →
        paintAfter g roots m id ≠ .finished → paintAfter g roots (m + 1) id = .finished →
          n = m) ∧
      (∀ a n m, (after g roots n).examined? = some a → (after g roots m).examined? = some a →
        n = m) ∧
      (∀ n, step g (after g roots n) = none ↔
        roots.length + g.size + g.mentioned.size + g.edgeCount ≤ n) ∧
      ∀ n, step g (after g roots n) = none → after g roots n = run g (start g roots) ∧
        (∀ id, g.contains id = true → paintAfter g roots n id = .finished) ∧
        ∀ id, paintAfter g roots n id ≠ .opened := by
  refine ⟨follows_after g roots, fun _ _ _ => eq_of_opened_once, fun _ _ _ => eq_of_finished_once,
    fun _ _ _ => eq_of_examined_once, fun _ => step_after_eq_none_iff, fun n hend => ?_⟩
  obtain ⟨hfinished, hclosed⟩ := paintAfter_of_end hend
  refine ⟨(run_of_end hend).symm, fun id hid => ?_, hclosed⟩
  exact hfinished id (ModuleGraph.mem_mentioned_of_contains hid)

end CycleSearch

end LayerLint
