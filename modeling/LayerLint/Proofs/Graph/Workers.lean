import LayerLint.Graph.Workers

/-!
# Workers find the same

A pool looks at the same files as one worker does and hands on the results in
the order of the files, so the order in which it gets done does not show.  What
shows is whether it gets done at all.

## Main results

* `collect_eq`: either nothing is ever handed on, or what one worker finds.
-/

namespace LayerLint.Workers

variable {α β : Type} {look : α → β} {files : List α}

/-- What a pool laid down for a file is what a look at the file finds. -/
theorem lookup_finished {order : List Nat} {i : Nat} {file : α} (h : i ∈ order)
    (hfile : files[i]? = some file) :
    (finished look files order).lookup i = some (look file) := by
  unfold finished
  induction order with
  | nil => cases h
  | cons j rest ih =>
      rw [List.filterMap_cons]
      by_cases hij : i = j
      · rw [← hij, hfile, Option.map_some, List.lookup_cons, BEq.rfl]
      · have hrest := ih ((List.mem_cons.1 h).resolve_left hij)
        cases files[j]? with
        | none => exact hrest
        | some other =>
            rw [Option.map_some, List.lookup_cons, beq_eq_false_iff_ne.2 hij]
            exact hrest

private theorem mapM_eq_some_map {γ : Type} {f : γ → Option β} {g : γ → β} {l : List γ}
    (h : ∀ x ∈ l, f x = some (g x)) : l.mapM f = some (l.map g) := by
  induction l with
  | nil => rfl
  | cons x rest ih =>
      obtain ⟨hx, hrest⟩ := List.forall_mem_cons.1 h
      rw [List.mapM_cons, hx, ih hrest]
      rfl

/-- A pool that gets done with every file hands on a result for each. -/
theorem await_finished {order : List Nat} (h : ∀ i, i < files.length → i ∈ order) :
    await files (finished look files order) = some (files.map look) := by
  have hdone : ∀ place ∈ files.zipIdx,
      (finished look files order).lookup place.2 = some (look place.1) := by
    intro place hplace
    have hfile : files[place.2]? = some place.1 := List.mem_zipIdx_iff_getElem?.1 hplace
    exact lookup_finished (h _ (List.getElem?_eq_some_iff.1 hfile).1) hfile
  have hmap : files.zipIdx.map (fun place => look place.1) = files.map look := by
    rw [← Function.comp_def look, ← List.map_map, List.zipIdx_map_fst]
  rw [await, mapM_eq_some_map hdone, hmap]

/-- Without a worker nothing is done, so the wait for the first file does not end. -/
theorem await_nil (h : files ≠ []) : await files ([] : List (Nat × β)) = none := by
  cases files with
  | nil => exact absurd rfl h
  | cons file rest =>
      rw [await, List.zipIdx_cons, List.mapM_cons]
      rfl

/-- **Workers find the same.**  Whoever looks at the files, and in whatever order they
get done, the results are those of looking at one file after the other, unless a pool
without workers is waited for. -/
theorem collect_eq (w : Workers) (look : α → β) (files : List α) :
    w.collect look files = if w.waits files.length then none else some (files.map look) := by
  unfold collect order?
  by_cases hfew : files.length < manyFiles
  · have hends : ¬w.waits files.length = true := by
      cases w <;> simp [waits, hfew]
    rw [if_pos hfew, if_neg hends]
  · rw [if_neg hfew]
    cases w with
    | alone => rfl
    | pool p => exact await_finished (p.complete files.length)
    | idle =>
        have hmany : files ≠ [] := by
          rintro rfl
          simp [manyFiles] at hfew
        rw [if_pos (by simpa [waits] using hfew)]
        exact await_nil hmany

end LayerLint.Workers
