import LayerLint.Proofs.Cycle.Reports

/-!
# One reading for all rotations

A cycle without repeats is known by the order in which its members follow each
other, and it can be read from any of them.  All its readings have one and the
same canonical reading, and no two different cycles share theirs, even if they
have the same members in the other direction.

A rotation of such a cycle is told by the member in front alone.  With repeats
this fails: the smallest member may come twice, and then there are two
canonical readings of one cycle.

## Main results

* `eq_of_isRotated_of_head?`: two rotations with the same member in front are equal.
* `canonical_eq_canonical_iff`: equal canonical readings are those of one cycle.
* `canonical_tells_rotations`: all of this about the canonical reading.
* `ModuleGraph.eq_of_isRotation`: no cycle is reported in two readings.
-/

namespace LayerLint

namespace Cycle

variable {c d : Cycle}

theorem isRotation_iff_isRotated : IsRotation c d ↔ c.IsRotated d := by
  constructor
  · intro h
    obtain ⟨n, rfl⟩ := h.exists_rotate
    exact ⟨n, rfl⟩
  · rintro ⟨n, rfl⟩
    exact ⟨c.take (n % c.length), c.drop (n % c.length), (List.take_append_drop _ c).symm,
      List.rotate_eq_drop_append_take_mod⟩

theorem isRotated_canonical (c : Cycle) : c.IsRotated (canonical c) :=
  isRotation_iff_isRotated.1 (canonical_isRotation c)

/-! ## The member in front -/

/-- Without repeats, no two rotations have the same member in front. -/
theorem eq_of_isRotated_of_head? (hNodup : c.Nodup) (h : c.IsRotated d)
    (hHead : c.head? = d.head?) : c = d := by
  obtain ⟨n, rfl⟩ := h
  cases hc : c with
  | nil => rw [List.rotate_nil]
  | cons first rest =>
      rw [← hc]
      have hpos : 0 < c.length := by simp [hc]
      have hlt : n % c.length < c.length := Nat.mod_lt n hpos
      rw [← List.rotate_mod, List.head?_rotate hlt, List.head?_eq_getElem?,
        List.getElem?_inj hpos hNodup] at hHead
      rw [← List.rotate_mod, ← hHead, List.rotate_zero]

/-- Cycles with the same members have the same smallest one. -/
theorem head?_canonical_of_perm (h : c.Perm d) : (canonical c).head? = (canonical d).head? := by
  cases c with
  | nil => rw [List.nil_perm.1 h]
  | cons x xs =>
      cases d with
      | nil => exact absurd h.symm (List.not_perm_nil_cons x xs)
      | cons y ys =>
          rw [head?_canonical, head?_canonical, Option.some.injEq]
          exact le_antisymm (least_le x xs _ (h.mem_iff.2 (least_mem y ys)))
            (least_le y ys _ (h.mem_iff.1 (least_mem x xs)))

/-- A cycle that starts at its smallest member is read as it stands. -/
theorem canonical_eq_self {first : ModuleId} {rest : List ModuleId}
    (h : ∀ id ∈ first :: rest, first ≤ id) : canonical (first :: rest) = first :: rest := by
  have hleast : least first rest = first :=
    le_antisymm (least_le first rest first List.mem_cons_self) (h _ (least_mem first rest))
  simp [canonical, hleast]

theorem canonical_canonical (c : Cycle) : canonical (canonical c) = canonical c := by
  cases hc : canonical c with
  | nil => rfl
  | cons first rest =>
      refine canonical_eq_self fun id hid => ?_
      exact head?_canonical_le (by rw [hc, List.head?_cons]) (hc ▸ hid)

/-! ## Rotations and their canonical reading -/

/-- Rotations of a cycle without repeats have one canonical reading, and other cycles have
another one. -/
theorem canonical_eq_canonical_iff (hNodup : c.Nodup) :
    canonical c = canonical d ↔ IsRotation c d := by
  rw [isRotation_iff_isRotated]
  constructor
  · intro heq
    have hd := (isRotated_canonical d).symm
    rw [← heq] at hd
    exact (isRotated_canonical c).trans hd
  · intro h
    have hcanonical : (canonical c).IsRotated (canonical d) :=
      ((isRotated_canonical c).symm.trans h).trans (isRotated_canonical d)
    exact eq_of_isRotated_of_head? ((canonical_perm c).nodup_iff.2 hNodup) hcanonical
      (head?_canonical_of_perm h.perm)

/-- **The canonical reading tells a cycle from all others.**  Two cycles, of which one
has no repeats, have the same canonical reading just when the one is a rotation of the
other.  The canonical reading is itself a rotation, with the same arcs, so it goes the
same way round; it starts at the smallest member, and reading it again changes nothing.
-/
theorem canonical_tells_rotations (c d : Cycle) :
    (c.Nodup → (canonical c = canonical d ↔ IsRotation c d)) ∧
      IsRotation c (canonical c) ∧
      (∀ a, a ∈ arcs (canonical c) ↔ a ∈ arcs c) ∧
      (c ≠ [] → ∃ first ∈ c, (canonical c).head? = some first ∧ ∀ id ∈ c, first ≤ id) ∧
      canonical (canonical c) = canonical c := by
  refine ⟨canonical_eq_canonical_iff, canonical_isRotation c, fun _ => mem_arcs_canonical, ?_,
    canonical_canonical c⟩
  intro hne
  cases c with
  | nil => exact absurd rfl hne
  | cons first rest =>
      exact ⟨least first rest, least_mem first rest, head?_canonical first rest,
        least_le first rest⟩

/-- The other way round is another cycle. -/
example : canonical ["b", "c", "a"] = ["a", "b", "c"] ∧
    canonical ["b", "a", "c"] = ["a", "c", "b"] := by decide +kernel

/-- With repeats a cycle has more than one canonical reading. -/
example : IsRotation ["a", "b", "a", "c"] ["a", "c", "a", "b"] ∧
    canonical ["a", "b", "a", "c"] ≠ canonical ["a", "c", "a", "b"] :=
  ⟨⟨["a", "b"], ["a", "c"], rfl, rfl⟩, by decide +kernel⟩

end Cycle

/-- No cycle is reported in two readings. -/
theorem ModuleGraph.eq_of_isRotation {g : ModuleGraph} {roots : List ModuleId} {c d : Cycle}
    (hc : c ∈ g.findCycles roots) (hd : d ∈ g.findCycles roots) (h : c.IsRotation d) : c = d := by
  have hNodup : c.Nodup := (isSimpleCycle_of_mem_findCycles hc).nodup
  have hcanonical := (Cycle.canonical_eq_canonical_iff hNodup).2 h
  obtain ⟨raw, -, -, -, rfl⟩ := exists_of_mem_findCycles hc
  obtain ⟨raw', -, -, -, rfl⟩ := exists_of_mem_findCycles hd
  rwa [Cycle.canonical_canonical, Cycle.canonical_canonical] at hcanonical

end LayerLint
