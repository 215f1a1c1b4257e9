import LayerLint.Toml.Parser

/-!
# Tables that have each key once

A table is a list of entries, and looking up a key finds the first of them that has
it.  That is all the table says about the key only if no other entry has it too.
Reading a document keeps it so: a name is added to a table only where it is free,
and a value that is changed stays the only one of its name.  Tables stand within
tables, so the same has to hold at every depth.

## Main results

* `KeepsKeys.modifyAt`: a change deep inside a table keeps it so.
* `reads_all`: it holds of the values that are read, at every depth.
* `wellKeyed_of_parse`: it holds of the table of a document.
-/

namespace LayerLint

/-- Every table in the value has each key once. -/
inductive Value.WellKeyed : Value → Prop
  | plain {v : Value} (h : Toml.isCompound v = false) : WellKeyed v
  | list {items : List Value} (h : ∀ item ∈ items, WellKeyed item) : WellKeyed (.list items)
  | dict {entries : List (String × Value)} (hkeys : (entries.map Prod.fst).Nodup)
      (hvalues : ∀ entry ∈ entries, WellKeyed entry.2) : WellKeyed (.dict entries)

/-- The table has each key once, and so has every table in it. -/
structure Table.WellKeyed (t : Table) : Prop where
  keys : (t.map Prod.fst).Nodup
  values : ∀ entry ∈ t, entry.2.WellKeyed

theorem Value.wellKeyed_list {items : List Value} :
    (Value.list items).WellKeyed ↔ ∀ item ∈ items, item.WellKeyed := by
  constructor
  · intro h
    cases h with
    | plain h => cases h
    | list h => exact h
  · exact .list

theorem Value.wellKeyed_dict {t : Table} : (Value.dict t).WellKeyed ↔ t.WellKeyed := by
  constructor
  · intro h
    cases h with
    | plain h => cases h
    | dict hkeys hvalues => exact ⟨hkeys, hvalues⟩
  · exact fun h => .dict h.keys h.values

/-! ## Tables -/

namespace Table

variable {t : Table} {k : String} {v : Value}

theorem mem_set {entry : String × Value} (h : entry ∈ set k v t) : entry = (k, v) ∨ entry ∈ t := by
  induction t with
  | nil => exact Or.inl (List.mem_singleton.1 h)
  | cons first more ih =>
      rw [set] at h
      split at h
      · next heq =>
        rcases List.mem_cons.1 h with h | h
        · exact Or.inl (heq ▸ h)
        · exact Or.inr (List.mem_cons_of_mem _ h)
      · rcases List.mem_cons.1 h with h | h
        · exact Or.inr (h ▸ List.mem_cons_self)
        · exact (ih h).imp_right (List.mem_cons_of_mem _)

theorem mem_of_lookup (h : t.lookup k = some v) : (k, v) ∈ t := by
  obtain ⟨before, after, rfl, -⟩ := List.lookup_eq_some_iff.1 h
  exact List.mem_append_right before List.mem_cons_self

theorem nodup_keys_set (h : (t.map Prod.fst).Nodup) : ((set k v t).map Prod.fst).Nodup := by
  induction t with
  | nil => exact List.nodup_cons.2 ⟨List.not_mem_nil, List.nodup_nil⟩
  | cons first more ih =>
      obtain ⟨hfirst, hmore⟩ := List.nodup_cons.1 h
      rw [set]
      split
      · exact h
      · next hne =>
        refine List.nodup_cons.2 ⟨fun hmem => ?_, ih hmore⟩
        obtain ⟨entry, hentry, heq⟩ := List.mem_map.1 hmem
        rcases mem_set hentry with rfl | hentry
        · exact hne heq.symm
        · exact hfirst (heq ▸ List.mem_map_of_mem hentry)

theorem WellKeyed.nil : WellKeyed [] := ⟨List.nodup_nil, fun _ h => absurd h List.not_mem_nil⟩

theorem WellKeyed.set (h : t.WellKeyed) (hv : v.WellKeyed) : (Table.set k v t).WellKeyed where
  keys := nodup_keys_set h.keys
  values := fun entry hentry => by
    rcases mem_set hentry with rfl | hentry
    · exact hv
    · exact h.values entry hentry

theorem WellKeyed.of_lookup (h : t.WellKeyed) (hv : t.lookup k = some v) : v.WellKeyed :=
  h.values (k, v) (mem_of_lookup hv)

/-- A name that is free can be added at the end. -/
theorem WellKeyed.append (h : t.WellKeyed) (hfree : t.lookup k = none) (hv : v.WellKeyed) :
    WellKeyed (t ++ [(k, v)]) where
  keys := by
    have hnew : k ∉ t.map Prod.fst := by
      rintro hmem
      obtain ⟨entry, hentry, rfl⟩ := List.mem_map.1 hmem
      exact bne_iff_ne.1 (List.lookup_eq_none_iff.1 hfree entry hentry) rfl
    rw [List.map_append, List.nodup_append]
    refine ⟨h.keys, List.nodup_cons.2 ⟨List.not_mem_nil, List.nodup_nil⟩, fun a ha b hb heq => ?_⟩
    have hk : b = k := List.mem_singleton.1 hb
    exact hnew (hk ▸ heq ▸ ha)
  values := fun entry hentry => by
    rcases List.mem_append.1 hentry with hentry | hentry
    · exact h.values entry hentry
    · exact List.mem_singleton.1 hentry ▸ hv

end Table

namespace Toml

open Table (WellKeyed)

/-! ## Changes of tables -/

/-- A change of tables leaves each key once. -/
def KeepsKeys (f : Table → Option Table) : Prop :=
  ∀ ⦃t s : Table⦄, t.WellKeyed → f t = some s → s.WellKeyed

theorem KeepsKeys.addNew (name : String) {v : Value} (hv : v.WellKeyed) :
    KeepsKeys (addNew name v) := by
  intro t s ht hs
  unfold Toml.addNew at hs
  split at hs
  · cases hs
  · next hfree =>
    cases hs
    exact ht.append (Option.not_isSome_iff_eq_none.1 hfree) hv

theorem KeepsKeys.addToArray (name : String) : KeepsKeys (addToArray name) := by
  intro t s ht hs
  have hempty : (Value.dict []).WellKeyed := Value.wellKeyed_dict.2 .nil
  unfold Toml.addToArray at hs
  split at hs
  · next hfree =>
    cases hs
    exact ht.append hfree (.list fun item hitem => List.mem_singleton.1 hitem ▸ hempty)
  · next items hitems =>
    cases hs
    refine ht.set (.list fun item hitem => ?_)
    rcases List.mem_append.1 hitem with hitem | hitem
    · exact Value.wellKeyed_list.1 (ht.of_lookup hitems) item hitem
    · exact List.mem_singleton.1 hitem ▸ hempty
  · cases hs

/-- A change deep inside a table is one of every table on the way to it. -/
theorem KeepsKeys.modifyAt {f : Table → Option Table} (hf : KeepsKeys f) (throughArrays : Bool)
    (key : Key) : KeepsKeys (modifyAt throughArrays f key) := by
  induction key with
  | nil => exact hf
  | cons k rest ih =>
      intro t s ht hs
      rw [Toml.modifyAt] at hs
      split at hs
      · obtain ⟨inner, hinner, rfl⟩ := Option.map_eq_some_iff.1 hs
        exact ht.set (Value.wellKeyed_dict.2 (ih .nil hinner))
      · next old hold =>
        obtain ⟨inner, hinner, rfl⟩ := Option.map_eq_some_iff.1 hs
        have hold := Value.wellKeyed_dict.1 (ht.of_lookup hold)
        exact ht.set (Value.wellKeyed_dict.2 (ih hold hinner))
      · next items hitems =>
        -- Only the last item of an array changes, and only when it is a table.
        have hall := Value.wellKeyed_list.1 (ht.of_lookup hitems)
        split at hs
        · next old hlast =>
          obtain ⟨inner, hinner, rfl⟩ := Option.map_eq_some_iff.1 hs
          have hold := Value.wellKeyed_dict.1 (hall _ (List.mem_of_getLast? hlast))
          refine ht.set (.list fun item hitem => ?_)
          rcases List.mem_append.1 hitem with hitem | hitem
          · exact hall item (List.dropLast_subset items hitem)
          · exact List.mem_singleton.1 hitem ▸ Value.wellKeyed_dict.2 (ih hold hinner)
        · cases hs
      · cases hs

/-! ## Values -/

variable {cs rest : List Char} {v : Value}

theorem isCompound_of_based (h : based cs = some (v, rest)) : isCompound v = false := by
  unfold based at h
  split at h
  · obtain ⟨base, -, h⟩ := Option.bind_eq_some_iff.1 h
    obtain ⟨run, -, h⟩ := Option.bind_eq_some_iff.1 h
    cases h
    rfl
  · cases h

theorem isCompound_of_unsignedDecimal {negative : Bool}
    (h : unsignedDecimal negative cs = some (v, rest)) : isCompound v = false := by
  unfold unsignedDecimal at h
  dsimp only at h
  split at h
  -- What follows the digits in front of the point does not depend on how they were read.
  all_goals
    obtain ⟨whole, -, h⟩ := Option.bind_eq_some_iff.1 h
    split at h
    · split at h
      · cases h
      · cases h
        rfl
    · cases h
      rfl

theorem isCompound_of_number (h : number cs = some (v, rest)) : isCompound v = false := by
  unfold number at h
  rcases Option.or_eq_some_iff.1 h with h | ⟨-, h⟩
  · rcases Option.or_eq_some_iff.1 h with h | ⟨-, h⟩
    · exact isCompound_of_based h
    · unfold decimal at h
      split at h <;> exact isCompound_of_unsignedDecimal h
  · obtain ⟨word, -, h⟩ := List.exists_of_findSome?_eq_some h
    dsimp only at h
    split at h
    · cases h
      rfl
    · cases h

theorem isCompound_of_scalar (h : scalar cs = some (v, rest)) : isCompound v = false := by
  unfold scalar at h
  split at h
  · split at h
    · cases h
      rfl
    · cases h
  · split at h
    · cases h
      rfl
    · split at h
      · cases h
        rfl
      · split at h
        · cases h
          rfl
        · exact isCompound_of_number h

theorem Inline.wellKeyed_add {t s : Inline} {key : Key} (ht : t.table.WellKeyed)
    (hv : v.WellKeyed) (h : t.add key v = some s) : s.table.WellKeyed := by
  unfold Inline.add at h
  split at h
  · cases h
  · obtain ⟨table, htable, h⟩ := Option.bind_eq_some_iff.1 h
    cases h
    exact (KeepsKeys.addNew _ hv).modifyAt false _ ht htable

/-- What can be read with so much fuel has each key once. -/
structure Reads (fuel : Nat) : Prop where
  value : ∀ {depth cs v rest}, value depth fuel cs = some (v, rest) → v.WellKeyed
  elements : ∀ {depth cs items rest}, elements depth fuel cs = some (items, rest) →
    ∀ item ∈ items, item.WellKeyed
  members : ∀ {depth acc cs t rest}, acc.table.WellKeyed →
    members depth acc fuel cs = some (t, rest) → t.WellKeyed

variable {fuel depth : Nat}

theorem Reads.value_succ (hreads : Reads fuel)
    (h : Toml.value depth (fuel + 1) cs = some (v, rest)) : v.WellKeyed := by
  unfold Toml.value at h
  split at h
  · obtain ⟨text, -, h⟩ := Option.map_eq_some_iff.1 h
    cases h
    exact .plain rfl
  · obtain ⟨text, -, h⟩ := Option.map_eq_some_iff.1 h
    cases h
    exact .plain rfl
  · split at h
    · cases h
    · obtain ⟨⟨items, _⟩, hitems, h⟩ := Option.map_eq_some_iff.1 h
      cases h
      exact .list (hreads.elements hitems)
  · split at h
    · cases h
    · split at h
      · cases h
        exact Value.wellKeyed_dict.2 .nil
      · obtain ⟨⟨t, _⟩, ht, h⟩ := Option.map_eq_some_iff.1 h
        cases h
        exact Value.wellKeyed_dict.2 (hreads.members .nil ht)
  · exact .plain (isCompound_of_scalar h)

theorem Reads.elements_succ (hreads : Reads fuel) {items : List Value}
    (h : Toml.elements depth (fuel + 1) cs = some (items, rest)) :
    ∀ item ∈ items, item.WellKeyed := by
  unfold Toml.elements at h
  obtain ⟨start, -, h⟩ := Option.bind_eq_some_iff.1 h
  split at h
  · cases h
    exact fun item hitem => absurd hitem List.not_mem_nil
  · obtain ⟨⟨first, _⟩, hfirst, h⟩ := Option.bind_eq_some_iff.1 h
    obtain ⟨behind, -, h⟩ := Option.bind_eq_some_iff.1 h
    have hfirst := hreads.value hfirst
    split at h
    · obtain ⟨⟨more, _⟩, hmore, h⟩ := Option.bind_eq_some_iff.1 h
      cases h
      exact List.forall_mem_cons.2 ⟨hfirst, hreads.elements hmore⟩
    · cases h
      exact fun item hitem => List.mem_singleton.1 hitem ▸ hfirst
    · cases h

theorem Reads.members_succ (hreads : Reads fuel) {acc : Inline} {t : Table}
    (hacc : acc.table.WellKeyed) (h : Toml.members depth acc (fuel + 1) cs = some (t, rest)) :
    t.WellKeyed := by
  unfold Toml.members at h
  obtain ⟨⟨k, behind⟩, -, h⟩ := Option.bind_eq_some_iff.1 h
  dsimp only at h
  split at h
  · obtain ⟨⟨v, _⟩, hv, h⟩ := Option.bind_eq_some_iff.1 h
    obtain ⟨next, hnext, h⟩ := Option.bind_eq_some_iff.1 h
    have hnext := Inline.wellKeyed_add hacc (hreads.value hv) hnext
    split at h
    · exact hreads.members hnext h
    · cases h
      exact hnext
    · cases h
  · cases h

/-- Arrays and inline tables are read with less fuel than what they stand in. -/
theorem reads_all (fuel : Nat) : Reads fuel := by
  induction fuel with
  | zero =>
      exact {
        value := fun h => by rw [Toml.value] at h; cases h
        elements := fun h => by rw [Toml.elements] at h; cases h
        members := fun _ h => by rw [Toml.members] at h; cases h }
  | succ fuel ih => exact ⟨ih.value_succ, ih.elements_succ, ih.members_succ⟩

/-! ## Documents -/

variable {d e : Document} {key : Key}

theorem Document.wellKeyed_add (hd : d.table.WellKeyed) (hv : v.WellKeyed)
    (h : d.add key v = some e) : e.table.WellKeyed := by
  unfold Document.add at h
  dsimp only at h
  split at h
  · cases h
  · obtain ⟨table, htable, h⟩ := Option.bind_eq_some_iff.1 h
    cases h
    exact (KeepsKeys.addNew _ hv).modifyAt true _ hd htable

theorem Document.wellKeyed_openTable (hd : d.table.WellKeyed) (h : d.openTable key = some e) :
    e.table.WellKeyed := by
  have hsome : KeepsKeys some := by
    intro t s ht hs
    cases hs
    exact ht
  unfold Document.openTable at h
  split at h
  · cases h
  · obtain ⟨table, htable, h⟩ := Option.bind_eq_some_iff.1 h
    cases h
    exact hsome.modifyAt true _ hd htable

theorem Document.wellKeyed_openElement (hd : d.table.WellKeyed) (h : d.openElement key = some e) :
    e.table.WellKeyed := by
  unfold Document.openElement at h
  split at h
  · cases h
  · obtain ⟨table, htable, h⟩ := Option.bind_eq_some_iff.1 h
    cases h
    exact (KeepsKeys.addToArray _).modifyAt true _ hd htable

theorem wellKeyed_line (hd : d.table.WellKeyed) (h : line d cs = some (e, rest)) :
    e.table.WellKeyed := by
  unfold line at h
  split at h
  · obtain ⟨head, -, h⟩ := Option.bind_eq_some_iff.1 h
    obtain ⟨opened, hopened, h⟩ := Option.bind_eq_some_iff.1 h
    split at h
    · cases h
      exact Document.wellKeyed_openElement (d := d.closeSection) hd hopened
    · cases h
  · obtain ⟨head, -, h⟩ := Option.bind_eq_some_iff.1 h
    obtain ⟨opened, hopened, h⟩ := Option.bind_eq_some_iff.1 h
    split at h
    · cases h
      exact Document.wellKeyed_openTable (d := d.closeSection) hd hopened
    · cases h
  · cases h
    exact hd
  · cases h
    exact hd
  · cases h
    exact hd
  · obtain ⟨⟨k, behind⟩, -, h⟩ := Option.bind_eq_some_iff.1 h
    dsimp only at h
    split at h
    · obtain ⟨⟨v, _⟩, hv, h⟩ := Option.bind_eq_some_iff.1 h
      obtain ⟨added, hadded, h⟩ := Option.bind_eq_some_iff.1 h
      cases h
      exact Document.wellKeyed_add hd ((reads_all _).value hv) hadded
    · cases h

theorem wellKeyed_lines (fuel : Nat) (hd : d.table.WellKeyed) (h : lines d fuel cs = some e) :
    e.table.WellKeyed := by
  induction fuel generalizing d cs with
  | zero => cases h
  | succ fuel ih =>
      rw [lines] at h
      obtain ⟨⟨next, _⟩, hnext, h⟩ := Option.bind_eq_some_iff.1 h
      obtain ⟨behind, -, h⟩ := Option.bind_eq_some_iff.1 h
      have hnext := wellKeyed_line hd hnext
      split at h
      · cases h
        exact hnext
      · exact ih hnext h
      · cases h

/-- In the table of a document every table has each key once, at every depth. -/
theorem wellKeyed_of_parse {t : Table} (h : parse cs = some t) : t.WellKeyed := by
  obtain ⟨d, hd, rfl⟩ := Option.map_eq_some_iff.1 h
  exact wellKeyed_lines _ .nil hd

end Toml

end LayerLint
