import ClaimStore.Proofs.SoundSteps

/-!
# Exact accounting

The budget of a table has in use precisely what the table stores, in every state that callers can
reach: the bytes of all values, and one place for each key. So nothing that is ever given back is
more than what is in use, and no release stops at zero before its time.

## Main definitions

* `EntryTable.Covered` — what can be given back is in use.
* `EntryTable.Accounted` — the budget of a table is exact.

## Main results

* `EntryTable.Sound.accounted` — the budget of a sound table is exact.
* `Store.accounting_run` — so is every budget after every run from an empty store.
-/

set_option autoImplicit false

namespace ClaimStore

namespace EntryTable

variable {K : Type}

/-- Whatever the table can give back is in use: the bytes by which a stored value becomes shorter,
and the bytes and the place of an entry that is found under a key. -/
structure Covered [DecidableEq K] (t : EntryTable K) : Prop where
  /-- The bytes by which a stored value becomes shorter are in use. -/
  resize_le : ∀ e n, t.Stored e → n ≤ UInt64.ofNat (t.value e).size →
    UInt64.ofNat (t.value e).size - n ≤ t.budget.bytesUsed
  /-- The bytes of an entry that can be removed are in use. -/
  remove_le : ∀ key e, t.find? key = some e → UInt64.ofNat (t.len e) ≤ t.budget.bytesUsed
  /-- The place of an entry that can be removed is in use. -/
  one_le : ∀ key e, t.find? key = some e → 1 ≤ t.budget.entries

/-- The budget of a table has in use precisely what the table stores. -/
structure Accounted [DecidableEq K] (t : EntryTable K) : Prop where
  /-- The bytes in use are the bytes of all values in the table. -/
  bytes_eq : t.budget.bytesUsed.toNat = (t.entries.map (·.value.size)).sum
  /-- The length that an entry shows is the length of its value. -/
  len_eq : ∀ e, t.len e = (t.value e).size
  /-- The entries in use are the keys in the table. -/
  entries_eq : t.budget.entries.toNat = (t.entries.map (·.key)).length
  /-- Each key is in the table once. -/
  keys_nodup : (t.entries.map (·.key)).Nodup
  /-- The bytes in use are at most what the limit allows. -/
  bytes_le : t.budget.bytesUsed ≤ t.budget.maxBytes
  /-- The entries in use are at most what the limit allows. -/
  entries_le : t.budget.entries ≤ t.budget.maxCount
  /-- What can be given back is in use. -/
  covered : t.Covered
  /-- So it is in the middle of an open: once the entry is borrowed, once it is locked too, and
  once the borrow is given back after a failure. -/
  covered_open : ∀ key e b, t.getOrInsert key = .ok (e, b) →
    b.Covered ∧ (∀ locked, b.tryWrite e = some locked → locked.Covered) ∧ (b.dropOwner e).Covered

/-- **In a sound table, what can be given back is in use.** -/
lemma Sound.covered [DecidableEq K] {t : EntryTable K} (ht : t.Sound) : t.Covered := by
  have hlen : ∀ e, t.Stored e → t.len e = (t.value e).size := by
    rintro e ⟨c, hc, -⟩
    rw [len, value, hc]
    exact ht.len_eq c (List.mem_of_getElem? hc)
  have hword : ∀ e, t.Stored e → (UInt64.ofNat (t.value e).size).toNat = (t.value e).size :=
    fun e he => UInt64.toNat_ofNat_of_lt' (ht.toExact.size_value_lt he)
  refine ⟨fun e n he hn => ?_, fun key e hf => ?_, fun key e hf => ?_⟩
  · rw [UInt64.le_iff_toNat_le, UInt64.toNat_sub_of_le _ _ hn, hword e he]
    exact Nat.le_trans (Nat.sub_le _ _) (ht.toExact.size_value_le he)
  · have he := stored_of_find? hf
    rw [UInt64.le_iff_toNat_le, hlen e he, hword e he]
    exact ht.toExact.size_value_le he
  · rw [UInt64.le_iff_toNat_le]
    exact ht.toExact.entries_pos (stored_of_find? hf)

/-- The keys of a regular table are different. -/
lemma Regular.keys_nodup {t : EntryTable K} (ht : t.Regular) :
    (t.entries.map (·.key)).Nodup := by
  have hpair : t.cells.Pairwise fun c d => c.stored = true → d.stored = true → c.key ≠ d.key := by
    refine List.pairwise_iff_getElem.2 fun i j hi hj hij hc hd hk => ?_
    have := ht.key_inj i j _ _ (List.getElem?_eq_getElem hi) (List.getElem?_eq_getElem hj) hc hd hk
    exact Nat.ne_of_lt hij this
  have hkept : t.entries.Pairwise fun c d => c.key ≠ d.key :=
    List.pairwise_filter.2 (hpair.imp fun h hc hd => h hc hd)
  exact List.pairwise_map.2 hkept

/-- **The budget of a sound table is exact.** -/
lemma Sound.accounted [DecidableEq K] {t : EntryTable K} (ht : t.Sound) : t.Accounted where
  bytes_eq := ht.bytes_eq
  len_eq e := by
    unfold len value
    cases hc : t.cells[e]? with
    | none => rfl
    | some c => exact ht.len_eq c (List.mem_of_getElem? hc)
  entries_eq := by
    rw [ht.entries_eq, size, List.length_map, entries, List.countP_eq_length_filter]
  keys_nodup := ht.toRegular.keys_nodup
  bytes_le := UInt64.le_iff_toNat_le.2 ht.within.bytes_le
  entries_le := UInt64.le_iff_toNat_le.2 ht.within.entries_le
  covered := ht.covered
  covered_open key e b h :=
    have hb := ht.getOrInsert h
    ⟨hb.covered, fun _ hl => (hb.tryWrite hl).covered, (hb.dropOwner e).covered⟩

end EntryTable

namespace Store

variable {κ : Type} [DecidableEq κ] [ToString κ]

/-- **Exact accounting in every reachable state.** After every run, the budget of every table has
in use precisely what the table stores, within its limits; and the entries that live handles can
lengthen or shorten are stored, so that nothing is accounted for outside the table. -/
theorem accounting_run (name : String) (ops : List (Operation κ)) (t : TableId) :
    (((onDirectory name).run ops).table t).Accounted ∧
      ∀ h x e, ((onDirectory name).run ops).handle? h = some x → .owner t e ∈ x.resources →
        (((onDirectory name).run ops).table t).Stored e :=
  have hs := sound_run name ops
  ⟨(hs.tables_sound t).accounted, fun _ _ _ hx hmem => hs.stored hx hmem⟩

end Store

end ClaimStore
