import ClaimStore.Proofs.EntryKeeper

/-!
# Room in an entry table

Only the limits of a table refuse a writable mapping of an entry for want of room. Where they leave
room for the entry, if it is a new one, and for the bytes by which its value becomes longer, they do
not refuse it.

## Main definitions

* `EntryTable.HasRoom` — the limits leave room for a value of some length.

## Main results

* `EntryTable.HasRoom.not_isFull` — what there is room for is not refused.
-/

set_option autoImplicit false

namespace ClaimStore.EntryTable

variable {κ : Type} [DecidableEq κ] {t : EntryTable (Key κ)} {x : String} {n : UInt64}

/-- **The limits of the table leave room** for a value of `n` bytes under an identifier, in place of
the one that is there. -/
structure HasRoom (t : EntryTable (Key κ)) (x : String) (n : UInt64) : Prop where
  /-- One more entry is admitted where it is missing. -/
  entries_lt : t.find? (.text x) = none → t.budget.entries.toNat < t.budget.maxCount.toNat
  /-- So are the bytes by which the value becomes longer. -/
  bytes_le : t.budget.bytesUsed.toNat + n.toNat ≤
    t.budget.maxBytes.toNat + ((t.content x).getD .empty).size

/-- An entry that there is room for is borrowed. -/
lemma HasRoom.getOrInsert (hr : t.HasRoom x n) (ht : t.Exact) :
    ∃ e borrowed, t.getOrInsert (.text x) = .ok (e, borrowed) ∧
      borrowed.budget.bytesUsed = t.budget.bytesUsed ∧
        borrowed.budget.maxBytes = t.budget.maxBytes ∧
          borrowed.value e = (t.content x).getD .empty ∧ (borrowed.value e).size < 2 ^ 64 := by
  have hvalue : ∀ (t' : EntryTable (Key κ)) e, (t'.takeOwner e).value e = t'.value e := fun t' e =>
    value_modify_eq (f := fun c => { c with owners := c.owners + 1 }) (fun _ => rfl) e
  unfold EntryTable.getOrInsert borrow content
  cases hf : t.find? (.text x) with
  | some e =>
    have hlt := ht.size_value_lt (stored_of_find? hf)
    exact ⟨e, t.takeOwner e, rfl, rfl, rfl, hvalue t e, by rwa [hvalue]⟩
  | none =>
    obtain ⟨b, hb⟩ := Budget.admitEntry_of_room (hr.entries_lt hf)
    obtain ⟨-, hbytes, ⟨hlimit, -⟩, -⟩ := Budget.admitEntry_ok ht.within hb
    have hnew := (hvalue _ _).trans (value_insertNew_self t (.text x) b)
    simp only [Option.map_none, hb]
    exact ⟨_, (t.insertNew (.text x) b).takeOwner t.cells.length, rfl, hbytes, hlimit, hnew,
      by rw [hnew]; decide⟩

/-- **What there is room for is not refused** for want of it. -/
lemma HasRoom.not_isFull [ToString κ] (hr : t.HasRoom x n) (ht : t.Exact) :
    ¬ IsFull (Store.withEntry t x fun t' e => t'.lockFor e n false).2 := by
  rintro ⟨requested, available, h⟩
  obtain ⟨e, borrowed, hg, hbytes, hlimit, hvalue, hlt⟩ := hr.getOrInsert ht
  unfold Store.withEntry at h
  dsimp only at h
  rw [hg] at h
  dsimp only at h
  cases hlock : borrowed.lockFor e n false with
  | ok locked =>
    rw [hlock] at h
    cases h
  | error y =>
    rw [hlock] at h
    obtain rfl := Except.error.inj h
    simp only [lockFor, Bool.false_eq_true, if_false] at hlock
    split at hlock
    · cases hlock
    · next locked hwrite =>
      obtain ⟨c, -, -, -, rfl⟩ := tryWrite_eq_some hwrite
      have hsame := value_modify_eq (t := borrowed) (e := e)
        (f := fun d => { d with lock := { c.lock with writer := true } }) (fun _ => rfl) e
      have hroom : borrowed.budget.bytesUsed.toNat + n.toNat ≤ borrowed.budget.maxBytes.toNat +
          (UInt64.ofNat (borrowed.value e).size).toNat := by
        rw [UInt64.toNat_ofNat_of_lt' hlt, hbytes, hlimit, hvalue]
        exact hr.bytes_le
      obtain ⟨b', hb'⟩ := Budget.adjust_of_room hroom
      unfold resizeValue at hlock
      rw [hsame, show (borrowed.modify e _).budget = borrowed.budget from rfl, hb'] at hlock
      cases hlock

end ClaimStore.EntryTable
