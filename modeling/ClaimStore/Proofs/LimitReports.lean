import ClaimStore.Proofs.EntryKeeper

/-!
# What the limits of a table report

A table refuses what its limits leave no room for, and says how much was asked for and how much
there was: an entry that is one too many, or the bytes by which a value was to become longer. The
numbers are those at the moment of the refusal, and the second is always below the first.

## Main definitions

* `EntryTable.lengthAt` — the length of the value under a key.
* `EntryTable.Refuses` — the reports about a value of some length under a key.

## Main results

* `EntryTable.resizeValue_error`, `EntryTable.appendValue_error` — reports about a growth.
* `EntryTable.getOrInsert_error` — reports about an entry.
* `EntryTable.refuses_withEntry` — reports about an open.
-/

set_option autoImplicit false

namespace ClaimStore

namespace EntryTable

section Growth

variable {K : Type} {t : EntryTable K} {e : EntryId} {x : ContentError}

/-- **A value that cannot become so long** stays below the limit by less than what it lacks. -/
lemma resizeValue_error {n : UInt64} (hlt : (t.value e).size < 2 ^ 64)
    (h : t.resizeValue e n = .error x) :
    x = .capacityExceeded (n.toNat - (t.value e).size) t.budget.room ∧
      t.budget.room < n.toNat - (t.value e).size := by
  unfold resizeValue at h
  cases ha : t.budget.adjust (UInt64.ofNat (t.value e).size) n with
  | ok b =>
    rw [ha] at h
    cases h
  | error y =>
    rw [ha] at h
    obtain rfl := Except.error.inj h
    have hreport := Budget.adjust_report ha
    rwa [UInt64.toNat_ofNat_of_lt' hlt] at hreport

/-- **Bytes that cannot be appended** are more than the limit leaves. -/
lemma appendValue_error {bytes : Bytes} (hlt : bytes.size < 2 ^ 64)
    (h : t.appendValue e bytes = .error x) :
    x = .capacityExceeded bytes.size t.budget.room ∧ t.budget.room < bytes.size := by
  unfold appendValue at h
  cases ha : t.budget.allocate (UInt64.ofNat bytes.size) with
  | ok b =>
    rw [ha] at h
    cases h
  | error y =>
    rw [ha] at h
    obtain rfl := Except.error.inj h
    have hreport := Budget.allocate_report ha
    rwa [UInt64.toNat_ofNat_of_lt' hlt] at hreport

/-- Entering the lock of a value changes neither the value nor the budget. -/
lemma same_tryWrite {t' : EntryTable K} (h : t.tryWrite e = some t') :
    t'.value e = t.value e ∧ t'.budget = t.budget := by
  obtain ⟨c, -, -, -, rfl⟩ := tryWrite_eq_some h
  exact ⟨value_modify_eq (f := fun d => { d with lock := { c.lock with writer := true } })
    (fun _ => rfl) e, rfl⟩

variable [DecidableEq K]

/-- **An entry that cannot be borrowed** is one that is missing, in a table that is full. -/
lemma getOrInsert_error {key : K} (ht : t.budget.Within) (h : t.getOrInsert key = .error x) :
    x = .capacityExceeded 1 0 ∧ t.find? key = none ∧ t.budget.entries = t.budget.maxCount := by
  unfold getOrInsert borrow at h
  cases hf : t.find? key with
  | some e =>
    rw [hf] at h
    cases h
  | none =>
    rw [hf] at h
    cases hb : t.budget.admitEntry with
    | ok b =>
      rw [Option.map_none, hb] at h
      cases h
    | error y =>
      rw [Option.map_none, hb] at h
      obtain rfl := Except.error.inj h
      obtain ⟨hreport, hfull⟩ := Budget.admitEntry_report ht hb
      exact ⟨hreport, rfl, hfull⟩

end Growth

/-! ### Opens -/

section Opens

variable {K : Type} [DecidableEq K]

/-- The length of the value under a key, zero where there is none. -/
def lengthAt (t : EntryTable K) (key : K) : Nat :=
  match t.find? key with
  | some e => (t.value e).size
  | none => 0

/-- The reports of a table about a value of `n` bytes that is asked for under a key. -/
inductive Refuses (t : EntryTable K) (key : K) (n : Nat) : ContentError → Prop where
  /-- The entry is missing, and it would be one too many. -/
  | count (hmissing : t.find? key = none) (hfull : t.budget.entries = t.budget.maxCount) :
    Refuses t key n (.capacityExceeded 1 0)
  /-- The value would become longer by more bytes than the limit leaves. -/
  | bytes (hroom : t.budget.room < n - t.lengthAt key) :
    Refuses t key n (.capacityExceeded (n - t.lengthAt key) t.budget.room)

variable {κ : Type} [DecidableEq κ] {t t' : EntryTable (Key κ)} {x : String}

/-- An entry that was borrowed, or made, has the value that is stored under its key, and the bytes
in use and their limit are as before. -/
lemma getOrInsert_value (ht : t.Exact) {key : Key κ} {e : EntryId} {b : EntryTable (Key κ)}
    (h : t.getOrInsert key = .ok (e, b)) :
    (b.value e).size = t.lengthAt key ∧ b.budget.room = t.budget.room := by
  have hvalue : ∀ t' : EntryTable (Key κ), (t'.takeOwner e).value e = t'.value e := fun t' =>
    value_modify_eq (t := t') (f := fun c => { c with owners := c.owners + 1 }) (fun _ => rfl) e
  unfold lengthAt
  rcases getOrInsert_ok h with ⟨hf, rfl⟩ | ⟨hf, rfl, b', hb, rfl⟩
  · rw [hf, hvalue]
    exact ⟨rfl, rfl⟩
  · obtain ⟨-, hbytes, ⟨hlimit, -⟩, -⟩ := Budget.admitEntry_ok ht.within hb
    rw [hf, hvalue, value_insertNew_self]
    refine ⟨rfl, ?_⟩
    show b'.maxBytes.toNat - b'.bytesUsed.toNat = _
    rw [hlimit, hbytes]
    rfl

/-- **What an open reports where there is no room.** The lock answers for want of room as a change
to `n` bytes would. -/
lemma refuses_withEntry (ht : t.Sound) {n : UInt64} {requested available : Nat}
    {lock : EntryTable (Key κ) → EntryId → Except ContentError (EntryTable (Key κ))}
    (hlock : ∀ {b e}, lock b e = .error (.capacityExceeded requested available) →
      ∃ locked, b.tryWrite e = some locked ∧
        locked.resizeValue e n = .error (.capacityExceeded requested available))
    (h : Store.withEntry t x lock = (t', .error (.capacityExceeded requested available))) :
    t.Refuses (.text x) n.toNat (.capacityExceeded requested available) := by
  unfold Store.withEntry at h
  dsimp only at h
  cases hg : t.getOrInsert (.text x) with
  | error y =>
    rw [hg] at h
    obtain ⟨-, herror⟩ := Prod.mk.inj h
    obtain rfl := Except.error.inj herror
    obtain ⟨hreport, hf, hfull⟩ := getOrInsert_error ht.within hg
    rw [hreport]
    exact .count hf hfull
  | ok r =>
    obtain ⟨e, b⟩ := r
    rw [hg] at h
    dsimp only at h
    cases hl : lock b e with
    | ok locked =>
      rw [hl] at h
      cases h
    | error y =>
      rw [hl] at h
      obtain ⟨-, herror⟩ := Prod.mk.inj h
      obtain rfl := Except.error.inj herror
      obtain ⟨locked, hwrite, hgrow⟩ := hlock hl
      obtain ⟨hsize, hroom⟩ := getOrInsert_value ht.toExact hg
      obtain ⟨hvalue, hbudget⟩ := same_tryWrite hwrite
      have hlt : (locked.value e).size < 2 ^ 64 := by
        rw [hvalue]
        exact (ht.getOrInsert hg).size_value_lt (stored_getOrInsert hg)
      obtain ⟨hreport, hless⟩ := resizeValue_error hlt hgrow
      rw [hvalue, hsize, hbudget, hroom] at hreport hless
      rw [hreport]
      exact .bytes hless

omit [DecidableEq κ] in
/-- A mapping is refused for want of room as a change of length is. -/
lemma lockFor_full [ToString κ] {e : EntryId} {n : UInt64} {requested available : Nat}
    (h : t.lockFor e n false = .error (.capacityExceeded requested available)) :
    ∃ locked, t.tryWrite e = some locked ∧
      locked.resizeValue e n = .error (.capacityExceeded requested available) := by
  simp only [lockFor, Bool.false_eq_true, if_false] at h
  cases hl : t.tryWrite e with
  | none =>
    rw [hl] at h
    cases h
  | some locked =>
    rw [hl] at h
    exact ⟨locked, rfl, h⟩

omit [DecidableEq κ] in
/-- So is a writer, which asks for no bytes. -/
lemma lockForWriter_full {e : EntryId} {append : Bool} {requested available : Nat}
    (h : t.lockForWriter e x append = .error (.capacityExceeded requested available)) :
    ∃ locked, t.tryWrite e = some locked ∧
      locked.resizeValue e 0 = .error (.capacityExceeded requested available) := by
  unfold lockForWriter at h
  cases hl : t.tryWrite e with
  | none =>
    rw [hl] at h
    cases h
  | some locked =>
    rw [hl] at h
    cases append with
    | true => cases h
    | false => exact ⟨locked, rfl, h⟩

end Opens

end EntryTable

end ClaimStore
