import ClaimStore.Store.Volatile
import ClaimStore.Proofs.EntryBytes

/-!
# Opening entries

What an open of an entry does to its table: an ownership is taken and a place in the lock of the
value, or, where the open fails, nothing at all is taken. Sound tables stay sound either way.

## Main definitions

* `EntryTable.Locks` — a step that takes a place in the lock of an entry.

## Main results

* `EntryTable.locks_lockFor`, `EntryTable.locks_lockForWriter` — the steps of mappings and writers.
* `EntryTable.tally_withEntry_ok`, `EntryTable.tally_withEntry_error` — what an open takes.
* `EntryTable.Sound.withEntry` — an open keeps a table sound.
-/

set_option autoImplicit false

namespace ClaimStore.EntryTable

variable {K : Type}

/-! ### Sound tables -/

namespace Sound

/-- A table stays sound when an owner is counted. -/
lemma takeOwner {t : EntryTable K} (ht : t.Sound) {e : EntryId} (he : t.Stored e) :
    (t.takeOwner e).Sound :=
  ⟨ht.toRegular.takeOwner he, ht.toExact.takeOwner e⟩

/-- It stays sound when an owner leaves. -/
lemma dropOwner {t : EntryTable K} (ht : t.Sound) (e : EntryId) : (t.dropOwner e).Sound :=
  ⟨ht.toRegular.dropOwner e, ht.toExact.dropOwner e⟩

/-- It stays sound when a reader leaves. -/
lemma endRead {t : EntryTable K} (ht : t.Sound) (e : EntryId) : (t.endRead e).Sound :=
  ⟨ht.toRegular.modify_lock e fun c => c.lock.endRead,
    ht.toExact.modify_lock e fun c => c.lock.endRead⟩

/-- It stays sound when a writer leaves. -/
lemma endWrite {t : EntryTable K} (ht : t.Sound) (e : EntryId) : (t.endWrite e).Sound :=
  ⟨ht.toRegular.modify_lock e fun c => c.lock.endWrite,
    ht.toExact.modify_lock e fun c => c.lock.endWrite⟩

/-- It stays sound when a reader is let in. -/
lemma tryRead {t t' : EntryTable K} (ht : t.Sound) {e : EntryId} (h : t.tryRead e = some t') :
    t'.Sound :=
  ⟨ht.toRegular.tryRead h, ht.toExact.tryRead h⟩

/-- It stays sound when a writer is let in. -/
lemma tryWrite {t t' : EntryTable K} (ht : t.Sound) {e : EntryId} (h : t.tryWrite e = some t') :
    t'.Sound :=
  ⟨ht.toRegular.tryWrite h, ht.toExact.tryWrite h⟩

/-- It stays sound when a value is replaced by one of the same size. -/
lemma setValue {t : EntryTable K} (ht : t.Sound) {e : EntryId} {b : Bytes}
    (h : b.size = (t.value e).size) : (t.setValue e b).Sound :=
  ⟨ht.toRegular.setValue h, ht.toExact.setValue h⟩

/-- It stays sound when a value changes its length: the budget goes with it. -/
lemma resizeValue {t t' : EntryTable K} (ht : t.Sound) {e : EntryId} (he : t.Stored e)
    {n : UInt64} (h : t.resizeValue e n = .ok t') : t'.Sound :=
  ⟨ht.toRegular.resizeValue h, ht.toExact.resizeValue he h⟩

/-- It stays sound when a value is appended to: the budget goes with it. -/
lemma appendValue {t t' : EntryTable K} (ht : t.Sound) {e : EntryId} (he : t.Stored e)
    {b : Bytes} (hlt : b.size < 2 ^ 64) (h : t.appendValue e b = .ok t') : t'.Sound :=
  ⟨ht.toRegular.appendValue h, ht.toExact.appendValue he hlt h⟩

/-- It stays sound when an entry is borrowed, which may be made. -/
lemma getOrInsert [DecidableEq K] {t t' : EntryTable K} (ht : t.Sound) {key : K} {e : EntryId}
    (h : t.getOrInsert key = .ok (e, t')) : t'.Sound :=
  ⟨ht.toRegular.getOrInsert h, ht.toExact.getOrInsert h⟩

/-- It stays sound when an entry is taken out. -/
lemma remove [DecidableEq K] {t : EntryTable K} (ht : t.Sound) (key : K) :
    (t.remove key).2.Sound :=
  ⟨ht.toRegular.remove key, ht.toExact.remove ht.toRegular key⟩

end Sound

/-- An entry keeps its place in the table while another hold on its lock is taken. -/
lemma Stored.tryWrite {t t' : EntryTable K} {e e' : EntryId} (he : t.Stored e)
    (h : t.tryWrite e' = some t') : t'.Stored e := by
  obtain ⟨c, -, -, -, rfl⟩ := tryWrite_eq_some h
  exact he.modify fun _ => rfl

/-! ### Locking -/

/-- A step that, where it succeeds, takes a place of the sort `p` in the lock of an entry. -/
structure Locks (lock : EntryTable K → EntryId → Except ContentError (EntryTable K))
    (p : Share) : Prop where
  /-- One more place is given out, and nothing else. -/
  tally_eq : ∀ {t t' : EntryTable K} {e : EntryId}, lock t e = .ok t' → ∀ e' q,
    t'.tally e' q = t.tally e' q + if e' = e ∧ q = p then 1 else 0
  /-- A sound table that stores the entry stays sound. -/
  sound : ∀ {t t' : EntryTable K} {e : EntryId}, lock t e = .ok t' → t.Sound → t.Stored e →
    t'.Sound

/-- A writer that enters and changes the length takes the place of the writer. -/
lemma locks_writing (n : UInt64) {t t' locked : EntryTable K} {e : EntryId}
    (hl : t.tryWrite e = some locked) (h : locked.resizeValue e n = .ok t') :
    (∀ e' q, t'.tally e' q = t.tally e' q + if e' = e ∧ q = .writeLock then 1 else 0) ∧
      (t.Sound → t.Stored e → t'.Sound) := by
  refine ⟨fun e' q => ?_, fun ht he => ?_⟩
  · rw [tally_resizeValue h, tally_tryWrite hl]
  · exact (ht.tryWrite hl).resizeValue (he.tryWrite hl) h

variable {κ : Type}

/-- What a read-only mapping locks, and what it needs. -/
lemma lockFor_readOnly [ToString κ] {t t' : EntryTable (Key κ)} {e : EntryId} {n : UInt64}
    (h : t.lockFor e n true = .ok t') :
    t.tryRead e = some t' ∧ n.toNat ≤ (t.value e).size := by
  simp only [lockFor, if_true] at h
  cases hl : t.tryRead e with
  | none => simp [hl] at h
  | some locked =>
    simp only [hl] at h
    split at h
    · cases h
    · next hn => exact ⟨congrArg some (Except.ok.inj h), Nat.le_of_not_lt hn⟩

/-- What a writable mapping locks, and what it changes. -/
lemma lockFor_writable [ToString κ] {t t' : EntryTable (Key κ)} {e : EntryId} {n : UInt64}
    (h : t.lockFor e n false = .ok t') :
    ∃ locked, t.tryWrite e = some locked ∧ locked.resizeValue e n = .ok t' := by
  simp only [lockFor, Bool.false_eq_true, if_false] at h
  cases hl : t.tryWrite e with
  | none => simp [hl] at h
  | some locked => exact ⟨locked, rfl, by simpa only [hl] using h⟩

/-- What a mapping locks: as a reader where it is read-only, as the writer elsewhere. -/
lemma locks_lockFor [ToString κ] (n : UInt64) (readOnly : Bool) :
    Locks (fun (t : EntryTable (Key κ)) e => t.lockFor e n readOnly)
      (if readOnly then .readLock else .writeLock) := by
  cases readOnly with
  | true =>
    exact ⟨fun h e' q => tally_tryRead (lockFor_readOnly h).1 e' q,
      fun h ht _ => ht.tryRead (lockFor_readOnly h).1⟩
  | false =>
    refine ⟨fun h => ?_, fun h => ?_⟩
    · obtain ⟨locked, hl, hr⟩ := lockFor_writable h
      exact (locks_writing n hl hr).1
    · obtain ⟨locked, hl, hr⟩ := lockFor_writable h
      exact (locks_writing n hl hr).2

/-- What a writer locks, whether it appends or replaces. -/
lemma locks_lockForWriter (identifier : String) (append : Bool) :
    Locks (fun (t : EntryTable (Key κ)) e => t.lockForWriter e identifier append) .writeLock := by
  have key : ∀ {t t' : EntryTable (Key κ)} {e : EntryId},
      t.lockForWriter e identifier append = .ok t' → ∃ locked, t.tryWrite e = some locked ∧
        (locked = t' ∨ locked.resizeValue e 0 = .ok t') := by
    intro t t' e h
    unfold lockForWriter at h
    cases hl : t.tryWrite e with
    | none => simp [hl] at h
    | some locked =>
      refine ⟨locked, rfl, ?_⟩
      cases append with
      | true => exact .inl (by simpa [hl] using h)
      | false => exact .inr (by simpa [hl] using h)
  refine ⟨fun h => ?_, fun h => ?_⟩
  · obtain ⟨locked, hl, rfl | hr⟩ := key h
    · exact tally_tryWrite hl
    · exact (locks_writing 0 hl hr).1
  · obtain ⟨locked, hl, rfl | hr⟩ := key h
    · exact fun ht _ => ht.tryWrite hl
    · exact (locks_writing 0 hl hr).2

/-! ### Opens that make their entry -/

section WithEntry

variable [DecidableEq κ]
variable {t t' : EntryTable (Key κ)} {identifier : String} {p : Share}
variable {lock : EntryTable (Key κ) → EntryId → Except ContentError (EntryTable (Key κ))}

/-- An open that succeeds has borrowed the entry and locked it. -/
lemma withEntry_ok {e : EntryId} (h : Store.withEntry t identifier lock = (t', .ok e)) :
    ∃ b, t.getOrInsert (.text identifier) = .ok (e, b) ∧ lock b e = .ok t' := by
  unfold Store.withEntry at h
  cases hg : t.getOrInsert (.text identifier) with
  | error x => simp [hg] at h
  | ok r =>
    obtain ⟨e', b⟩ := r
    simp only [hg] at h
    cases hl : lock b e' with
    | error x => simp [hl] at h
    | ok locked =>
      simp only [hl, Prod.mk.injEq, Except.ok.injEq] at h
      obtain ⟨rfl, rfl⟩ := h
      exact ⟨b, rfl, hl⟩

/-- An open that fails has given its borrow back, and an entry that it made is taken out. -/
lemma withEntry_error {x : ContentError} (h : Store.withEntry t identifier lock = (t', .error x)) :
    t' = t ∨ ∃ e b, t.getOrInsert (.text identifier) = .ok (e, b) ∧
      (t' = b.dropOwner e ∨ t' = ((b.dropOwner e).remove (.text identifier)).2) := by
  unfold Store.withEntry at h
  cases hg : t.getOrInsert (.text identifier) with
  | error y =>
    simp only [hg, Prod.mk.injEq] at h
    exact .inl h.1.symm
  | ok r =>
    obtain ⟨e, b⟩ := r
    simp only [hg] at h
    cases hl : lock b e with
    | ok locked => simp [hl] at h
    | error y =>
      simp only [hl, Prod.mk.injEq] at h
      refine .inr ⟨e, b, rfl, ?_⟩
      split at h
      · exact .inr h.1.symm
      · exact .inl h.1.symm

/-- **An open that succeeds takes an ownership and a place in the lock.** -/
lemma tally_withEntry_ok (hlock : Locks lock p) {e : EntryId}
    (h : Store.withEntry t identifier lock = (t', .ok e)) (e' : EntryId) (q : Share) :
    t'.tally e' q = t.tally e' q + (if e' = e ∧ q = .owner then 1 else 0) +
      if e' = e ∧ q = p then 1 else 0 := by
  obtain ⟨b, hg, hl⟩ := withEntry_ok h
  rw [hlock.tally_eq hl, tally_getOrInsert hg]

/-- **An open that fails takes nothing.** -/
lemma tally_withEntry_error {x : ContentError}
    (h : Store.withEntry t identifier lock = (t', .error x)) (e' : EntryId) (q : Share) :
    t'.tally e' q = t.tally e' q := by
  rcases withEntry_error h with rfl | ⟨e, b, hg, rfl | rfl⟩
  · rfl
  · rw [tally_dropOwner, tally_getOrInsert hg, Nat.add_sub_cancel]
  · rw [tally_remove, tally_dropOwner, tally_getOrInsert hg, Nat.add_sub_cancel]

/-- **An open keeps a table sound**, whether it succeeds or fails. -/
lemma Sound.withEntry (ht : t.Sound) (hlock : Locks lock p) {r : Except ContentError EntryId}
    (h : Store.withEntry t identifier lock = (t', r)) : t'.Sound := by
  cases r with
  | ok e =>
    obtain ⟨b, hg, hl⟩ := withEntry_ok h
    exact hlock.sound hl (ht.getOrInsert hg) (stored_getOrInsert hg)
  | error x =>
    rcases withEntry_error h with rfl | ⟨e, b, hg, rfl | rfl⟩
    · exact ht
    · exact (ht.getOrInsert hg).dropOwner e
    · exact ((ht.getOrInsert hg).dropOwner e).remove _

end WithEntry

end ClaimStore.EntryTable
