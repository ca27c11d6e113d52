import ClaimStore.Proofs.Counting
import ClaimStore.Proofs.EntryContents
import ClaimStore.Proofs.EntryFrames

/-!
# Opens of entries that are refused

A lock keeps out readers exactly while a writer is inside, and writers exactly while anybody is. No
other step of an open of a stored entry fails for that reason, so an open answers that a writer is
active exactly where the lock, or the lease of a writer, keeps it out.

## Main definitions

* `ClaimStore.failureKind?` — the kind of failure that an answer is.

## Main results

* `EntryTable.tryRead_eq_none_iff`, `EntryTable.tryWrite_eq_none_iff` — who is kept out of a lock.
* `Store.refused_readInTable_iff`, `Store.refused_mapInTable_iff` — reads that are refused.
* `Store.refused_writeInTable_iff`, `Store.refused_mapInTable_writable_iff` — writes that are
  refused.
-/

set_option autoImplicit false

namespace ClaimStore

/-- The kind of failure that an answer is, if it is one that callers branch on. -/
def failureKind? {α : Type} : Except Failure α → Option ErrorKind
  | .error f => f.kind?
  | .ok _ => none

/-- The kind of failure that an operation on entries answers with. -/
def contentKind? {α : Type} : Except ContentError α → Option ErrorKind
  | .error x => some x.kind
  | .ok _ => none

namespace EntryTable

section Locks

variable {K : Type} {t : EntryTable K} {e : EntryId}

/-- **A reader is kept out** of a lock exactly by a writer inside. -/
lemma tryRead_eq_none_iff (he : e < t.cells.length) :
    t.tryRead e = none ↔ 0 < t.tally e .writeLock := by
  have hc := List.getElem?_eq_getElem he
  cases hw : (t.cells[e]).lock.writer <;>
    simp [tryRead, tally, hc, Lock.tryRead, Entry.tally, hw]

/-- **A writer is kept out** of a lock exactly by anybody inside. -/
lemma tryWrite_eq_none_iff (he : e < t.cells.length) :
    t.tryWrite e = none ↔ 0 < t.tally e .readLock ∨ 0 < t.tally e .writeLock := by
  have hc := List.getElem?_eq_getElem he
  cases hw : (t.cells[e]).lock.writer <;>
    simp [tryWrite, tally, hc, Lock.tryWrite, Entry.tally, hw, Nat.pos_iff_ne_zero]

/-- A change of length is refused for another reason. -/
lemma kind_resizeValue (t : EntryTable K) (e : EntryId) (n : UInt64) :
    contentKind? (t.resizeValue e n) ≠ some .writerActive := by
  unfold resizeValue
  split
  · next x hx =>
    obtain ⟨requested, available, rfl⟩ := Budget.adjust_error hx
    nofun
  · nofun

/-- An owner is inside no lock. -/
lemma tally_takeOwner_of_lock {p : Share} (hp : p ≠ .owner) (t : EntryTable K) (e e' : EntryId) :
    (t.takeOwner e).tally e' p = t.tally e' p :=
  tally_modify_of_lock (f := fun c => { c with owners := c.owners + 1 }) (fun _ => rfl) hp e e'

end Locks

section Opens

variable {κ : Type} {t : EntryTable (Key κ)} {e : EntryId}

/-- **A read-only mapping is refused** for a writer exactly where it is kept out of the lock. -/
lemma refused_lockFor_readOnly [ToString κ] (t : EntryTable (Key κ)) (e : EntryId) (n : UInt64) :
    contentKind? (t.lockFor e n true) = some .writerActive ↔ t.tryRead e = none := by
  simp only [lockFor, if_true]
  cases t.tryRead e with
  | none => exact iff_of_true rfl rfl
  | some locked =>
    refine iff_of_false ?_ (by simp)
    dsimp only
    split <;> simp [contentKind?, ContentError.kind]

/-- So is a writable one. -/
lemma refused_lockFor_writable [ToString κ] (t : EntryTable (Key κ)) (e : EntryId) (n : UInt64) :
    contentKind? (t.lockFor e n false) = some .writerActive ↔ t.tryWrite e = none := by
  simp only [lockFor, Bool.false_eq_true, if_false]
  cases t.tryWrite e with
  | none => exact iff_of_true rfl rfl
  | some locked => exact iff_of_false (kind_resizeValue locked e n) (by simp)

/-- So is a writer. -/
lemma refused_lockForWriter (t : EntryTable (Key κ)) (e : EntryId) (identifier : String)
    (append : Bool) :
    contentKind? (t.lockForWriter e identifier append) = some .writerActive ↔
      t.tryWrite e = none := by
  unfold lockForWriter
  cases t.tryWrite e with
  | none => exact iff_of_true rfl rfl
  | some locked =>
    refine iff_of_false ?_ nofun
    dsimp only
    split
    · nofun
    · exact kind_resizeValue locked e 0

/-- An open of a stored entry answers as its lock does. -/
lemma kind_withEntry [DecidableEq κ] {identifier : String}
    (lock : EntryTable (Key κ) → EntryId → Except ContentError (EntryTable (Key κ)))
    (hf : t.find? (.text identifier) = some e) :
    contentKind? (Store.withEntry t identifier lock).2 =
      contentKind? (lock (t.takeOwner e) e) := by
  have hborrow : t.getOrInsert (.text identifier) = .ok (e, t.takeOwner e) := by
    rw [getOrInsert, borrow, hf, Option.map_some]
  unfold Store.withEntry
  rw [hborrow]
  dsimp only
  cases lock (t.takeOwner e) e <;> rfl

end Opens

end EntryTable

namespace Store

variable {κ : Type} [DecidableEq κ] {s : Store κ} {t : TableId} {e : EntryId} {c : ClaimId}
  (hf : (s.table t).find? (.text (s.identifier c)) = some e)
include hf

/-- The stored entry is borrowed. -/
lemma borrow_stored : (s.table t).borrow (.text (s.identifier c)) =
    some (e, (s.table t).takeOwner e) := by
  rw [EntryTable.borrow, hf, Option.map_some]

/-- A lock of the borrowed entry keeps a reader out exactly if there is a writer. -/
lemma tryRead_borrowed : ((s.table t).takeOwner e).tryRead e = none ↔
    0 < (s.table t).tally e .writeLock := by
  have hlt := (EntryTable.stored_of_find? hf).lt
  rw [EntryTable.tryRead_eq_none_iff (by rwa [EntryTable.takeOwner, EntryTable.length_modify]),
    EntryTable.tally_takeOwner_of_lock (p := .writeLock) nofun]

/-- It keeps a writer out exactly if there is anybody. -/
lemma tryWrite_borrowed : ((s.table t).takeOwner e).tryWrite e = none ↔
    0 < (s.table t).tally e .readLock ∨ 0 < (s.table t).tally e .writeLock := by
  have hlt := (EntryTable.stored_of_find? hf).lt
  rw [EntryTable.tryWrite_eq_none_iff (by rwa [EntryTable.takeOwner, EntryTable.length_modify]),
    EntryTable.tally_takeOwner_of_lock (p := .readLock) nofun,
    EntryTable.tally_takeOwner_of_lock (p := .writeLock) nofun]

/-- **A reader of a stored claim is refused** for a writer exactly if one is inside the lock. -/
lemma refused_readInTable_iff : failureKind? (s.readInTable t c).2 = some .writerActive ↔
    0 < (s.table t).tally e .writeLock := by
  rw [← tryRead_borrowed hf]
  unfold readInTable
  dsimp only
  rw [borrow_stored hf]
  dsimp only
  cases ((s.table t).takeOwner e).tryRead e with
  | none => exact iff_of_true rfl rfl
  | some locked => exact iff_of_false nofun nofun

/-- **So is a read-only mapping.** -/
lemma refused_mapInTable_iff [ToString κ] (w : RegistryId) (n : UInt64) :
    failureKind? (s.mapInTable t w c n true).2 = some .writerActive ↔
      0 < (s.table t).tally e .writeLock := by
  rw [← tryRead_borrowed hf, ← EntryTable.refused_lockFor_readOnly _ _ n]
  unfold mapInTable
  simp only [if_true]
  rw [borrow_stored hf]
  dsimp only
  cases ((s.table t).takeOwner e).lockFor e n true with
  | error x => exact Iff.rfl
  | ok locked => exact iff_of_false nofun nofun

omit [DecidableEq κ] hf in
/-- A lease that is refused is taken. -/
lemma takeWriteLease_error {f : Failure} {w : RegistryId} {x : String}
    (h : s.takeWriteLease w x = .error f) :
    f.kind? = some .writerActive ∧ (s.writerRegistry w).isWriting x = true := by
  unfold takeWriteLease WriterRegistry.acquire at h
  split at h
  · next y hy =>
    obtain rfl := Except.error.inj h
    split at hy
    · next hw =>
      obtain rfl := Except.error.inj hy
      exact ⟨rfl, hw⟩
    · cases hy
  · cases h

omit [DecidableEq κ] hf in
/-- A lease that is given out was free. -/
lemma isWriting_of_takeWriteLease {w : RegistryId} {x : String} {s' : Store κ}
    (h : s.takeWriteLease w x = .ok s') : (s.writerRegistry w).isWriting x = false := by
  obtain ⟨r, hr, -⟩ := takeWriteLease_ok h
  unfold WriterRegistry.acquire at hr
  split at hr
  · cases hr
  · next hw => exact Bool.eq_false_iff.2 hw

omit [DecidableEq κ] hf in
/-- An open that takes a lease and then answers as an open of an entry is refused where one of the
two is. -/
lemma refused_leased_iff {w : RegistryId} {x : String} {ans : Except Failure HandleId}
    {α : Type} {opened : Except ContentError α}
    (herror : ∀ f, s.takeWriteLease w x = .error f → ans = .error f)
    (hok : ∀ leased, s.takeWriteLease w x = .ok leased → failureKind? ans = contentKind? opened) :
    failureKind? ans = some .writerActive ↔
      (s.writerRegistry w).isWriting x = true ∨ contentKind? opened = some .writerActive := by
  cases hl : s.takeWriteLease w x with
  | error f =>
    obtain ⟨hkind, hw⟩ := takeWriteLease_error hl
    rw [herror f hl]
    exact iff_of_true hkind (.inl hw)
  | ok leased =>
    rw [hok leased hl, isWriting_of_takeWriteLease hl]
    simp only [Bool.false_eq_true, false_or]

/-- **A writer to a stored claim is refused** for another one exactly if the lease is taken or
anybody is inside the lock. -/
lemma refused_writeInTable_iff (w : RegistryId) (append : Bool) :
    failureKind? (s.writeInTable t w c append).2 = some .writerActive ↔
      (s.writerRegistry w).isWriting (s.identifier c) = true ∨
        0 < (s.table t).tally e .readLock ∨ 0 < (s.table t).tally e .writeLock := by
  rw [← tryWrite_borrowed hf, ← EntryTable.refused_lockForWriter _ _ (s.identifier c) append,
    ← EntryTable.kind_withEntry (fun x y => x.lockForWriter y (s.identifier c) append) hf]
  refine refused_leased_iff (fun f hl => ?_) fun leased hl => ?_
  · simp only [writeInTable, hl]
  · simp only [writeInTable, hl]
    split <;> next heq => rw [heq]; rfl

/-- **So is a writable mapping.** -/
lemma refused_mapInTable_writable_iff [ToString κ] (w : RegistryId) (n : UInt64) :
    failureKind? (s.mapInTable t w c n false).2 = some .writerActive ↔
      (s.writerRegistry w).isWriting (s.identifier c) = true ∨
        0 < (s.table t).tally e .readLock ∨ 0 < (s.table t).tally e .writeLock := by
  rw [← tryWrite_borrowed hf, ← EntryTable.refused_lockFor_writable _ _ n,
    ← EntryTable.kind_withEntry (fun x y => x.lockFor y n false) hf]
  refine refused_leased_iff (fun f hl => ?_) fun leased hl => ?_
  · simp only [mapInTable, Bool.false_eq_true, if_false, hl]
  · simp only [mapInTable, Bool.false_eq_true, if_false, hl]
    split <;> next heq => rw [heq]; rfl

end Store

end ClaimStore
