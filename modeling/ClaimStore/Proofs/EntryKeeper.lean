import ClaimStore.Proofs.EntryContents
import ClaimStore.Proofs.Keeper

/-!
# Entries keep bytes

A volatile repository keeps the bytes of an identifier in the entry under it. Mappings, readers and
writers work on the value of the entry itself, under its lock, and every change of its length goes
through the budget of the table, which may refuse it.

## Main definitions

* `Store.HasEntries` — the contents of a table are these.
* `ClaimStore.entryKeeper` — a volatile repository as a keeper.

## Main results

* `Holds.getOrInsert`, `Holds.withEntry` — an open that makes its entry where it is missing.
-/

set_option autoImplicit false

namespace ClaimStore

namespace EntryTable

variable {κ : Type} [DecidableEq κ] {t t' : EntryTable (Key κ)} {C : String → Option Bytes}
  {x : String} {e : EntryId} {v : Bytes}

/-! ### Opens -/

/-- A refusal because a limit was hit. -/
def IsFull {α : Type} (r : Except ContentError α) : Prop :=
  ∃ requested available, r = .error (.capacityExceeded requested available)

/-- The bytes under an identifier, in an entry that can be locked. -/
structure Open (t : EntryTable (Key κ)) (C : String → Option Bytes) (x : String) (e : EntryId)
    (v : Bytes) : Prop where
  /-- The contents of the table. -/
  holds : Holds t (Shelf.update C x (some v))
  /-- The entry is found. -/
  find?_eq : t.find? (.text x) = some e
  /-- No reader is inside the lock. -/
  readLock_eq : t.tally e .readLock = 0
  /-- No writer is inside the lock. -/
  writeLock_eq : t.tally e .writeLock = 0

/-- Nobody is inside the lock of the value under an identifier, if there is one. -/
def Unlocked (t : EntryTable (Key κ)) (x : String) : Prop :=
  ∀ e, t.find? (.text x) = some e → t.tally e .readLock = 0 ∧ t.tally e .writeLock = 0

/-- **An entry is borrowed**, after one was made where it is missing. -/
lemma Holds.getOrInsert (h : Holds t C) (hfree : t.Unlocked x) :
    IsFull (t.getOrInsert (.text x)) ∨
      ∃ e t', t.getOrInsert (.text x) = .ok (e, t') ∧ Open t' C x e ((C x).getD .empty) := by
  cases hg : t.getOrInsert (.text x) with
  | error y =>
    left
    unfold EntryTable.getOrInsert at hg
    split at hg
    · cases hg
    · split at hg
      · next hb =>
        obtain rfl := Except.error.inj hg
        obtain ⟨requested, available, rfl⟩ := Budget.admitEntry_error hb
        exact ⟨requested, available, rfl⟩
      · cases hg
  | ok p =>
    obtain ⟨e, t'⟩ := p
    refine .inr ⟨e, t', rfl, ?_⟩
    have hunlocked : t.tally e .readLock = 0 ∧ t.tally e .writeLock = 0 := by
      rcases getOrInsert_ok hg with ⟨hx, -⟩ | ⟨-, rfl, -⟩
      · exact hfree e hx
      · simp [tally]
    have hfind : t'.find? (.text x) = some e := by
      rcases getOrInsert_ok hg with ⟨hx, rfl⟩ | ⟨hx, rfl, b, -, rfl⟩
      · rw [find?_takeOwner, hx]
      · rw [find?_takeOwner, h.find?_insertNew hx, if_pos rfl]
    have hholds : Holds t' (Shelf.update C x (some ((C x).getD .empty))) := by
      rcases getOrInsert_ok hg with ⟨hx, rfl⟩ | ⟨hx, rfl, b, -, rfl⟩
      · have hvalue := h.value_eq hx
        rw [Shelf.update_eq_self (by rw [hvalue]; rfl)]
        exact h.takeOwner hx
      · have hnone : C x = none := by rw [← h.content_eq, content, hx]; rfl
        rw [hnone]
        refine Holds.takeOwner (x := x) (h.insertNew hx b) ?_
        rw [h.find?_insertNew hx, if_pos rfl]
    refine ⟨hholds, hfind, ?_, ?_⟩
    · rw [tally_getOrInsert hg, hunlocked.1, if_neg (by simp)]
    · rw [tally_getOrInsert hg, hunlocked.2, if_neg (by simp)]

/-- **An open that makes its entry** where it is missing, and locks it. -/
lemma Holds.withEntry (h : Holds t C) (hfree : t.Unlocked x) {v' : Bytes}
    {lock : EntryTable (Key κ) → EntryId → Except ContentError (EntryTable (Key κ))}
    (hlock : ∀ {t' e}, Open t' C x e ((C x).getD .empty) → IsFull (lock t' e) ∨
      ∃ t'', lock t' e = .ok t'' ∧ Holds t'' (Shelf.update C x (some v')) ∧
        t''.find? (.text x) = some e) :
    IsFull (Store.withEntry t x lock).2 ∨ ∃ t' e, Store.withEntry t x lock = (t', .ok e) ∧
      Holds t' (Shelf.update C x (some v')) ∧ t'.find? (.text x) = some e := by
  unfold Store.withEntry
  dsimp only
  rcases h.getOrInsert hfree with ⟨requested, available, hfull⟩ | ⟨e, borrowed, hg, hopen⟩
  · rw [hfull]
    exact .inl ⟨requested, available, rfl⟩
  · rw [hg]
    dsimp only
    rcases hlock hopen with ⟨requested, available, hfull⟩ | ⟨t'', hok, hholds, hfind⟩
    · rw [hfull]
      exact .inl ⟨requested, available, rfl⟩
    · rw [hok]
      exact .inr ⟨t'', e, rfl, hholds, hfind⟩

/-! ### Locking -/

/-- **An entry is borrowed and locked by a reader**, where it is not missing. -/
lemma Holds.borrowRead (h : Holds t C)
    (hfree : ∀ e, t.find? (.text x) = some e → t.tally e .writeLock = 0) (hx : C x = some v) :
    ∃ e locked, t.borrow (.text x) = some (e, t.takeOwner e) ∧
      (t.takeOwner e).tryRead e = some locked ∧ Holds locked C ∧ locked.value e = v ∧
      (t.takeOwner e).value e = v ∧ locked.find? (.text x) = some e := by
  obtain ⟨e, hfind, hvalue⟩ := h.find?_eq_some hx
  have hlt : e < t.cells.length := (stored_of_find? hfind).lt
  have hwriter : (t.takeOwner e).tally e .writeLock = 0 := by
    rw [tally_takeOwner hlt, hfree e hfind, if_neg (by simp)]
  obtain ⟨locked, hlock⟩ := exists_tryRead (t := t.takeOwner e) (e := e)
    (by rw [EntryTable.takeOwner, length_modify]; exact hlt) hwriter
  have howner : (t.takeOwner e).value e = v := by
    rw [← hvalue]
    exact value_modify_eq (f := fun c => { c with owners := c.owners + 1 }) (fun _ => rfl) e
  obtain ⟨hholds, hval, hfind'⟩ := (h.takeOwner hfind).tryRead hlock
  refine ⟨e, locked, ?_, hlock, hholds, ?_, howner, ?_⟩
  · rw [borrow, hfind]
    rfl
  · rw [hval, howner]
  · rw [hfind', find?_takeOwner, hfind]

/-- A value that is cut or padded, unless a limit is hit. -/
lemma Open.resizeValue (hlocked : Holds t (Shelf.update C x (some v)))
    (hfind : t.find? (.text x) = some e) (n : UInt64) :
    IsFull (t.resizeValue e n) ∨ ∃ t', t.resizeValue e n = .ok t' ∧
      Holds t' (Shelf.update C x (some (v.fit n.toNat))) ∧ t'.value e = v.fit n.toNat ∧
        t'.find? (.text x) = some e := by
  have hvalue : t.value e = v := by
    have heq := hlocked.value_eq hfind
    rw [Shelf.update_self] at heq
    exact (Option.some.inj heq).symm
  cases hr : t.resizeValue e n with
  | error y =>
    left
    unfold EntryTable.resizeValue at hr
    split at hr
    · next hb =>
      obtain rfl := Except.error.inj hr
      obtain ⟨requested, available, rfl⟩ := Budget.adjust_error hb
      exact ⟨requested, available, rfl⟩
    · cases hr
  | ok t' =>
    obtain ⟨hholds, hnew, hfind'⟩ := hlocked.resizeValue hfind hr
    rw [hvalue, Shelf.update_update] at hholds
    rw [hvalue] at hnew
    exact .inr ⟨t', rfl, hholds, hnew, hfind'⟩

/-- A value that is locked by a writer. -/
lemma Open.tryWrite (h : Open t C x e v) :
    ∃ t', t.tryWrite e = some t' ∧ Holds t' (Shelf.update C x (some v)) ∧
      t'.find? (.text x) = some e := by
  obtain ⟨t', hlock⟩ := exists_tryWrite (stored_of_find? h.find?_eq).lt h.readLock_eq h.writeLock_eq
  obtain ⟨hholds, -, hfind⟩ := h.holds.tryWrite hlock
  exact ⟨t', hlock, hholds, (hfind _).trans h.find?_eq⟩

/-- The lock of a writable mapping. -/
lemma Open.lockFor [ToString κ] (h : Open t C x e v) (n : UInt64) :
    IsFull (t.lockFor e n false) ∨ ∃ t', t.lockFor e n false = .ok t' ∧
      Holds t' (Shelf.update C x (some (v.fit n.toNat))) ∧ t'.find? (.text x) = some e := by
  obtain ⟨locked, hlock, hholds, hfind⟩ := h.tryWrite
  unfold EntryTable.lockFor
  simp only [Bool.false_eq_true, if_false, hlock]
  rcases Open.resizeValue hholds hfind n with hfull | ⟨t', hok, hholds', -, hfind'⟩
  · exact .inl hfull
  · exact .inr ⟨t', hok, hholds', hfind'⟩

/-- The lock of a writer. -/
lemma Open.lockForWriter (h : Open t C x e v) (identifier : String) (append : Bool) :
    IsFull (t.lockForWriter e identifier append) ∨
      ∃ t', t.lockForWriter e identifier append = .ok t' ∧
        Holds t' (Shelf.update C x (some (if append then v else .empty))) ∧
        t'.find? (.text x) = some e := by
  obtain ⟨locked, hlock, hholds, hfind⟩ := h.tryWrite
  unfold EntryTable.lockForWriter
  simp only [hlock]
  cases append with
  | true => exact .inr ⟨locked, rfl, hholds, hfind⟩
  | false =>
    have hempty : v.fit 0 = .empty := Bytes.size_eq_zero_iff.1 (Bytes.size_fit 0 v)
    rcases Open.resizeValue hholds hfind 0 with hfull | ⟨t', hok, hholds', -, hfind'⟩
    · exact .inl hfull
    · refine .inr ⟨t', hok, ?_, hfind'⟩
      rw [← hempty]
      exact hholds'

end EntryTable

namespace Store

variable {κ : Type} {s s' : Store κ} {t : TableId} {C : String → Option Bytes}

/-! ### Tables of a store -/

/-- Where nothing is held, nothing of an entry is given out. -/
lemma Quiet.tally_eq (h : Quiet s) (t : TableId) (e : EntryId) (p : Share) :
    (s.table t).tally e p = 0 := by
  rw [← counted_resource]
  cases p <;> exact h _ rfl (fun c hc => nomatch hc)

/-- Where nothing is held, nobody is inside a lock. -/
lemma Quiet.unlocked [DecidableEq κ] (h : Quiet s) (t : TableId) (x : String) :
    (s.table t).Unlocked x := fun e _ => ⟨h.tally_eq t e .readLock, h.tally_eq t e .writeLock⟩

/-- A table that is replaced by itself. -/
lemma setTable_self (s : Store κ) (t : TableId) : s.setTable t (s.table t) = s := by
  have heq := s.modify_tables_eq t id
  rw [List.modify_id] at heq
  exact heq.symm

variable [DecidableEq κ]

/-- The contents of a table are these. -/
structure HasEntries (s : Store κ) (t : TableId) (C : String → Option Bytes) : Prop where
  /-- The table is there. -/
  lt_length : t < s.tables.length
  /-- The contents are these. -/
  holds : (s.table t).Holds C

/-- What a table holds depends on the tables only. -/
lemma HasEntries.congr (h : HasEntries s t C) (heq : s'.tables = s.tables) : HasEntries s' t C where
  lt_length := heq ▸ h.lt_length
  holds := by
    rw [table, heq]
    exact h.holds

/-- A table that was replaced. -/
lemma HasEntries.setTable {C' : String → Option Bytes} (h : t < s.tables.length)
    {x : EntryTable (Key κ)} (hx : x.Holds C') : HasEntries (s.setTable t x) t C' where
  lt_length := by
    rw [Store.setTable, List.length_set]
    exact h
  holds := by
    rw [table_setTable_self h]
    exact hx

/-- The value that is found under an identifier. -/
lemma HasEntries.value_eq {x : String} {v : Bytes} {e : EntryId}
    (h : HasEntries s t (Shelf.update C x (some v))) (hx : (s.table t).find? (.text x) = some e) :
    (s.table t).value e = v := by
  have heq := h.holds.value_eq hx
  rw [Shelf.update_self] at heq
  exact (Option.some.inj heq).symm

/-- **Contents stay when something is given back.** -/
lemma HasEntries.release (h : HasEntries s t C) (r : Resource) : HasEntries (s.release r) t C := by
  have share : ∀ (t' : TableId) (e : EntryId) (p : Share),
      HasEntries (s.release (p.resource t' e)) t C := by
    intro t' e p
    rw [release_resource]
    refine ⟨?_, ?_⟩
    · rw [Store.setTable, List.length_set]
      exact h.lt_length
    · rw [table_setTable]
      split
      · next ht =>
        rw [← ht.1]
        cases p with
        | owner => exact h.holds.dropOwner e
        | readLock => exact h.holds.modify_lock e _
        | writeLock => exact h.holds.modify_lock e _
      · exact h.holds
  rcases r with c | (⟨g, x⟩ | ⟨g, x⟩) | ⟨t', e⟩ | ⟨t', e⟩ | ⟨t', e⟩ | d
  · exact h.congr rfl
  · exact h.congr rfl
  · exact h.congr rfl
  · exact share t' e .owner
  · exact share t' e .readLock
  · exact share t' e .writeLock
  · exact h

end Store

open Store

/-! ### Operations on entries -/

variable {κ : Type} [DecidableEq κ]

/-- The backing of a mapping of an entry. -/
def entryBacking (t : TableId) (e : EntryId) (n : Nat) (readOnly : Bool) : Backing :=
  .entry { borrow := some (t, e), size := n, view := if readOnly then .read else .write }

/-- A mapping of an entry shows bytes: read-only the first bytes of the value, otherwise all of
them. -/
def ShowsEntry (t : TableId) (s : Store κ) (C : String → Option Bytes) (x : String)
    (readOnly : Bool) (k : Backing) (v : Bytes) : Prop :=
  ∃ e n, k = entryBacking t e n readOnly ∧ (s.table t).find? (.text x) = some e ∧
    if readOnly then HasEntries s t C ∧ ((s.table t).value e).take n = v ∧ v.size = n
    else HasEntries s t (Shelf.update C x (some v))

/-- A writer to an entry has collected bytes. -/
def WritesEntry (t : TableId) (s : Store κ) (C : String → Option Bytes) (x : String) (sink : Sink)
    (v : Bytes) : Prop :=
  ∃ e, sink = .entry t e ∧ (s.table t).find? (.text x) = some e ∧
    HasEntries s t (Shelf.update C x (some v))

namespace Store

variable {t : TableId} {writers : RegistryId} {s : Store κ} {C : String → Option Bytes}
  {c : ClaimId} {x : String} {v : Bytes} {k : Backing}

/-- A mapping that shows an entry shows its value. -/
lemma showsEntry_view? {m : Mapping} {readOnly : Bool}
    (h : ShowsEntry t s C x readOnly m.backing v) : s.view? m = some v := by
  obtain ⟨e, n, hk, hfind, hrest⟩ := h
  rw [view?, hk]
  cases readOnly with
  | true => exact congrArg some hrest.2.1
  | false => exact congrArg some (HasEntries.value_eq hrest hfind)

/-- It has the size of the value. -/
lemma showsEntry_mappingSize {m : Mapping} {readOnly : Bool}
    (h : ShowsEntry t s C x readOnly m.backing v) : s.mappingSize m = v.size := by
  obtain ⟨e, n, hk, hfind, hrest⟩ := h
  rw [mappingSize, hk]
  cases readOnly with
  | true => exact hrest.2.2.symm
  | false => exact congrArg Bytes.size (HasEntries.value_eq hrest hfind)

/-- **Removal of an entry.** -/
lemma removeInTable_eq (h : HasEntries s t C) (hq : Quiet s) (x : String) :
    ∃ s', Behind s s' ∧ s.removeInTable t x = (s', .ok (C x).isSome) ∧
      HasEntries s' t (Shelf.update C x none) := by
  unfold removeInTable
  rcases (s.table t).remove_cases (.text x) with
    ⟨hfind, heq⟩ | ⟨e, -, hown, -⟩ | ⟨e, hfind, hown, heq⟩
  · have hnone : C x = none := by
      rw [← h.holds.content_eq, EntryTable.content, hfind]
      rfl
    rw [heq]
    dsimp only
    rw [setTable_self, hnone, Shelf.update_eq_self hnone]
    exact ⟨s, .refl s, rfl, h⟩
  · rw [← EntryTable.tally_owner, hq.tally_eq] at hown
    exact absurd hown (Nat.lt_irrefl 0)
  · rw [heq, h.holds.value_eq hfind]
    exact ⟨s.setTable t ((s.table t).takeOut e), ⟨rfl, rfl, rfl, rfl⟩, rfl,
      .setTable h.lt_length (h.holds.takeOut hfind hown)⟩

/-- **A read-only mapping of an entry.** -/
lemma mapInTable_readOnly [ToString κ] (h : HasEntries s t C) (hq : Quiet s) {n : UInt64}
    (hv : C (s.identifier c) = some v) (hle : n.toNat ≤ v.size) :
    ∃ s' e, Behind s s' ∧ s.mapInTable t writers c n true =
        succeed (s'.addHeldMapping (entryMapping t e n true) c none) ∧
      ShowsEntry t s' C (s.identifier c) true (entryBacking t e n.toNat true) (v.take n.toNat) := by
  obtain ⟨e, locked, hborrow, hlock, hholds, hvalue, howner, hfind⟩ :=
    h.holds.borrowRead (fun e _ => hq.tally_eq t e .writeLock) hv
  refine ⟨s.setTable t locked, e, ⟨rfl, rfl, rfl, rfl⟩, ?_, e, n.toNat, rfl, ?_, ?_⟩
  · unfold mapInTable
    simp only [if_true, hborrow, EntryTable.lockFor, hlock, howner, if_neg (Nat.not_lt.2 hle)]
  · rw [table_setTable_self h.lt_length, hfind]
  · rw [if_pos rfl, table_setTable_self h.lt_length, hvalue, Bytes.size_take]
    exact ⟨.setTable h.lt_length hholds, rfl, Nat.min_eq_left hle⟩

/-- A read-only mapping of more than the entry has. -/
lemma mapInTable_short [ToString κ] (h : HasEntries s t C)
    (hfree : ∀ e, (s.table t).find? (.text (s.identifier c)) = some e →
      (s.table t).tally e .writeLock = 0) {n : UInt64}
    (hv : C (s.identifier c) = some v) (hlt : v.size < n.toNat) :
    s.mapInTable t writers c n true = (s, .error (.content (.insufficientBackingStore
      (Key.text (s.identifier c) : Key κ).shown n.toNat v.size))) := by
  obtain ⟨e, locked, hborrow, hlock, -, -, howner, -⟩ := h.holds.borrowRead hfree hv
  obtain ⟨d, hd, -, hkey⟩ := EntryTable.find?_eq_some (EntryTable.borrow_eq_some hborrow).1
  have hshown : ((s.table t).takeOwner e).shownKey e =
      (Key.text (s.identifier c) : Key κ).shown := by
    rw [EntryTable.shownKey, EntryTable.takeOwner, EntryTable.getElem?_modify, if_pos rfl, hd]
    exact congrArg Key.shown hkey
  unfold mapInTable
  simp only [if_true, hborrow, EntryTable.lockFor, hlock, howner, if_pos hlt]
  rw [EntryTable.dropOwner_takeOwner, setTable_self, hshown]

/-- **A writable mapping of an entry.** -/
lemma mapInTable_writable [ToString κ] (h : HasEntries s t C)
    (hfree : (s.table t).Unlocked (s.identifier c))
    (hlease : (s.writerRegistry writers).isWriting (s.identifier c) = false) (n : UInt64) :
    Refused (s.mapInTable t writers c n false).2 ∨
      ∃ s' e, Behind s s' ∧ s.mapInTable t writers c n false =
          succeed (s'.addHeldMapping (entryMapping t e n false) c
            (some (.write writers (s.identifier c)))) ∧
        ShowsEntry t s' C (s.identifier c) false (entryBacking t e n.toNat false)
          (((C (s.identifier c)).getD .empty).fit n.toNat) := by
  obtain ⟨leased, hleased, hb, hbes⟩ := takeWriteLease_free hlease
  unfold mapInTable
  simp only [Bool.false_eq_true, if_false, hleased]
  rcases h.holds.withEntry hfree fun hopen => hopen.lockFor n with
    ⟨requested, available, hfull⟩ | ⟨x, e, hok, hholds, hfind⟩
  · left
    rw [← Prod.eta (withEntry _ _ _), hfull]
    exact ⟨requested, available, rfl⟩
  · right
    rw [hok]
    have hlt : t < leased.tables.length := hbes.tables_eq ▸ h.lt_length
    refine ⟨leased.setTable t x, e,
      ⟨hb.claims_eq, hb.handles_eq, hb.log_eq, hb.repositories_eq⟩, rfl, e, n.toNat, rfl, ?_, ?_⟩
    · rw [table_setTable_self hlt, hfind]
    · exact .setTable hlt hholds

/-- **A reader of an entry.** -/
lemma readInTable_some (h : HasEntries s t C)
    (hfree : ∀ e, (s.table t).find? (.text (s.identifier c)) = some e →
      (s.table t).tally e .writeLock = 0) (hv : C (s.identifier c) = some v) :
    ∃ s' source, Behind s s' ∧ s.readInTable t c = succeed (s'.addReader c source) ∧
      HasEntries s' t C ∧ Delivers s' source v ∧ ∀ n, source.atOnce n = n := by
  obtain ⟨e, locked, hborrow, hlock, hholds, hvalue, -, -⟩ := h.holds.borrowRead hfree hv
  refine ⟨s.setTable t locked, .entry t e, ⟨rfl, rfl, rfl, rfl⟩, ?_, .setTable h.lt_length hholds,
    ⟨?_, fun r hr => ?_⟩, fun _ => rfl⟩
  · unfold readInTable
    simp only [hborrow, hlock]
  · rw [sourceBytes, table_setTable_self h.lt_length, hvalue]
  · rw [readerLength, hr]
    dsimp only
    rw [table_setTable_self h.lt_length, hvalue]

/-- **A writer to an entry.** -/
lemma writeInTable_eq (h : HasEntries s t C) (hq : Quiet s) (append : Bool) :
    Refused (s.writeInTable t writers c append).2 ∨
      ∃ s' sink, Behind s s' ∧ s.writeInTable t writers c append =
          succeed (s'.addWriter c sink (.write writers (s.identifier c))) ∧
        WritesEntry t s' C (s.identifier c) sink
          (if append then (C (s.identifier c)).getD .empty else .empty) := by
  obtain ⟨leased, hlease, hb, hbes⟩ := hq.takeWriteLease writers (s.identifier c)
  unfold writeInTable
  simp only [hlease]
  rcases h.holds.withEntry (hq.unlocked t _)
      fun hopen => hopen.lockForWriter (s.identifier c) append with
    ⟨requested, available, hfull⟩ | ⟨x, e, hok, hholds, hfind⟩
  · left
    rw [← Prod.eta (withEntry _ _ _), hfull]
    exact ⟨requested, available, rfl⟩
  · right
    rw [hok]
    have hlt : t < leased.tables.length := hbes.tables_eq ▸ h.lt_length
    refine ⟨leased.setTable t x, .entry t e,
      ⟨hb.claims_eq, hb.handles_eq, hb.log_eq, hb.repositories_eq⟩, rfl, e, rfl, ?_, ?_⟩
    · rw [table_setTable_self hlt, hfind]
    · exact .setTable hlt hholds

/-- What it shows depends on the tables only. -/
lemma showsEntry_congr {s' : Store κ} {readOnly : Bool} (h : ShowsEntry t s C x readOnly k v)
    (heq : s'.tables = s.tables) : ShowsEntry t s' C x readOnly k v := by
  obtain ⟨e, n, hk, hfind, hrest⟩ := h
  have htable : s'.table t = s.table t := by rw [table, table, heq]
  refine ⟨e, n, hk, by rw [htable, hfind], ?_⟩
  cases readOnly with
  | true => exact ⟨hrest.1.congr heq, by rw [htable]; exact hrest.2.1, hrest.2.2⟩
  | false => exact HasEntries.congr hrest heq

/-- Other bytes in an entry that is mapped. -/
lemma setView_entry {h : HandleId} {m : Mapping} {v' : Bytes}
    (hs : ShowsEntry t s C x false m.backing v) (hsize : v'.size = v.size)
    (hm : s.mapping? h = some m) :
    ∃ s' k, Behind s s' ∧ s.setView h m v' = s'.setHandle h (.mapping { m with backing := k }) ∧
      ShowsEntry t s' C x false k v' := by
  obtain ⟨e, n, hk, hfind, hhas⟩ := hs
  have hhas : HasEntries s t (Shelf.update C x (some v)) := hhas
  have hset := hhas.holds.setValue hfind (v := v') (by rw [hsize, hhas.value_eq hfind])
  rw [Shelf.update_update] at hset
  refine ⟨s.setTable t ((s.table t).setValue e v'), m.backing, ⟨rfl, rfl, rfl, rfl⟩, ?_, e, n, hk,
    ?_, .setTable hhas.lt_length hset⟩
  · have hsame : (s.setTable t ((s.table t).setValue e v')).mapping? h = some m := hm
    rw [setHandle_self (mapping?_eq_some.1 hsame), setView, hk]
    rfl
  · rw [table_setTable_self hhas.lt_length]
    exact (EntryTable.find?_modify (f := fun c => { c with value := v' }) _ e (fun _ => rfl)
      (fun _ => rfl) _).trans hfind

/-- **Another length of an entry that is mapped.** -/
lemma resize_entry {h : HandleId} {m : Mapping} (hs : ShowsEntry t s C x false m.backing v)
    (n : UInt64) (hm : s.mapping? h = some m) (hro : m.readOnly = false) :
    Refused (s.resize h n).2 ∨ ∃ s' k, Behind s s' ∧
      s.resize h n = (s'.setHandle h (.mapping { m with backing := k }), .ok (v.fit n.toNat)) ∧
      ShowsEntry t s' C x false k (v.fit n.toNat) := by
  obtain ⟨e, size, hk, hfind, hhas⟩ := hs
  have hhas : HasEntries s t (Shelf.update C x (some v)) := hhas
  have hresize : s.resize h n = s.resizeEntry h m
      { borrow := some (t, e), size, view := .write } n := by
    unfold resize
    simp only [hm, hro, Bool.false_eq_true, if_false, hk]
    rfl
  rw [hresize, resizeEntry]
  dsimp only
  rcases EntryTable.Open.resizeValue hhas.holds hfind n with
    ⟨requested, available, hfull⟩ | ⟨x', hok, hholds, hvalue, hfind'⟩
  · rw [hfull]
    exact .inl ⟨requested, available, rfl⟩
  · rw [hok]
    refine .inr ⟨s.setTable t x', entryBacking t e n.toNat false, ⟨rfl, rfl, rfl, rfl⟩, ?_, e,
      n.toNat, rfl, ?_, .setTable hhas.lt_length hholds⟩
    · rw [← hvalue]
      rfl
    · rw [table_setTable_self hhas.lt_length, hfind']

/-- The end of a mapping of an entry. -/
lemma settle_entry {m : Mapping} (hs : ShowsEntry t s C x m.readOnly m.backing v) :
    s.writeBack m = s ∧
      HasEntries s t (if m.readOnly then C else Shelf.update C x (some v)) := by
  obtain ⟨e, n, hk, -, hrest⟩ := hs
  constructor
  · unfold writeBack
    rw [hk]
    cases m.readOnly <;> rfl
  · cases hro : m.readOnly with
    | true =>
      rw [hro] at hrest
      exact hrest.1
    | false =>
      rw [hro] at hrest
      exact hrest

/-- **Bytes that are written to an entry.** -/
lemma writeSink_entry {sink : Sink} (p : Bytes) (hw : WritesEntry t s C x sink v) :
    (∃ requested available, s.writeSink sink p = .error (.overCapacity requested available)) ∨
      ∃ s' sink', Behind s s' ∧ s.writeSink sink p = .ok (s', sink') ∧
        WritesEntry t s' C x sink' (v ++ p) := by
  obtain ⟨e, rfl, hfind, hhas⟩ := hw
  unfold writeSink
  dsimp only
  cases happend : (s.table t).appendValue e p with
  | error y =>
    left
    unfold EntryTable.appendValue at happend
    split at happend
    · next hb =>
      obtain rfl := Except.error.inj happend
      obtain ⟨requested, available, rfl⟩ := Budget.allocate_error hb
      exact ⟨requested, available, rfl⟩
    · cases happend
  | ok x' =>
    obtain ⟨hholds, hfind'⟩ := hhas.holds.appendValue hfind happend
    rw [Shelf.update_update, hhas.value_eq hfind] at hholds
    refine .inr ⟨s.setTable t x', .entry t e, ⟨rfl, rfl, rfl, rfl⟩, rfl, e, rfl, ?_,
      .setTable hhas.lt_length hholds⟩
    rw [table_setTable_self hhas.lt_length, hfind']

end Store

/-! ### The keeper -/

/-- **A volatile repository as a keeper.** It keeps bytes under every identifier, of every length,
until a limit of its table is hit. -/
def entryKeeper [ToString κ] (t : TableId) (writers : RegistryId) :
    Keeper κ (.volatile t writers) where
  Admits _ := True
  AdmitsMapping _ _ := True
  AdmitsLength _ := True
  AdmitsTransfer _ := True
  Limited := True
  Keeps s C := HasEntries s t C
  Shows s C x readOnly k v := ShowsEntry t s C x readOnly k v
  Writes s C x sink v := WritesEntry t s C x sink v
  before _ _ := []
  keeps_besides hb hk := hk.congr hb.tables_eq
  keeps_release r hk := hk.release r
  lengthIn_eq {s C x} hk _ := by
    rw [lengthIn, hk.holds.valueLen?_eq]
  removeIn_eq {s C c} hk hq _ href := by
    rw [removeIn_of_unreferenced href, eraseIn]
    exact removeInTable_eq hk hq (s.identifier c)
  mapIn_none {s C c} n hk _ hv := by
    unfold mapIn mapInTable
    simp only [if_true, EntryTable.borrow, hk.holds.find?_eq_none hv, Option.map_none]
  mapIn_short hk hq _ hv hlt := by
    rw [mapIn]
    exact ⟨_, rfl, mapInTable_short hk (fun e _ => hq.tally_eq t e .writeLock) hv hlt⟩
  mapIn_readOnly {s C c n v} hk hq _ hv hle := by
    rw [mapIn]
    obtain ⟨s', e, hb, heq, hshows⟩ := mapInTable_readOnly hk hq hv hle
    exact ⟨s', entryBacking t e n.toNat true, none, hb, heq, hshows⟩
  mapIn_writable {s C c n} hk hq _ _ := by
    rw [mapIn]
    rcases mapInTable_writable hk (hq.unlocked t _) (hq.isWriting_eq writers _) n with
      hfull | ⟨s', e, hb, heq, hshows⟩
    · exact .inl ⟨trivial, hfull⟩
    · exact .inr ⟨s', entryBacking t e n.toNat false, _, hb, heq, hshows⟩
  shows_besides hb hs := showsEntry_congr hs hb.tables_eq
  view?_eq hs := showsEntry_view? hs
  mappingSize_eq hs := showsEntry_mappingSize hs
  setView_eq hs hsize hm := setView_entry hs hsize hm
  resize_eq {s C x v h n m} hs _ hm hro :=
    (resize_entry hs n hm hro).imp_left fun hfull => ⟨trivial, hfull⟩
  settle {s C x v m} hs := by
    obtain ⟨hback, hhas⟩ := settle_entry hs
    rw [hback]
    exact ⟨showsEntry_view? hs, s, .refl s, rfl, hhas⟩
  readIn_none {s C c} hk _ hv := by
    unfold readIn readInTable
    simp only [EntryTable.borrow, hk.holds.find?_eq_none hv, Option.map_none]
  readIn_some hk hq _ hv := by
    rw [readIn]
    obtain ⟨s', source, hb, heq, hkeeps, hdelivers, hmoves⟩ :=
      readInTable_some hk (fun e _ => hq.tally_eq t e .writeLock) hv
    exact ⟨s', source, hb, heq, hkeeps, hdelivers, fun n _ => hmoves n⟩
  writeIn_eq {s C c} append hk hq _ := by
    rw [writeIn]
    rcases writeInTable_eq hk hq append with hfull | ⟨s', sink, hb, heq, hwrites⟩
    · exact .inl ⟨trivial, hfull⟩
    · exact .inr ⟨s', sink, _, hb, heq, hwrites⟩
  writes_besides {s s' C x sink v} hb hw := by
    obtain ⟨e, hsink, hfind, hhas⟩ := hw
    have htable : s'.table t = s.table t := by rw [table, table, hb.tables_eq]
    exact ⟨e, hsink, by rw [htable, hfind], hhas.congr hb.tables_eq⟩
  writeSink_eq p hw := (writeSink_entry p hw).imp_left fun hfull => ⟨trivial, hfull⟩
  atOnce_eq hw _ := by
    obtain ⟨e, rfl, -⟩ := hw
    rfl
  commit_eq {s C x sink v} hw := by
    obtain ⟨e, rfl, -, hhas⟩ := hw
    exact ⟨.refl s, hhas⟩

end ClaimStore
