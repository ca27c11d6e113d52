import ClaimStore.Proofs.Effects
import ClaimStore.Proofs.EntryRefusals
import ClaimStore.Proofs.LimitReports
import ClaimStore.Proofs.ScopedOpens
import ClaimStore.Proofs.Unaltered

/-!
# Failures of volatile repositories

An operation on a volatile repository or its table that fails changes nothing that callers can see.
An open may have made an entry before it fails; the entry is taken out again, together with its
place in the count, and an entry that was there keeps its content. A growth that does not fit is
reported with the bytes by which the value was to grow and those that the limit left.

## Main definitions

* `Store.FailuresAreClean` — failed operations change nothing that callers see.
* `Store.ReportsGrowth` — what a growth that does not fit is reported with.
* `Store.TakesInOrder` — opens take one hold after the other, and give them back in reverse.

## Main results

* `Store.failuresAreClean_runUnder` — all of this in every state that operations lead to.
-/

set_option autoImplicit false

namespace ClaimStore.Store

variable {κ : Type} [DecidableEq κ]

/-! ### What is proved of a state -/

section Statements

variable [ToString κ]

/-- **Operations on volatile repositories and their tables that fail change nothing** that callers
see. -/
structure FailuresAreClean (s : Store κ) : Prop where
  /-- Mappings that are not made, read-only or writable. -/
  map : ∀ {r t w}, s.backend? r = some (.volatile t w) → ∀ c n readOnly,
    s.FailsCleanly (s.mapContent r c n readOnly)
  /-- Readers that are not made. -/
  read : ∀ {r t w}, s.backend? r = some (.volatile t w) → ∀ c, s.FailsCleanly (s.readContent r c)
  /-- Writers that are not made, whether they append or replace. -/
  write : ∀ {r t w}, s.backend? r = some (.volatile t w) → ∀ c append,
    s.FailsCleanly (s.writeContent r c append)
  /-- Content that is not removed. -/
  remove : ∀ {r t w}, s.backend? r = some (.volatile t w) → ∀ c,
    s.FailsCleanly (s.removeContent r c)
  /-- Mappings that are not made through a claim. -/
  mapClaim : ∀ {c r t w}, s.repositoryOf c = some (r, .volatile t w) → ∀ n readOnly,
    s.FailsCleanly (s.mapClaim c n readOnly)
  /-- Readers that are not made through a claim. -/
  readClaim : ∀ {c r t w}, s.repositoryOf c = some (r, .volatile t w) →
    s.FailsCleanly (s.readClaim c)
  /-- Writers that are not made through a claim. -/
  writeClaim : ∀ {c r t w}, s.repositoryOf c = some (r, .volatile t w) → ∀ append,
    s.FailsCleanly (s.writeClaim c append)
  /-- Mappings of entries whose length does not change. -/
  resize : ∀ {map m b}, s.mapping? map = some m → m.backing = .entry b → ∀ n,
    s.FailsCleanly (s.resize map n)
  /-- Mappings whose bytes do not change. -/
  writeAt : ∀ map offset bytes, s.FailsCleanly (s.writeAt map offset bytes)
  /-- Bytes that a writer does not take. -/
  writeRaw : ∀ writer bytes, s.FailsCleanly (s.writeRaw writer bytes)
  /-- Payloads that a writer does not take. -/
  writeData : ∀ writer bytes, s.FailsCleanly (s.writeData writer bytes)
  /-- Entries that are not made. -/
  insertEntry : ∀ t key, s.FailsCleanly (s.insertEntry t key)
  /-- Values whose length does not change. -/
  resizeValue : ∀ t e n, s.FailsCleanly (s.resizeValue t e n)
  /-- Values that do not become longer. -/
  appendValue : ∀ t e bytes, s.FailsCleanly (s.appendValue t e bytes)

/-- **What does not fit is reported** with the growth that was asked for and the room that there
was. -/
structure ReportsGrowth (s : Store κ) : Prop where
  /-- A writable mapping: the entry is one too many, or its value would become too long. -/
  map : ∀ {r t w}, s.backend? r = some (.volatile t w) → ∀ {c n requested available},
    (s.mapContent r c n false).2 = .error (.content (.capacityExceeded requested available)) →
      (s.table t).Refuses (.text (s.identifier c)) n.toNat (.capacityExceeded requested available)
  /-- A writer: the entry is one too many. -/
  write : ∀ {r t w}, s.backend? r = some (.volatile t w) → ∀ {c append requested available},
    (s.writeContent r c append).2 = .error (.content (.capacityExceeded requested available)) →
      (s.table t).Refuses (.text (s.identifier c)) 0 (.capacityExceeded requested available)
  /-- A change of length of a mapping: it grows by more bytes than there is room for. -/
  resize : ∀ {map m b t e}, s.mapping? map = some m → m.backing = .entry b →
    b.borrow = some (t, e) → ∀ {n requested available},
    (s.resize map n).2 = .error (.content (.capacityExceeded requested available)) →
      requested = n.toNat - s.mappingSize m ∧ available = (s.table t).budget.room ∧
        available < requested
  /-- Bytes for a writer: they are more than there is room for. -/
  writeRaw : ∀ {writer w t e}, s.writer? writer = some w → w.sink = .entry t e →
    ∀ {b : Payload} {requested available},
    (s.writeRaw writer b.bytes).2 = .error (.overCapacity requested available) →
      requested = b.bytes.size ∧ available = (s.table t).budget.room ∧ available < requested
  /-- A payload for a writer. -/
  writeData : ∀ {writer w t e}, s.writer? writer = some w → w.sink = .entry t e →
    ∀ {b : Payload} {requested available},
    (s.writeData writer b.bytes).2 = .error (.writeStream (.overCapacity requested available)) →
      requested = b.bytes.size ∧ available = (s.table t).budget.room ∧ available < requested
  /-- An entry fails to be made for no other reason than the count. -/
  insertEntry : ∀ {t key f}, (s.insertEntry t key).2 = .error f →
    f = .content (.capacityExceeded 1 0) ∧ (s.table t).find? key = none ∧
      (s.table t).budget.entries = (s.table t).budget.maxCount
  /-- The length of a value fails to change for no other reason than the bytes. -/
  resizeValue : ∀ {h t e}, s.borrowed? h = some (t, e) → ∀ {n f},
    (s.resizeValue t e n).2 = .error f →
      f = .content (.capacityExceeded (n.toNat - ((s.table t).value e).size)
        (s.table t).budget.room) ∧
        (s.table t).budget.room < n.toNat - ((s.table t).value e).size
  /-- Neither does an append. -/
  appendValue : ∀ {t e} {b : Payload} {f}, (s.appendValue t e b.bytes).2 = .error f →
    f = .content (.capacityExceeded b.bytes.size (s.table t).budget.room) ∧
      (s.table t).budget.room < b.bytes.size

/-- **Opens take one hold after the other**, and after a failure give them back in reverse. -/
structure TakesInOrder (s : Store κ) : Prop where
  /-- Mappings. -/
  map : ∀ {r t w}, s.backend? r = some (.volatile t w) → ∀ c n readOnly,
    s.mapContent r c n readOnly = s.mapInOrder t w c n readOnly
  /-- Readers. -/
  read : ∀ {r t w}, s.backend? r = some (.volatile t w) → ∀ c,
    s.readContent r c = s.readInOrder t c
  /-- Writers. -/
  write : ∀ {r t w}, s.backend? r = some (.volatile t w) → ∀ c append,
    s.writeContent r c append = s.writeInOrder t w c append

end Statements

/-! ### Opens that fail -/

section Opens

variable {s : Store κ} {t : TableId} {w : RegistryId} {c : ClaimId}

/-- An owner that is taken and given back leaves the state. -/
lemma setTable_borrowed {key : Key κ} {e : EntryId} {b : EntryTable (Key κ)}
    (hb : (s.table t).borrow key = some (e, b)) : s.setTable t (b.dropOwner e) = s := by
  obtain ⟨-, rfl⟩ := EntryTable.borrow_eq_some hb
  rw [EntryTable.dropOwner_takeOwner, setTable_self]

/-- **A mapping that fails** leaves everything as it was. -/
lemma failsCleanly_mapInTable [ToString κ] (hs : s.Sound) (n : UInt64) (readOnly : Bool) :
    s.FailsCleanly (s.mapInTable t w c n readOnly) := by
  unfold mapInTable
  cases readOnly with
  | true =>
    simp only [if_true]
    split
    · exact failsCleanly_same s _
    · next e b hb =>
      split
      · rw [setTable_borrowed hb]
        exact failsCleanly_same s _
      · exact failsCleanly_ok s _ _
  | false =>
    simp only [Bool.false_eq_true, if_false]
    split
    · exact failsCleanly_same s _
    · split
      · next table x hopen =>
        exact fun _ _ => unaltered_setTable
          (EntryTable.sameSight_withEntry (hs.tables_sound t).within hopen)
      · exact failsCleanly_ok s _ _

/-- **So does a reader.** -/
lemma failsCleanly_readInTable : s.FailsCleanly (s.readInTable t c) := by
  unfold readInTable
  dsimp only
  split
  · exact failsCleanly_same s _
  · next e b hb =>
    split
    · rw [setTable_borrowed hb]
      exact failsCleanly_same s _
    · exact failsCleanly_ok s _ _

/-- **So does a writer.** -/
lemma failsCleanly_writeInTable (hs : s.Sound) (append : Bool) :
    s.FailsCleanly (s.writeInTable t w c append) := by
  unfold writeInTable
  dsimp only
  split
  · exact failsCleanly_same s _
  · split
    · next table x hopen =>
      exact fun _ _ => unaltered_setTable
        (EntryTable.sameSight_withEntry (hs.tables_sound t).within hopen)
    · exact failsCleanly_ok s _ _

/-- **So does a removal.** -/
lemma failsCleanly_removeIn : s.FailsCleanly (s.removeIn (.volatile t w) c) := by
  rcases s.removeIn_cases (.volatile t w) c with ⟨f, heq⟩ | ⟨-, heq⟩ <;> rw [heq]
  · exact failsCleanly_same s _
  · rw [eraseIn]
    unfold removeInTable
    split
    · exact failsCleanly_ok s _ _
    · exact failsCleanly_ok s _ _
    · next n table hr =>
      rcases (s.table t).remove_cases (.text (s.identifier c)) with
        ⟨-, h⟩ | ⟨e, -, -, h⟩ | ⟨e, -, -, h⟩
      · cases h.symm.trans hr
      · obtain ⟨-, rfl⟩ := Prod.mk.inj (h.symm.trans hr)
        rw [setTable_self]
        exact failsCleanly_same s _
      · cases h.symm.trans hr

end Opens

/-! ### Operations on handles that fail -/

section Handles

variable {s : Store κ}

/-- **A mapping of an entry that fails to change its length** keeps it. -/
lemma failsCleanly_resize {map : HandleId} {m : Mapping} {b : EntryBacking}
    (hm : s.mapping? map = some m) (hb : m.backing = .entry b) (n : UInt64) :
    s.FailsCleanly (s.resize map n) := by
  unfold resize
  rw [hm]
  dsimp only
  split
  · exact failsCleanly_same s _
  · rw [hb]
    unfold resizeEntry
    dsimp only
    split
    · split
      · exact failsCleanly_same s _
      · exact failsCleanly_ok s _ _
    · exact failsCleanly_same s _

/-- **Bytes that are not written into a view** change nothing. -/
lemma failsCleanly_writeAt (map : HandleId) (offset : Nat) (bytes : Bytes) :
    s.FailsCleanly (s.writeAt map offset bytes) := by
  unfold writeAt
  split
  · exact failsCleanly_same s _
  · split
    · exact failsCleanly_same s _
    · split
      · exact failsCleanly_same s _
      · split
        · exact failsCleanly_ok s _ _
        · exact failsCleanly_same s _

/-- **Bytes that a writer does not take** change nothing. -/
lemma failsCleanly_accept (writer : HandleId) (bytes : Bytes) :
    s.FailsCleanly (s.accept writer bytes) := by
  unfold accept
  split
  · exact failsCleanly_same s _
  · split
    · split
      · exact failsCleanly_same s _
      · exact failsCleanly_ok s _ _
    · exact failsCleanly_same s _

omit [DecidableEq κ] in
/-- A raw write of an entry offers all bytes at once. -/
lemma offered_entry {writer : HandleId} {x : Writer} {t : TableId} {e : EntryId}
    (hx : s.writer? writer = some x) (hsink : x.sink = .entry t e) (b : Bytes) :
    s.offered writer b = b := by
  rw [offered, hx]
  dsimp only
  rw [hsink]
  exact b.take_size

/-- Neither does a payload. -/
lemma failsCleanly_writeData (writer : HandleId) (bytes : Bytes) :
    s.FailsCleanly (s.writeData writer bytes) := by
  have hraw := failsCleanly_accept (s := s) writer bytes
  unfold writeData writeAll
  split
  · exact failsCleanly_ok s _ _
  · next s' x hx =>
    split at hx
    · cases hx
    · rw [hx] at hraw
      exact fun _ _ => hraw x rfl

end Handles

/-! ### Operations on a table that fail -/

section Values

variable {s : Store κ} (t : TableId)

/-- **An entry that is not made** changes nothing. -/
lemma failsCleanly_insertEntry (key : Key κ) : s.FailsCleanly (s.insertEntry t key) := by
  unfold insertEntry
  split
  · exact failsCleanly_same s _
  · exact failsCleanly_ok s _ _

/-- **A value that does not change its length** keeps its content. -/
lemma failsCleanly_resizeValue (e : EntryId) (n : UInt64) :
    s.FailsCleanly (s.resizeValue t e n) := by
  unfold resizeValue
  split
  · exact failsCleanly_same s _
  · exact failsCleanly_ok s _ _

/-- So does one that does not become longer. -/
lemma failsCleanly_appendValue (e : EntryId) (bytes : Bytes) :
    s.FailsCleanly (s.appendValue t e bytes) := by
  unfold appendValue
  split
  · exact failsCleanly_same s _
  · exact failsCleanly_ok s _ _

end Values

/-! ### Reports -/

section Reports

variable {s : Store κ} (hs : s.Sound) {t : TableId} {w : RegistryId} {c : ClaimId}
  {requested available : Nat}
include hs

/-- **What a writable mapping reports** that does not fit. -/
lemma refuses_mapInTable [ToString κ] {n : UInt64}
    (h : (s.mapInTable t w c n false).2 =
      .error (.content (.capacityExceeded requested available))) :
    (s.table t).Refuses (.text (s.identifier c)) n.toNat
      (.capacityExceeded requested available) := by
  unfold mapInTable at h
  simp only [Bool.false_eq_true, if_false] at h
  split at h
  · next f hl =>
    obtain rfl := Except.error.inj h
    cases (takeWriteLease_error hl).1
  · split at h
    · next table x hopen =>
      obtain rfl := Failure.content.inj (Except.error.inj h)
      exact EntryTable.refuses_withEntry (hs.tables_sound t) EntryTable.lockFor_full hopen
    · cases h

/-- **What a writer reports** that does not fit. -/
lemma refuses_writeInTable {append : Bool}
    (h : (s.writeInTable t w c append).2 =
      .error (.content (.capacityExceeded requested available))) :
    (s.table t).Refuses (.text (s.identifier c)) 0 (.capacityExceeded requested available) := by
  unfold writeInTable at h
  dsimp only at h
  split at h
  · next f hl =>
    obtain rfl := Except.error.inj h
    cases (takeWriteLease_error hl).1
  · split at h
    · next table x hopen =>
      obtain rfl := Failure.content.inj (Except.error.inj h)
      exact EntryTable.refuses_withEntry (n := 0) (hs.tables_sound t)
        EntryTable.lockForWriter_full hopen
    · cases h

omit [DecidableEq κ] in
/-- **What a mapping reports** that cannot become so long. -/
lemma resize_report {map : HandleId} {m : Mapping} {b : EntryBacking} {e : EntryId} {n : UInt64}
    (hm : s.mapping? map = some m) (hb : m.backing = .entry b) (hborrow : b.borrow = some (t, e))
    (h : (s.resize map n).2 = .error (.content (.capacityExceeded requested available))) :
    requested = n.toNat - s.mappingSize m ∧ available = (s.table t).budget.room ∧
      available < requested := by
  have he : (s.table t).Stored e := hs.stored (mapping?_eq_some.1 hm)
    (mem_resources_of_borrow hb hborrow)
  have hlt := (hs.tables_sound t).size_value_lt he
  unfold resize at h
  rw [hm] at h
  dsimp only at h
  split at h
  · cases h
  · rw [hb] at h
    unfold resizeEntry at h
    dsimp only at h
    split at h
    · next t' e' hborrow' hview =>
      obtain ⟨rfl, rfl⟩ := Prod.mk.inj (Option.some.inj (hborrow'.symm.trans hborrow))
      have hsize : s.mappingSize m = ((s.table t').value e').size := by
        unfold mappingSize
        rw [hb]
        dsimp only
        rw [hborrow, hview]
      split at h
      · next x hx =>
        obtain rfl := Failure.content.inj (Except.error.inj h)
        obtain ⟨hreport, hroom⟩ := EntryTable.resizeValue_error hlt hx
        obtain ⟨rfl, rfl⟩ := ContentError.capacityExceeded.inj hreport
        exact ⟨by rw [hsize], rfl, hroom⟩
      · cases h
    · cases h

omit [DecidableEq κ] hs in
/-- **What a writer reports** that cannot take so many bytes. -/
lemma accept_report {writer : HandleId} {x : Writer} {e : EntryId} {b : Payload}
    (hx : s.writer? writer = some x) (hsink : x.sink = .entry t e)
    (h : (s.accept writer b.bytes).2 = .error (.overCapacity requested available)) :
    requested = b.bytes.size ∧ available = (s.table t).budget.room ∧ available < requested := by
  unfold accept at h
  rw [hx] at h
  dsimp only at h
  split at h
  · rw [hsink] at h
    unfold writeSink at h
    dsimp only at h
    cases ha : (s.table t).appendValue e b.bytes with
    | ok table =>
      rw [ha] at h
      cases h
    | error y =>
      obtain ⟨rfl, hroom⟩ := EntryTable.appendValue_error b.size_lt ha
      rw [ha] at h
      obtain ⟨rfl, rfl⟩ := IoError.overCapacity.inj (Except.error.inj h)
      exact ⟨rfl, rfl, hroom⟩
  · cases h

omit [DecidableEq κ] hs in
/-- So does one that cannot take a payload. -/
lemma writeData_report {writer : HandleId} {x : Writer} {e : EntryId} {b : Payload}
    (hx : s.writer? writer = some x) (hsink : x.sink = .entry t e)
    (h : (s.writeData writer b.bytes).2 =
      .error (.writeStream (.overCapacity requested available))) :
    requested = b.bytes.size ∧ available = (s.table t).budget.room ∧ available < requested := by
  unfold writeData writeAll at h
  split at h
  · cases h
  · next s' y hy =>
    split at hy
    · cases hy
    · obtain rfl := Failure.writeStream.inj (Except.error.inj h)
      exact accept_report hx hsink (congrArg Prod.snd hy)

end Reports

/-! ### Every state that operations lead to -/

section States

variable [ToString κ] {s : Store κ}

omit [DecidableEq κ] [ToString κ] in
/-- An operation on an open repository is one on its backend. -/
lemma inRepository_open {α : Type} {r : RepositoryId} {b : Backend} (hb : s.backend? r = some b)
    (c : ClaimId) (act : Store κ → Backend → Store κ × Except Failure α) :
    s.inRepository r c act = act s b := by
  unfold inRepository
  rw [hb]

/-- **In a sound state, failures are clean.**

**Proof sketch.** By the call: what fails gave back all that it took, and an entry that it made is
taken out again. -/
lemma Sound.failuresAreClean (hs : s.Sound) : s.FailuresAreClean where
  map hb c n readOnly := by
    rw [mapContent, inRepository_open hb]
    exact failsCleanly_mapInTable hs n readOnly
  read hb c := by
    rw [readContent, inRepository_open hb]
    exact failsCleanly_readInTable
  write hb c append := by
    rw [writeContent, inRepository_open hb]
    exact failsCleanly_writeInTable hs append
  remove hb c := by
    rw [removeContent, inRepository_open hb]
    exact failsCleanly_removeIn
  mapClaim hr n readOnly := by
    rw [Store.mapClaim, routed_eq hr, inRepository_open (backend?_of_repositoryOf hr)]
    exact failsCleanly_mapInTable hs n readOnly
  readClaim hr := by
    rw [Store.readClaim, routed_eq hr, inRepository_open (backend?_of_repositoryOf hr)]
    exact failsCleanly_readInTable
  writeClaim hr append := by
    rw [Store.writeClaim, routed_eq hr, inRepository_open (backend?_of_repositoryOf hr)]
    exact failsCleanly_writeInTable hs append
  resize := failsCleanly_resize
  writeAt := failsCleanly_writeAt
  writeRaw writer _ := failsCleanly_accept writer _
  writeData := failsCleanly_writeData
  insertEntry := failsCleanly_insertEntry
  resizeValue := failsCleanly_resizeValue
  appendValue := failsCleanly_appendValue

/-- **In a sound state, what does not fit is reported.** -/
lemma Sound.reportsGrowth (hs : s.Sound) : s.ReportsGrowth where
  map hb c n requested available h := by
    rw [mapContent, inRepository_open hb] at h
    exact refuses_mapInTable hs h
  write hb c append requested available h := by
    rw [writeContent, inRepository_open hb] at h
    exact refuses_writeInTable hs h
  resize hm hb hborrow _ _ _ h := resize_report hs hm hb hborrow h
  writeRaw hx hsink _ _ _ h := by
    rw [Store.writeRaw, offered_entry hx hsink] at h
    exact accept_report hx hsink h
  writeData hx hsink _ _ _ h := writeData_report hx hsink h
  insertEntry {t key f} h := by
    unfold Store.insertEntry at h
    split at h
    · next x hx =>
      obtain rfl := Except.error.inj h
      obtain ⟨rfl, hf, hfull⟩ := EntryTable.getOrInsert_error (hs.tables_sound t).within hx
      exact ⟨rfl, hf, hfull⟩
    · cases h
  resizeValue {h t e} hborrow n f hf := by
    have hlt := (hs.tables_sound t).size_value_lt (hs.stored_borrowed hborrow)
    unfold Store.resizeValue at hf
    split at hf
    · next x hx =>
      obtain rfl := Except.error.inj hf
      obtain ⟨rfl, hroom⟩ := EntryTable.resizeValue_error hlt hx
      exact ⟨rfl, hroom⟩
    · cases hf
  appendValue {t e b f} hf := by
    unfold Store.appendValue at hf
    split at hf
    · next x hx =>
      obtain rfl := Except.error.inj hf
      obtain ⟨rfl, hroom⟩ := EntryTable.appendValue_error b.size_lt hx
      exact ⟨rfl, hroom⟩
    · cases hf

/-- **In a sound state, opens take one hold after the other.** -/
lemma Sound.takesInOrder (hs : s.Sound) : s.TakesInOrder where
  map hb c n readOnly := by
    rw [mapContent, inRepository_open hb, mapInOrder_eq (hs.knows hb).1]
    rfl
  read hb c := by
    rw [readContent, inRepository_open hb, readInOrder_eq (hs.knows hb).1]
    rfl
  write hb c append := by
    rw [writeContent, inRepository_open hb, writeInOrder_eq (hs.knows hb).1]
    rfl

/-- **Failed operations on a volatile repository are atomic.** In every state that operations lead
to, under whatever faults: an operation that fails leaves everything as callers saw it before; a
growth that does not fit is reported with its bytes and the room that there was; and what opens took
before they failed was given back in reverse. -/
theorem failuresAreClean_runUnder (name : String) (ops : List (Faults × Operation κ)) :
    ((onDirectory name : Store κ).runUnder ops).FailuresAreClean ∧
      ((onDirectory name : Store κ).runUnder ops).ReportsGrowth ∧
        ((onDirectory name : Store κ).runUnder ops).TakesInOrder :=
  have hs := sound_runUnder name ops
  ⟨hs.failuresAreClean, hs.reportsGrowth, hs.takesInOrder⟩

/-- A volatile repository of two entries and 4096 bytes, of which one mapping shows 100. -/
def smallRepository : List (Faults × Operation Nat) :=
  [(.quiet, .openRepository (.volatile 4096 2)), (.quiet, .addClaim "a" (some 0)),
    (.quiet, .addClaim "b" (some 0)), (.quiet, .mapClaim 0 100 false)]

/-- A mapping of 5000 bytes for the second claim makes an entry, and fails. The entry has left its
cell behind, but is found no more. -/
theorem failuresAreClean_smallRepository :
    ((onDirectory "d" : Store).runUnder smallRepository).backend? 0 = some (.volatile 0 0) ∧
      (((onDirectory "d" : Store).runUnder smallRepository).mapContent 0 1 5000 false).2 =
        .error (.content (.capacityExceeded 5000 3996)) ∧
      ((((onDirectory "d" : Store).runUnder smallRepository).mapContent 0 1 5000 false).1.table
        0).cells.length = 2 ∧
      ((onDirectory "d" : Store).runUnder smallRepository).Unaltered
        (((onDirectory "d" : Store).runUnder smallRepository).mapContent 0 1 5000 false).1 ∧
      (((onDirectory "d" : Store).runUnder smallRepository).table 0).Refuses (.text "b") 5000
        (.capacityExceeded 5000 3996) := by
  obtain ⟨hclean, hreports, -⟩ := failuresAreClean_runUnder (κ := Nat) "d" smallRepository
  have hb : ((onDirectory "d" : Store).runUnder smallRepository).backend? 0 =
      some (.volatile 0 0) := by decide +kernel
  have hfail : (((onDirectory "d" : Store).runUnder smallRepository).mapContent 0 1 5000 false).2 =
      .error (.content (.capacityExceeded 5000 3996)) := by decide +kernel
  have hmade : ((((onDirectory "d" : Store).runUnder smallRepository).mapContent 0 1 5000
      false).1.table 0).cells.length = 2 := by decide +kernel
  exact ⟨hb, hfail, hmade, hclean.map hb 1 5000 false _ hfail, hreports.map hb hfail⟩

end States

end ClaimStore.Store
