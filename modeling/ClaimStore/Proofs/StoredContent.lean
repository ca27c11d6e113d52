import ClaimStore.Proofs.Confinement
import ClaimStore.Proofs.EntryKeeper
import ClaimStore.Proofs.Presence
import ClaimStore.Proofs.RowKeeper

/-!
# Stored content, asked for in every way

What a repository stores for a claim is one string of bytes, whichever way it is asked for: its
length is the length of content, a reader delivers it to the end, and a read-only mapping of more is
refused and says how long it is. A value of an entry has to be free of a writer for that.

## Main definitions

* `Store.storedBytes?` — the bytes that a backend stores under an identifier.
* `Store.Stores` — all answers agree on the bytes that are stored for a claim.
* `Store.Rests` — bytes are stored, and no writer is inside the lock of their value.

## Main results

* `Store.Rests.stores` — where bytes rest, all answers agree on them.
-/

set_option autoImplicit false

namespace ClaimStore

/-- The name that content has in the refusal of a mapping that asks for too much. -/
def Backend.shownName (b : Backend) (x : String) : String :=
  match b with
  | .files D _ _ => (contentPath D x).toString
  | .volatile .. => Text.quoted x
  | .database .. => x

namespace Store

variable {κ : Type} [DecidableEq κ] {s s' : Store κ} {r : RepositoryId} {c : ClaimId} {b : Backend}
  {x : String} {v : Bytes}

/-- The bytes that a backend stores under an identifier, if there are any. -/
def storedBytes? (s : Store κ) (b : Backend) (x : String) : Option Bytes :=
  match b with
  | .files D _ _ => s.disk.fileBytes? (contentPath D x)
  | .volatile t _ => (s.table t).content x
  | .database d _ _ => s.row? d x

/-- **All answers agree on the bytes that a repository stores for a claim.** -/
structure Stores [ToString κ] (s : Store κ) (r : RepositoryId) (b : Backend) (c : ClaimId)
    (v : Bytes) : Prop where
  /-- They are stored. -/
  bytes_eq : s.storedBytes? b (s.identifier c) = some v
  /-- Their length is shown. -/
  size_eq : s.storedLength r c = .ok (some v.size)
  /-- A read-only mapping of more is refused, and the refusal says how many there are. -/
  short : ∀ n : UInt64, v.size < n.toNat → (s.mapContent r c n true).2 =
    .error (.content (.insufficientBackingStore (b.shownName (s.identifier c)) n.toNat v.size))
  /-- A reader has their length and delivers them. -/
  reads : ∃ h k, (s.readContent r c).2 = .ok h ∧ (s.readContent r c).1.reader? h = some k ∧
    (s.readContent r c).1.readerLength k = v.size ∧
      ((s.readContent r c).1.readToEnd h).2 = .ok v

/-- **Bytes rest under an identifier**: they are stored, and nobody is inside the lock of their
value as a writer. -/
def Rests (s : Store κ) (b : Backend) (x : String) (v : Bytes) : Prop :=
  match b with
  | .files D _ _ => ∃ id, s.disk.resolve (contentPath D x) = .ok (.file id) ∧ s.disk.bytes id = v
  | .volatile t _ => ∃ C, HasEntries s t C ∧ C x = some v ∧
    ∀ e, (s.table t).find? (.text x) = some e → (s.table t).tally e .writeLock = 0
  | .database d _ _ => s.row? d x = some v

/-- A repository that opens such a reader delivers its bytes. -/
lemma Delivers.reads {source : Source} (hd : Delivers s' source v)
    (h : s.readContent r c = succeed (s'.addReader c source)) :
    ∃ i k, (s.readContent r c).2 = .ok i ∧ (s.readContent r c).1.reader? i = some k ∧
      (s.readContent r c).1.readerLength k = v.size ∧
        ((s.readContent r c).1.readToEnd i).2 = .ok v := by
  obtain ⟨hreader, hdelivers⟩ := readToEnd_addReader c hd.1
  rw [h]
  refine ⟨s'.handles.length, _, rfl, hreader, ?_, hdelivers⟩
  rw [← hd.2 ⟨c, source, 0⟩ rfl]
  cases source <;> rfl

/-- Bytes rest while something else changes. -/
lemma Rests.besides (h : s.Rests b x v) (hb : Besides s s') : s'.Rests b x v := by
  cases b with
  | files D w g =>
    show ∃ id, s'.disk.resolve _ = _ ∧ s'.disk.bytes id = v
    rw [hb.disk_eq]
    exact h
  | volatile t w =>
    obtain ⟨C, hhas, hv, hfree⟩ := h
    have htable : s'.table t = s.table t := by rw [table, table, hb.tables_eq]
    refine ⟨C, hhas.congr hb.tables_eq, hv, ?_⟩
    rw [htable]
    exact hfree
  | database d p w =>
    show s'.row? d x = some v
    rw [row?, hb.databases_eq]
    exact h

variable [ToString κ]

/-- **Where bytes rest, all answers agree on them.**

**Proof sketch.** By the backend: in each the stored bytes, the length, a mapping that is too long
and a reader find the same file, entry or row. -/
lemma Rests.stores (h : s.Rests b (s.identifier c) v) (hb : s.backend? r = some b) :
    s.Stores r b c v := by
  cases b with
  | files D w g =>
    obtain ⟨id, hfile, rfl⟩ := h
    refine ⟨?_, ?_, fun n hn => ?_, ?_⟩
    · rw [storedBytes?, Disk.fileBytes?, hfile]
    · rw [storedLength_files hb, Disk.storedLength, hfile]
    · rw [mapContent_files hb]
      unfold mapInFiles
      simp only [if_true, Disk.storedLength, hfile, FileBacking.openReadOnly_of_lt hfile hn]
      rfl
    · have hdelivers : Delivers s (.file (.file id) (s.disk.bytes id).size) (s.disk.bytes id) :=
        ⟨rfl, fun k hk => by rw [readerLength, hk]⟩
      exact hdelivers.reads (readContent_file hb hfile)
  | volatile t w =>
    obtain ⟨C, hhas, hv, hfree⟩ := h
    refine ⟨?_, ?_, fun n hn => ?_, ?_⟩
    · rw [storedBytes?, hhas.holds.content_eq, hv]
    · rw [storedLength, hb]
      dsimp only
      rw [lengthIn, hhas.holds.valueLen?_eq, hv]
      rfl
    · rw [mapContent, inRepository, hb]
      dsimp only
      rw [mapIn, mapInTable_short hhas hfree hv hn]
      rfl
    · obtain ⟨s', source, -, hopen, -, hdelivers, -⟩ := readInTable_some hhas hfree hv
      refine hdelivers.reads ?_
      rw [readContent, inRepository, hb]
      exact hopen
  | database d p w =>
    have hrow : s.row? d (s.identifier c) = some v := h
    refine ⟨hrow, ?_, fun n hn => ?_, ?_⟩
    · rw [storedLength, hb]
      dsimp only
      rw [lengthIn, hrow]
      rfl
    · rw [mapContent, inRepository, hb]
      unfold mapIn mapInRows
      simp only [if_true, hrow, if_pos hn]
      rfl
    · have hdelivers : Delivers s (.bytes v) v := ⟨rfl, fun k hk => by rw [readerLength, hk]⟩
      refine hdelivers.reads ?_
      rw [readContent, inRepository, hb]
      dsimp only
      rw [readIn, readInRows, hrow]

end Store

end ClaimStore
