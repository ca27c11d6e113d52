import ClaimStore.Disk
import ClaimStore.Limits
import ClaimStore.Resource

/-!
# Readers and writers

A reader moves through content from its beginning; a writer adds to content or replaces it. Both
hold a reference of the claim through which they were opened until they are dropped. A writer is
open as long as it has its lease.

## Main definitions

* `ClaimStore.Source`, `ClaimStore.Reader` — where a reader reads, and how far it is.
* `ClaimStore.Sink`, `ClaimStore.Writer` — where a writer writes, and how much it wrote.
* `Source.atOnce`, `Sink.atOnce` — how much a raw read or write moves.
-/

set_option autoImplicit false

namespace ClaimStore

/-! ### Readers -/

/-- Where a reader reads. -/
inductive Source where
  /-- An open file, which had this length when it was opened. -/
  | file (opened : Item) (length : Nat)
  /-- The value of an entry, locked for reading. -/
  | entry (table : TableId) (entry : EntryId)
  /-- Bytes that were loaded when the reader was opened. -/
  | bytes (b : Bytes)
  deriving DecidableEq, Repr

/-- The number of bytes that one raw read delivers at most, where so many are asked for: a file
moves a limited number of bytes at once. -/
def Source.atOnce : Source → Nat → Nat
  | .file .., n => min n Limits.maxFileTransfer
  | .entry .., n | .bytes _, n => n

/-- No more is moved at once than is asked for. -/
theorem Source.atOnce_le (x : Source) (n : Nat) : x.atOnce n ≤ n := by
  cases x with
  | file => exact Nat.min_le_left ..
  | entry | bytes => exact Nat.le_refl n

/-- What does not exceed the limit of a file is moved at once by every source. -/
theorem Source.atOnce_of_le (x : Source) {n : Nat} (h : n ≤ Limits.maxFileTransfer) :
    x.atOnce n = n := by
  cases x with
  | file => exact Nat.min_eq_left h
  | entry | bytes => rfl

/-- Something is moved where something is asked for. -/
theorem Source.atOnce_pos (x : Source) {n : Nat} (h : 0 < n) : 0 < x.atOnce n := by
  cases x with
  | file => exact Nat.lt_min.2 ⟨h, by decide⟩
  | entry | bytes => exact h

/-- What a source holds. -/
def Source.resources : Source → List Resource
  | .entry t e => [.readLock t e, .owner t e]
  | .file .. | .bytes _ => []

/-- A position in content. -/
structure Reader where
  /-- The claim whose content is read. -/
  claim : ClaimId
  /-- Where the reader reads. -/
  source : Source
  /-- The number of bytes before the next one to be read. -/
  position : Nat
  deriving DecidableEq, Repr

/-- What a reader holds. -/
def Reader.resources (r : Reader) : List Resource := r.source.resources ++ [.reference r.claim]

/-! ### Writers -/

/-- Where a writer writes. -/
inductive Sink where
  /-- An open file, at an offset or, without one, at its end. -/
  | file (id : FileId) (offset : Option Nat)
  /-- The value of an entry, locked for writing while the writer is open. -/
  | entry (table : TableId) (entry : EntryId)
  /-- A buffer that becomes a row of a database when the writer is closed. -/
  | row (database : DatabaseId) (key : String) (buffer : Bytes)
  deriving DecidableEq, Repr

/-- The number of bytes that one raw write takes, where so many are offered and it succeeds: a file
moves a limited number of bytes at once. -/
def Sink.atOnce : Sink → Nat → Nat
  | .file .., n => min n Limits.maxFileTransfer
  | .entry .., n | .row .., n => n

/-- What does not exceed the limit of a file is moved at once to every sink. -/
theorem Sink.atOnce_of_le (x : Sink) {n : Nat} (h : n ≤ Limits.maxFileTransfer) :
    x.atOnce n = n := by
  cases x with
  | file => exact Nat.min_eq_left h
  | entry | row => rfl

/-- An addition to content, or a replacement. -/
structure Writer where
  /-- The claim whose content is written. -/
  claim : ClaimId
  /-- Where the writer writes. -/
  sink : Sink
  /-- The number of bytes written. -/
  written : Nat
  /-- The write lease, as long as the writer is open. -/
  lease : Option Lease
  deriving DecidableEq, Repr

namespace Writer

/-- The writer was not closed yet. -/
def isOpen (w : Writer) : Bool := w.lease.isSome

/-- What is given back when the writer is closed. -/
def openResources (w : Writer) : List Resource :=
  match w.lease with
  | none => []
  | some l =>
    match w.sink with
    | .entry t e => [.writeLock t e, .lease l]
    | .file .. | .row .. => [.lease l]

/-- What is given back when the writer is dropped. -/
def keptResources (w : Writer) : List Resource :=
  match w.sink with
  | .entry t e => [.owner t e, .reference w.claim]
  | .row d _ _ => [.database d, .reference w.claim]
  | .file .. => [.reference w.claim]

/-- What a writer holds. -/
def resources (w : Writer) : List Resource := w.openResources ++ w.keptResources

end Writer

end ClaimStore
