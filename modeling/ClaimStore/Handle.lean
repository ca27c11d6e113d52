import ClaimStore.Handle.Mapping
import ClaimStore.Handle.Stream

/-!
# Handles

A handle is a live object that a caller made and may drop: a mapping, a reader, a writer, or one
of the plain guards that hold a single resource.

## Main definitions

* `ClaimStore.Handle` — the sorts of handle.
* `Handle.resources` — what a handle holds.
-/

set_option autoImplicit false

namespace ClaimStore

/-- The number of a handle, which is never used again. -/
abbrev HandleId := Nat

/-- A live object that a caller made and may drop. -/
inductive Handle where
  /-- A mapping. -/
  | mapping (m : Mapping)
  /-- A reader. -/
  | reader (r : Reader)
  /-- A writer. -/
  | writer (w : Writer)
  /-- A reference of a claim. -/
  | reference (claim : ClaimId)
  /-- A lease. -/
  | lease (l : Lease)
  /-- A borrow of an entry. -/
  | borrow (table : TableId) (entry : EntryId)
  /-- A place inside the lock of a value, as its writer or as a reader. -/
  | guard (table : TableId) (entry : EntryId) (writing : Bool)
  deriving DecidableEq, Repr

/-- What a handle holds. -/
def Handle.resources : Handle → List Resource
  | .mapping m => m.resources
  | .reader r => r.resources
  | .writer w => w.resources
  | .reference claim => [.reference claim]
  | .lease l => [.lease l]
  | .borrow t e => [.owner t e]
  | .guard t e true => [.writeLock t e]
  | .guard t e false => [.readLock t e]

end ClaimStore
