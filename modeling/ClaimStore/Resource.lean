import ClaimStore.EntryTable

/-!
# Resources

What a live object of the store keeps from others until it is given back. Every counter, lock
and registry of the store records resources that some handle holds; giving a handle up gives its
resources back.

## Main definitions

* `ClaimStore.Lease` — a lease of an identifier in a registry.
* `ClaimStore.Resource` — anything that is held and given back.
-/

set_option autoImplicit false

namespace ClaimStore

/-- The number of a claim. -/
abbrev ClaimId := Nat

/-- The number of a repository. -/
abbrev RepositoryId := Nat

/-- The number of an entry table. -/
abbrev TableId := Nat

/-- The number of a database. -/
abbrev DatabaseId := Nat

/-- The number of a registry among those of its sort. -/
abbrev RegistryId := Nat

/-- A lease of an identifier. -/
inductive Lease where
  /-- The write lease of the identifier in a writer registry. -/
  | write (registry : RegistryId) (identifier : String)
  /-- One read lease of the identifier in a reader registry. -/
  | read (registry : RegistryId) (identifier : String)
  deriving DecidableEq, Repr

/-- Something that is held and given back. -/
inductive Resource where
  /-- One reference of a claim. -/
  | reference (claim : ClaimId)
  /-- A lease of an identifier. -/
  | lease (l : Lease)
  /-- One ownership of an entry. -/
  | owner (table : TableId) (entry : EntryId)
  /-- A place as a reader inside the lock of a value. -/
  | readLock (table : TableId) (entry : EntryId)
  /-- The place of the writer inside the lock of a value. -/
  | writeLock (table : TableId) (entry : EntryId)
  /-- A use of a database that keeps its file open. -/
  | database (database : DatabaseId)
  deriving DecidableEq, Repr

end ClaimStore
