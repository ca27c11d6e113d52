import ClaimStore.Disk
import ClaimStore.Hook

/-!
# Mappings

A mapping shows bytes that are kept elsewhere as an array of fixed length: part of a file, the
value of an entry, or a buffer of its own. It is read-only or writable for good, and it carries
the hooks that run when it is unmapped.

## Main definitions

* `ClaimStore.FileBacking`, `ClaimStore.EntryBacking`, `ClaimStore.BufferBacking` — the three
  places where the bytes are kept.
* `ClaimStore.Mapping` — a mapping.

## Design

A file mapping distinguishes *released* (`opened` is `none`, for good) from *unmapped* (`region`
is `.unmapped`): a failed change of length leaves it unmapped but not released.
-/

set_option autoImplicit false

namespace ClaimStore

/-! ### Files -/

/-- The part of a file that a mapping shows. -/
inductive Region where
  /-- The first bytes of the file, shared with every other mapping of it. -/
  | mapped
  /-- The empty view, which needs no mapped memory. -/
  | empty
  /-- No view. -/
  | unmapped
  deriving DecidableEq, Repr

/-- What has to agree before a file mapping becomes shorter. -/
inductive Gate where
  /-- Never agrees, in the name of this claim. -/
  | refuse (claim : String)
  /-- Agrees while no read lease of the identifier is live. -/
  | readers (registry : RegistryId) (identifier : String)
  deriving DecidableEq, Repr

/-- A file that is open and shown by a mapping. -/
structure FileBacking where
  /-- The path under which the file was opened. -/
  path : Path
  /-- What was opened, until the mapping is released. -/
  opened : Option Item
  /-- The part that is shown. -/
  region : Region
  /-- The number of bytes shown, or shown last. -/
  length : Nat
  /-- What has to agree before the mapping becomes shorter. -/
  gate : Option Gate
  deriving DecidableEq, Repr

/-- Writes back what was changed in the part that is shown. -/
def FileBacking.flush (b : FileBacking) (d : Disk) : Disk :=
  match b.region, b.opened with
  | .mapped, some (.file id) => d.flush id b.length
  | _, _ => d

/-! ### Entries -/

/-- The hold of a mapping on the lock of a value. -/
inductive EntryView where
  /-- A place as a reader. -/
  | read
  /-- The place of the writer. -/
  | write
  /-- None. -/
  | released
  deriving DecidableEq, Repr

/-- An entry that is borrowed and shown by a mapping. -/
structure EntryBacking where
  /-- The entry, which stays borrowed until the mapping is dropped. A mapping that was made for an
  absent key has none. -/
  borrow : Option (TableId × EntryId)
  /-- The size asked for last. -/
  size : Nat
  /-- The hold on the lock of the value. -/
  view : EntryView
  deriving DecidableEq, Repr

namespace EntryBacking

/-- What an entry backing holds until its view ends. -/
def viewResources (b : EntryBacking) : List Resource :=
  match b.borrow, b.view with
  | some (t, e), .read => [.readLock t e]
  | some (t, e), .write => [.writeLock t e]
  | _, _ => []

/-- What an entry backing holds until its mapping is dropped. -/
def keptResources (b : EntryBacking) : List Resource :=
  match b.borrow with
  | some (t, e) => [.owner t e]
  | none => []

end EntryBacking

/-! ### Buffers -/

/-- A buffer that belongs to its mapping. -/
structure BufferBacking where
  /-- The bytes, until the mapping is released. -/
  buffer : Option Bytes
  /-- The most bytes that the buffer can hold, if it is limited. -/
  capacity : Option Nat
  deriving DecidableEq, Repr

/-- Cuts or zero-pads a buffer to `n` bytes, unless they are above its capacity. -/
def BufferBacking.resized (b : BufferBacking) (buffer : Bytes) (n : Nat) :
    Except Failure Bytes :=
  match b.capacity with
  | none => .ok (buffer.fit n)
  | some capacity =>
    if capacity < n then .error (.overBuffer capacity) else .ok (buffer.fit n)

/-! ### Mappings -/

/-- The place where the bytes of a mapping are kept. -/
inductive Backing where
  | file (b : FileBacking)
  | entry (b : EntryBacking)
  | buffer (b : BufferBacking)
  deriving DecidableEq, Repr

namespace Backing

/-- What a backing holds until its view ends. -/
def viewResources : Backing → List Resource
  | .entry b => b.viewResources
  | .file _ | .buffer _ => []

/-- What a backing holds until its mapping is dropped. -/
def keptResources : Backing → List Resource
  | .entry b => b.keptResources
  | .file _ | .buffer _ => []

/-- The backing shows bytes. -/
def isValid : Backing → Bool
  | .file b => b.region != .unmapped
  | .entry b => b.borrow.isSome && b.view != .released
  | .buffer b => b.buffer.isSome

/-- A backing whose view has ended for good. -/
def closed : Backing → Backing
  | .file b => .file { b with opened := none, region := .unmapped }
  | .entry b => .entry { b with view := .released }
  | .buffer b => .buffer { b with buffer := none }

end Backing

/-- Bytes shown as an array. -/
structure Mapping where
  /-- The place where the bytes are kept. -/
  backing : Backing
  /-- The bytes cannot be changed through this mapping. -/
  readOnly : Bool
  /-- The hooks that run at unmap. -/
  hooks : UnmapHooks
  deriving DecidableEq, Repr

/-- What a mapping holds: what its hooks give back, then what its backing does. -/
def Mapping.resources (m : Mapping) : List Resource :=
  m.hooks.resources ++ m.backing.viewResources ++ m.backing.keptResources

end ClaimStore
