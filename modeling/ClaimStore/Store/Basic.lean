import ClaimStore.Handle
import ClaimStore.Key
import ClaimStore.Lease

/-!
# The state of a content store

The state of all repositories that share a disk, with the claims that name their content and the
handles that callers hold on it.

## Main definitions

* `ClaimStore.Claim`, `ClaimStore.Database`, `ClaimStore.Repository` — the parts of the state.
* `ClaimStore.Event` — what unmap hooks leave behind.
* `ClaimStore.Store` — the state.
* `Store.release`, `Store.releaseAll` — giving resources back.

## Design

Claims, databases, repositories, tables, budgets and registries are never taken out of the
state, since handles may go on using them after their names are gone; a repository that was
dropped is only marked as closed. A handle that is dropped leaves an empty place behind, so that
no number is used twice.
-/

set_option autoImplicit false

namespace ClaimStore

/-! ### Parts of the state -/

/-- A name for one content object, with the number of those who refer to it. -/
structure Claim where
  /-- The name of the content in its repository. -/
  identifier : String
  /-- The repository that the claim was made for, if any. -/
  repository : Option RepositoryId
  /-- The references taken and not yet given back. -/
  references : Nat
  deriving DecidableEq, Repr

/-- The rows of a database file. They are kept apart from the bytes of the file, which only show
that it is one. -/
structure Database where
  /-- The file. -/
  file : FileId
  /-- The keys, each at most once, with their bytes. -/
  rows : List (String × Bytes)
  deriving DecidableEq, Repr

namespace Database

/-- The bytes under a key. -/
def row? (d : Database) (key : String) : Option Bytes := d.rows.lookup key

/-- Removes the row under a key. -/
def erase (d : Database) (key : String) : Database :=
  { d with rows := d.rows.filter fun r => r.1 != key }

/-- Removes all rows. -/
def clear (d : Database) : Database := { d with rows := [] }

/-- Stores bytes under a key. -/
def put (d : Database) (key : String) (b : Bytes) : Database :=
  { d with rows := (key, b) :: (d.erase key).rows }

end Database

/-- Where a repository keeps content. -/
inductive Backend where
  /-- In files below a directory. -/
  | files (directory : Path) (writers readers : RegistryId)
  /-- In entries of a table. -/
  | volatile (table : TableId) (writers : RegistryId)
  /-- In rows of a database, which was opened under this path. -/
  | database (database : DatabaseId) (path : Path) (writers : RegistryId)
  deriving DecidableEq, Repr

/-- The name of a repository. -/
def Backend.name : Backend → String
  | .files .. => "FileSystemRepository"
  | .volatile .. => "VolatileContentRepository"
  | .database .. => "DatabaseContentRepository"

/-- A repository, which is open until it is dropped. -/
structure Repository where
  /-- Where the content is kept. -/
  backend : Backend
  /-- The repository was not dropped. -/
  isOpen : Bool
  deriving DecidableEq, Repr

/-- What is stored for a claim, seen through its own repository. -/
inductive StoredView where
  /-- The claim has no open repository. -/
  | noRepository
  /-- Nothing is stored. -/
  | absent
  /-- Content of this length is stored. -/
  | present (length : Nat)
  /-- It cannot be found out. -/
  | unknown (f : Failure)
  deriving DecidableEq, Repr

/-- What an attempt to find out a length shows. -/
def StoredView.ofLength : Except Failure (Option Nat) → StoredView
  | .ok none => .absent
  | .ok (some n) => .present n
  | .error f => .unknown f

/-- A claim at one moment. -/
structure ClaimView where
  /-- The number of references. -/
  references : Nat
  /-- What is stored. -/
  stored : StoredView
  deriving DecidableEq, Repr

/-- Something that is recorded while an operation runs. -/
inductive Event where
  /-- A hook ran with these bytes, and looked at a claim if it had one to look at. -/
  | hook (name : String) (view : Bytes) (probe : Option ClaimView)
  /-- A remark. -/
  | note (text : String)
  deriving DecidableEq, Repr

/-! ### The state -/

/-- The state of all repositories that share a disk. Keys of entry tables that are no texts are
of type `κ`. -/
structure Store (κ : Type := Nat) where
  /-- The disk. -/
  disk : Disk
  /-- The databases, one for each database file. -/
  databases : List Database
  /-- The claims. -/
  claims : List Claim
  /-- The repositories, open and closed. -/
  repositories : List Repository
  /-- The entry tables. -/
  tables : List (EntryTable (Key κ))
  /-- The budgets that belong to no table. -/
  budgets : List Budget
  /-- The writer registries. -/
  writerRegistries : List WriterRegistry
  /-- The reader registries. -/
  readerRegistries : List ReaderRegistry
  /-- The lists of hooks that belong to no mapping. -/
  hookLists : List UnmapHooks
  /-- The handles; the place of a dropped one is empty. -/
  handles : List (Option Handle)
  /-- What was recorded, oldest first. -/
  log : List Event

namespace Store

variable {κ : Type}

/-- The state in which nothing was made, on a disk that holds one empty directory. -/
def onDirectory (name : String) : Store κ where
  disk := .withDirectory name
  databases := []
  claims := []
  repositories := []
  tables := []
  budgets := []
  writerRegistries := []
  readerRegistries := []
  hookLists := []
  handles := []
  log := []

/-! ### Looking up the parts -/

/-- The identifier of a claim. -/
def identifier (s : Store κ) (c : ClaimId) : String :=
  match s.claims[c]? with
  | some x => x.identifier
  | none => ""

/-- The number of references of a claim. -/
def references (s : Store κ) (c : ClaimId) : Nat :=
  match s.claims[c]? with
  | some x => x.references
  | none => 0

/-- The backend of a repository that is open. -/
def backend? (s : Store κ) (r : RepositoryId) : Option Backend :=
  match s.repositories[r]? with
  | some x => if x.isOpen then some x.backend else none
  | none => none

/-- An entry table. -/
def table (s : Store κ) (t : TableId) : EntryTable (Key κ) :=
  match s.tables[t]? with
  | some x => x
  | none => .new 0 0

/-- Replaces an entry table. -/
def setTable (s : Store κ) (t : TableId) (x : EntryTable (Key κ)) : Store κ :=
  { s with tables := s.tables.set t x }

/-- A writer registry. -/
def writerRegistry (s : Store κ) (g : RegistryId) : WriterRegistry :=
  match s.writerRegistries[g]? with
  | some x => x
  | none => .empty

/-- A reader registry. -/
def readerRegistry (s : Store κ) (g : RegistryId) : ReaderRegistry :=
  match s.readerRegistries[g]? with
  | some x => x
  | none => .empty

/-- The row of a database under a key. -/
def row? (s : Store κ) (d : DatabaseId) (key : String) : Option Bytes :=
  match s.databases[d]? with
  | some x => x.row? key
  | none => none

/-- Changes a database. -/
def modifyDatabase (s : Store κ) (d : DatabaseId) (f : Database → Database) : Store κ :=
  { s with databases := s.databases.modify d f }

/-- A handle that was not dropped. -/
def handle? (s : Store κ) (h : HandleId) : Option Handle :=
  match s.handles[h]? with
  | some x => x
  | none => none

/-- The handle is a mapping. -/
def mapping? (s : Store κ) (h : HandleId) : Option Mapping :=
  match s.handle? h with
  | some (.mapping m) => some m
  | _ => none

/-- The handle is a reader. -/
def reader? (s : Store κ) (h : HandleId) : Option Reader :=
  match s.handle? h with
  | some (.reader r) => some r
  | _ => none

/-- The handle is a writer. -/
def writer? (s : Store κ) (h : HandleId) : Option Writer :=
  match s.handle? h with
  | some (.writer w) => some w
  | _ => none

/-- Replaces a handle. -/
def setHandle (s : Store κ) (h : HandleId) (x : Handle) : Store κ :=
  { s with handles := s.handles.set h (some x) }

/-- A new handle, with its number. -/
def addHandle (s : Store κ) (x : Handle) : Store κ × HandleId :=
  ({ s with handles := s.handles ++ [some x] }, s.handles.length)

/-- Adds to what was recorded. -/
def record (s : Store κ) (e : Event) : Store κ := { s with log := s.log ++ [e] }

/-! ### Resources -/

/-- Counts one more reference of a claim. -/
def takeReference (s : Store κ) (c : ClaimId) : Store κ :=
  { s with claims := s.claims.modify c fun x => { x with references := x.references + 1 } }

/-- Takes the write lease of an identifier. -/
def takeWriteLease (s : Store κ) (g : RegistryId) (identifier : String) :
    Except Failure (Store κ) :=
  match (s.writerRegistry g).acquire identifier with
  | .error e => .error (.content e)
  | .ok r => .ok { s with writerRegistries := s.writerRegistries.set g r }

/-- Takes one read lease of an identifier. -/
def takeReadLease (s : Store κ) (g : RegistryId) (identifier : String) : Store κ :=
  { s with readerRegistries := s.readerRegistries.modify g (·.acquire identifier) }

/-- Gives a resource back. -/
def release (s : Store κ) : Resource → Store κ
  | .reference c =>
    { s with claims := s.claims.modify c fun x => { x with references := x.references - 1 } }
  | .lease (.write g identifier) =>
    { s with writerRegistries := s.writerRegistries.modify g (·.release identifier) }
  | .lease (.read g identifier) =>
    { s with readerRegistries := s.readerRegistries.modify g (·.release identifier) }
  | .owner t e => { s with tables := s.tables.modify t (·.dropOwner e) }
  | .readLock t e => { s with tables := s.tables.modify t (·.endRead e) }
  | .writeLock t e => { s with tables := s.tables.modify t (·.endWrite e) }
  | .database _ => s

/-- Gives resources back, one after the other. -/
def releaseAll (s : Store κ) (rs : List Resource) : Store κ := rs.foldl release s

/-- A database whose file is open: a repository or a handle uses it. -/
def usesDatabase (s : Store κ) (d : DatabaseId) : Bool :=
  (s.repositories.any fun r =>
    r.isOpen && match r.backend with
      | .database d' _ _ => d' == d
      | .files .. | .volatile .. => false) ||
  s.handles.any fun h => match h with
    | some x => x.resources.contains (.database d)
    | none => false

end Store

/-! ### Failures of files -/

/-- The failure of a file operation. -/
def ioFailure (operation : String) (p : Path) (e : IoError) : Failure :=
  .content (.io operation p.toString e)

/-- The failure to find content: a request for no bytes says so, any other asks for too much. -/
def missingContent (identifier : String) (requested : Nat) : Failure :=
  if requested = 0 then .content (.notFound identifier)
  else .content (.insufficientBackingStore identifier requested 0)

end ClaimStore
