import ClaimStore.Config
import ClaimStore.Identifier
import ClaimStore.Store.Rows
import ClaimStore.Store.Volatile

/-!
# Repositories and claims

The operations on content, for whatever backend keeps it, and the claims through which callers
name it. A claim never keeps its repository open; once the repository is closed, access through
the claim fails.

## Main definitions

* `Store.openRepository`, `Store.closeRepository` — repositories.
* `Store.mapContent`, `Store.readContent`, `Store.writeContent`, `Store.removeContent` — content
  of a claim in a given repository.
* `Store.checkUnreferenced`, `Store.eraseIn`, `Store.eraseContent` — the two steps of a removal.
* `Store.mapClaim`, `Store.readClaim`, `Store.writeClaim` — content of a claim in its own
  repository.
* `Store.addClaim`, `Store.generateClaim`, `Store.acquire` — claims and references to them.

## Main results

* `Store.removeIn_cases` — a removal is refused, or it erases.
-/

set_option autoImplicit false

namespace ClaimStore.Store

variable {κ : Type} [DecidableEq κ] [ToString κ]

/-! ### Repositories -/

/-- A new repository that is open. -/
def addRepository (s : Store κ) (b : Backend) : Store κ × RepositoryId :=
  ({ s with repositories := s.repositories ++ [{ backend := b, isOpen := true }] },
    s.repositories.length)

/-- A new writer registry. -/
def addWriterRegistry (s : Store κ) : Store κ × RegistryId :=
  ({ s with writerRegistries := s.writerRegistries ++ [.empty] }, s.writerRegistries.length)

/-- A new reader registry. -/
def addReaderRegistry (s : Store κ) : Store κ × RegistryId :=
  ({ s with readerRegistries := s.readerRegistries ++ [.empty] }, s.readerRegistries.length)

/-- A new entry table. -/
def addTable (s : Store κ) (maxBytes maxCount : UInt64) : Store κ × TableId :=
  ({ s with tables := s.tables ++ [.new maxBytes maxCount] }, s.tables.length)

/-- Opens a file repository, after making its directory where it is missing. -/
def openFiles (s : Store κ) (directory : Path) : Store κ × Except Failure RepositoryId :=
  match s.disk.makeDirectories directory with
  | (d, .error e) => ({ s with disk := d }, .error (ioFailure "create directory" directory e))
  | (d, .ok ()) =>
    let (s, writers) := { s with disk := d }.addWriterRegistry
    let (s, readers) := s.addReaderRegistry
    succeed (s.addRepository (.files directory writers readers))

/-- Opens a volatile repository. -/
def openVolatile (s : Store κ) (maxBytes maxCount : UInt64) : Store κ × RepositoryId :=
  let (s, table) := s.addTable maxBytes maxCount
  let (s, writers) := s.addWriterRegistry
  s.addRepository (.volatile table writers)

/-- Opens a database repository. -/
def openRows (s : Store κ) (p : Path) : Store κ × Except Failure RepositoryId :=
  match s.openDatabase p with
  | (s, .error f) => (s, .error f)
  | (s, .ok d) =>
    let (s, writers) := s.addWriterRegistry
    succeed (s.addRepository (.database d p writers))

/-- Opens a repository of a kind. -/
def openRepository (s : Store κ) : RepositoryKind → Store κ × Except Failure RepositoryId
  | .files directory => s.openFiles directory
  | .volatile maxBytes maxCount => succeed (s.openVolatile maxBytes maxCount)
  | .database p => s.openRows p

/-- Opens the repository that a builder describes. -/
def openBuilt (s : Store κ) (b : Builder) : Store κ × Except Failure RepositoryId :=
  match b.target with
  | .error f => (s, .error f)
  | .ok kind => s.openRepository kind

/-- Closes a repository. What callers hold of its content stays usable. -/
def closeRepository (s : Store κ) (r : RepositoryId) : Store κ :=
  { s with repositories := s.repositories.modify r fun x => { x with isOpen := false } }

/-! ### Content -/

/-- A mapping of the content of a claim in a backend. -/
def mapIn (s : Store κ) (b : Backend) (c : ClaimId) (n : UInt64) (readOnly : Bool) :
    Store κ × Except Failure HandleId :=
  match b with
  | .files directory writers readers => s.mapInFiles directory writers readers c n readOnly
  | .volatile t writers => s.mapInTable t writers c n readOnly
  | .database d _ writers => s.mapInRows d writers c n readOnly

/-- A reader of the content of a claim in a backend. -/
def readIn (s : Store κ) (b : Backend) (c : ClaimId) : Store κ × Except Failure HandleId :=
  match b with
  | .files directory _ _ => s.readInFiles directory c
  | .volatile t _ => s.readInTable t c
  | .database d _ _ => s.readInRows d c

/-- A writer to the content of a claim in a backend. -/
def writeIn (s : Store κ) (b : Backend) (c : ClaimId) (append : Bool) :
    Store κ × Except Failure HandleId :=
  match b with
  | .files directory writers readers => s.writeInFiles directory writers readers c append
  | .volatile t writers => s.writeInTable t writers c append
  | .database d _ writers => s.writeInRows d writers c append

/-- Looks at the references of a claim, which a removal does first. -/
def checkUnreferenced (s : Store κ) (c : ClaimId) : Except Failure Unit :=
  if 0 < s.references c then
    .error (.content (.claimInUse (s.identifier c) (s.references c)))
  else .ok ()

/-- Erases the content of a claim from a backend, which a removal does last. It does not look at the
references again. -/
def eraseIn (s : Store κ) (b : Backend) (c : ClaimId) : Store κ × Except Failure Bool :=
  match b with
  | .files directory _ _ => s.removeInFiles directory (s.identifier c)
  | .volatile t _ => s.removeInTable t (s.identifier c)
  | .database d _ _ => s.removeInRows d (s.identifier c)

/-- Removes the content of a claim from a backend, unless the claim is referenced: the look and the
erase with nothing in between. -/
def removeIn (s : Store κ) (b : Backend) (c : ClaimId) : Store κ × Except Failure Bool :=
  match s.checkUnreferenced c with
  | .error f => (s, .error f)
  | .ok () => s.eraseIn b c

/-- Runs an operation on the backend of a repository that is open. -/
def inRepository {α : Type} (s : Store κ) (r : RepositoryId) (c : ClaimId)
    (act : Store κ → Backend → Store κ × Except Failure α) : Store κ × Except Failure α :=
  match s.backend? r with
  | some b => act s b
  | none => (s, .error (.content (.repositoryUnavailable (s.identifier c))))

/-- Runs an operation on the backend of the repository of a claim. -/
def routed {α : Type} (s : Store κ) (c : ClaimId)
    (act : Store κ → Backend → Store κ × Except Failure α) : Store κ × Except Failure α :=
  match s.repositoryOf c with
  | some (_, b) => act s b
  | none => (s, .error (.content (.repositoryUnavailable (s.identifier c))))

/-- A mapping of the content of a claim in a repository. -/
def mapContent (s : Store κ) (r : RepositoryId) (c : ClaimId) (n : UInt64) (readOnly : Bool) :
    Store κ × Except Failure HandleId :=
  s.inRepository r c fun s b => s.mapIn b c n readOnly

/-- A reader of the content of a claim in a repository. -/
def readContent (s : Store κ) (r : RepositoryId) (c : ClaimId) :
    Store κ × Except Failure HandleId :=
  s.inRepository r c fun s b => s.readIn b c

/-- A writer to the content of a claim in a repository. -/
def writeContent (s : Store κ) (r : RepositoryId) (c : ClaimId) (append : Bool) :
    Store κ × Except Failure HandleId :=
  s.inRepository r c fun s b => s.writeIn b c append

/-- Removes the content of a claim from a repository, unless the claim is referenced. The answer
says whether there was any. -/
def removeContent (s : Store κ) (r : RepositoryId) (c : ClaimId) : Store κ × Except Failure Bool :=
  s.inRepository r c fun s b => s.removeIn b c

/-- Erases the content of a claim from a repository. The answer says whether there was any. -/
def eraseContent (s : Store κ) (r : RepositoryId) (c : ClaimId) : Store κ × Except Failure Bool :=
  s.inRepository r c fun s b => s.eraseIn b c

/-- A mapping of the content of a claim in its own repository. -/
def mapClaim (s : Store κ) (c : ClaimId) (n : UInt64) (readOnly : Bool) :
    Store κ × Except Failure HandleId :=
  s.routed c fun s b => s.mapIn b c n readOnly

/-- A reader of the content of a claim in its own repository. -/
def readClaim (s : Store κ) (c : ClaimId) : Store κ × Except Failure HandleId :=
  s.routed c fun s b => s.readIn b c

/-- A writer to the content of a claim in its own repository. -/
def writeClaim (s : Store κ) (c : ClaimId) (append : Bool) : Store κ × Except Failure HandleId :=
  s.routed c fun s b => s.writeIn b c append

/-! ### The two steps of a removal -/

omit [ToString κ] in
/-- A removal of content that is referenced is refused, and changes nothing. -/
theorem removeIn_of_referenced {s : Store κ} {c : ClaimId} (h : 0 < s.references c) (b : Backend) :
    s.removeIn b c =
      (s, .error (.content (.claimInUse (s.identifier c) (s.references c)))) := by
  rw [removeIn, checkUnreferenced, if_pos h]

omit [ToString κ] in
/-- A removal of content that is not referenced erases it. -/
theorem removeIn_of_unreferenced {s : Store κ} {c : ClaimId} (h : s.references c = 0)
    (b : Backend) : s.removeIn b c = s.eraseIn b c := by
  rw [removeIn, checkUnreferenced, if_neg (Nat.not_lt.2 (Nat.le_of_eq h))]

omit [ToString κ] in
/-- **A removal is refused, or it erases**: nothing comes between its check and its erase. -/
theorem removeIn_cases (s : Store κ) (b : Backend) (c : ClaimId) :
    (∃ f, s.removeIn b c = (s, .error f)) ∨
      (s.references c = 0 ∧ s.removeIn b c = s.eraseIn b c) := by
  rcases Nat.eq_zero_or_pos (s.references c) with h | h
  · exact .inr ⟨h, removeIn_of_unreferenced h b⟩
  · exact .inl ⟨_, removeIn_of_referenced h b⟩

/-! ### Claims -/

/-- A new claim. -/
def addClaim (s : Store κ) (identifier : String) (r : Option RepositoryId) : Store κ × ClaimId :=
  ({ s with claims := s.claims ++ [{ identifier, repository := r, references := 0 }] },
    s.claims.length)

/-- A new claim under the identifier that is drawn with these bits. -/
def generateClaim (s : Store κ) (r : RepositoryId) (bits : Nat) : Store κ × ClaimId :=
  s.addClaim (Identifier.ofBits bits) (some r)

/-- The claim is not referenced, so that its content may be removed. -/
def isReclaimable (s : Store κ) (c : ClaimId) : Bool := s.references c == 0

/-- A reference to a claim. -/
def acquire (s : Store κ) (c : ClaimId) : Store κ × HandleId :=
  (s.takeReference c).addHandle (.reference c)

end ClaimStore.Store
