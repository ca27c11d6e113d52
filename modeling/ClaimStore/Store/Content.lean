import ClaimStore.Store.Basic

/-!
# Looking at stored content

Whether content is stored for an identifier, and how long it is, without opening it.

## Main definitions

* `ClaimStore.contentPath` — the file of an identifier below a directory.
* `Disk.storedLength` — the length of a regular file.
* `Store.storedLength` — the length of the content that a repository stores for a claim.
* `Store.claimView` — a claim at this moment.
-/

set_option autoImplicit false

namespace ClaimStore

/-- The path of the file that holds the content of an identifier. -/
def contentPath (directory : Path) (identifier : String) : Path :=
  directory.join (.ofString identifier)

/-- The length of the regular file that a path leads to, if it leads to one. -/
def Disk.storedLength (d : Disk) (p : Path) : Except Failure (Option Nat) :=
  match d.resolve p with
  | .ok (.file id) => .ok (some (d.bytes id).size)
  | .ok (.directory _) => .ok none
  | .error (.os .notFound) => .ok none
  | .error e => .error (ioFailure "read metadata of" p e)

namespace Store

variable {κ : Type} [DecidableEq κ]

/-- The length of the content that a backend stores under an identifier, if there is any. -/
def lengthIn (s : Store κ) (b : Backend) (identifier : String) : Except Failure (Option Nat) :=
  match b with
  | .files directory _ _ => s.disk.storedLength (contentPath directory identifier)
  | .volatile t _ => .ok ((s.table t).valueLen? (.text identifier))
  | .database d _ _ => .ok ((s.row? d identifier).map Bytes.size)

/-- The length of the content that a repository stores for a claim, if there is any. -/
def storedLength (s : Store κ) (r : RepositoryId) (c : ClaimId) : Except Failure (Option Nat) :=
  match s.backend? r with
  | none => .error (.content (.repositoryUnavailable (s.identifier c)))
  | some b => s.lengthIn b (s.identifier c)

/-- The repository stores content for the claim. -/
def holdsContent (s : Store κ) (r : RepositoryId) (c : ClaimId) : Except Failure Bool :=
  (s.storedLength r c).map Option.isSome

/-- The open repository that a claim was made for. -/
def repositoryOf (s : Store κ) (c : ClaimId) : Option (RepositoryId × Backend) :=
  match s.claims[c]? with
  | none => none
  | some x =>
    match x.repository with
    | none => none
    | some r => (s.backend? r).map fun b => (r, b)

/-- A claim at this moment. -/
def claimView (s : Store κ) (c : ClaimId) : ClaimView where
  references := s.references c
  stored :=
    match s.repositoryOf c with
    | none => .noRepository
    | some (_, b) => .ofLength (s.lengthIn b (s.identifier c))

end Store

end ClaimStore
