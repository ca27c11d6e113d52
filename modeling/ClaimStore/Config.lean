import ClaimStore.Error
import ClaimStore.Limits
import ClaimStore.Path
import ClaimStore.Text.Blank

/-!
# Configuration

A configuration is a set of named properties. One of them names the class of the repository to
open; the others matter only for the class they belong to. Values are read without the blanks
around them, and the class is matched without regard to ASCII case and to any number of trailing
`repository` in it.

A builder collects a kind of repository and limits that replace those of a volatile kind.

## Main definitions

* `ClaimStore.RepositoryKind` — what repository to open, with what.
* `ClaimStore.Config`, `Config.repositoryKind` — properties, and the kind they describe.
* `ClaimStore.Builder`, `Builder.target` — a kind with limits laid over it.
-/

set_option autoImplicit false

namespace ClaimStore

/-! ### Kinds of repository -/

/-- What repository to open. -/
inductive RepositoryKind where
  /-- Files below a directory. -/
  | files (directory : Path)
  /-- Entries in memory, under two limits. -/
  | volatile (maxBytes maxCount : UInt64)
  /-- Rows of a database file. -/
  | database (path : Path)
  deriving DecidableEq, Repr

namespace RepositoryKind

/-- The volatile kind under the limits that hold when none are given. -/
def defaultVolatile : RepositoryKind :=
  .volatile Limits.defaultVolatileBytes Limits.defaultVolatileCount

/-- The name of the repositories of a kind. -/
def name : RepositoryKind → String
  | .files _ => "FileSystemRepository"
  | .volatile .. => "VolatileContentRepository"
  | .database _ => "DatabaseContentRepository"

/-- The content of the repository outlives it. -/
def isPersistent : RepositoryKind → Bool
  | .volatile .. => false
  | _ => true

end RepositoryKind

/-! ### Properties -/

/-- Named properties. -/
structure Config where
  /-- The names, each at most once, with their values. -/
  properties : List (String × String)
  deriving DecidableEq, Repr

namespace Config

/-- The configuration without properties. -/
def empty : Config := ⟨[]⟩

/-- Gives a property a value. -/
def set (c : Config) (key value : String) : Config :=
  ⟨(key, value) :: c.properties.filter fun p => p.1 != key⟩

/-- The configuration with these properties; the last value of a name counts. -/
def ofList (l : List (String × String)) : Config :=
  l.foldl (fun c p => c.set p.1 p.2) .empty

/-- The value of a property, without the blanks around it. -/
def get? (c : Config) (key : String) : Option String :=
  (c.properties.lookup key).map Text.trim

/-- The list `s` without any number of copies of `p` in front. -/
def dropCopies (p s : List Char) : List Char :=
  if _h : p ≠ [] ∧ p.isPrefixOf s = true then dropCopies p (s.drop p.length) else s
termination_by s.length
decreasing_by
  have hle : p.length ≤ s.length := (List.isPrefixOf_iff_prefix.1 _h.2).length_le
  have hpos : 0 < p.length := List.length_pos_iff.2 _h.1
  simp only [List.length_drop]; omega

/-- The class that a name stands for: in lower case, without any `repository` at its end. -/
def classStem (name : String) : String :=
  String.ofList
    (dropCopies "repository".toList.reverse (name.toList.map Char.toLower).reverse).reverse

/-- A property that holds a path. -/
def pathOr (c : Config) (key fallback : String) : Path :=
  .ofString ((c.get? key).getD fallback)

/-- A property that holds a decimal word. -/
def wordOr (c : Config) (key : String) (fallback : UInt64) : Except Failure UInt64 :=
  match c.get? key with
  | none => .ok fallback
  | some raw =>
    match Text.parseWord raw with
    | .ok n => .ok n
    | .error e => .error (.invalidProperty key raw e)

/-- The volatile kind that the properties describe. -/
def volatileKind (c : Config) : Except Failure RepositoryKind :=
  match c.wordOr Limits.volatileBytesProperty Limits.defaultVolatileBytes with
  | .error e => .error e
  | .ok maxBytes =>
    match c.wordOr Limits.volatileCountProperty Limits.defaultVolatileCount with
    | .error e => .error e
    | .ok maxCount => .ok (.volatile maxBytes maxCount)

/-- The kind of repository that the properties describe. Without a class, files are kept. -/
def repositoryKind (c : Config) : Except Failure RepositoryKind :=
  let name := (c.get? Limits.classProperty).getD "FileSystemRepository"
  let stem := classStem name
  if stem = "filesystem" ∨ stem = "file" then
    .ok (.files (c.pathOr Limits.directoryProperty Limits.defaultContentDirectory))
  else if stem = "volatilecontent" ∨ stem = "volatile" then c.volatileKind
  else if stem = "databasecontent" ∨ stem = "database" then
    .ok (.database (c.pathOr Limits.databaseProperty Limits.defaultDatabasePath))
  else .error (.unknownClass name)

end Config

/-! ### Builders -/

/-- A kind of repository, if chosen yet, and limits that replace those of a volatile kind. -/
structure Builder where
  /-- The kind chosen last. -/
  kind : Option RepositoryKind
  /-- The byte limit given last. -/
  maxBytes : Option UInt64
  /-- The entry limit given last. -/
  maxCount : Option UInt64
  deriving DecidableEq, Repr

namespace Builder

/-- The builder for which nothing was chosen. -/
def empty : Builder := ⟨none, none, none⟩

/-- Chooses a kind. -/
def withKind (b : Builder) (kind : RepositoryKind) : Builder := { b with kind := some kind }

/-- Gives a byte limit. -/
def withMaxBytes (b : Builder) (n : UInt64) : Builder := { b with maxBytes := some n }

/-- Gives an entry limit. -/
def withMaxCount (b : Builder) (n : UInt64) : Builder := { b with maxCount := some n }

/-- A new builder for the kind that a configuration describes. -/
def ofConfig (c : Config) : Except Failure Builder := c.repositoryKind.map Builder.empty.withKind

/-- What is opened in the end: the chosen kind, with the limits that were given laid over those
of a volatile kind. -/
def target (b : Builder) : Except Failure RepositoryKind :=
  match b.kind with
  | none => .error .kindUnspecified
  | some (.volatile maxBytes maxCount) =>
    .ok (.volatile (b.maxBytes.getD maxBytes) (b.maxCount.getD maxCount))
  | some kind => .ok kind

end Builder

end ClaimStore
