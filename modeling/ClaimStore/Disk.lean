import ClaimStore.Disk.FileData
import ClaimStore.Error
import ClaimStore.Path

/-!
# Disks

A disk is a tree of directories and files. Directories and files are numbered, and a directory
says which number each of its names stands for. So a file that is open or mapped stays there when
its name is removed, and a new file under the same name is another file. There are no links, and
directories are never removed.

## Main definitions

* `ClaimStore.Disk` — the directories and the contents of the files.
* `Disk.locate` — the walk along a path up to its last name.
* `Disk.resolve`, `Disk.openCreating`, `Disk.unlink`, `Disk.makeDirectory` — operations on names.
* `Disk.makeDirectories` — a directory with all its parents.
* `Disk.setLength`, `Disk.setBytes`, `Disk.writeAt`, `Disk.append` — changes of a file.
* `Disk.view`, `Disk.writeView`, `Disk.flush` — a file as a mapping sees it.
* `Disk.listing` — all that is below a directory.
-/

set_option autoImplicit false

namespace ClaimStore

/-- The number of a directory, which is never used again. A directory has a larger number than
the one it is in. -/
abbrev DirectoryId := Nat

/-- The number of a file, which is never used again. -/
abbrev FileId := Nat

/-- What a name stands for. -/
inductive Item where
  /-- The directory of this number. -/
  | directory (id : DirectoryId)
  /-- The file of this number. -/
  | file (id : FileId)
  deriving DecidableEq, Repr

/-- A directory. -/
structure Directory where
  /-- The directory that it is in; the root is in itself. -/
  parent : DirectoryId
  /-- The names in it, each at most once, with what they stand for. -/
  entries : List (String × Item)
  deriving DecidableEq, Repr

/-- A tree of directories and files, with the contents of the files. -/
structure Disk where
  /-- All directories, by number; the first one is the root. -/
  directories : Array Directory
  /-- The contents of all files ever made, by number. -/
  contents : Array FileData
  deriving DecidableEq, Repr

/-- Where a path leads: to a directory that it names by dots or by nothing, or to a name in a
directory. -/
inductive Spot where
  /-- A directory that exists, reached without a last name. -/
  | directory (id : DirectoryId)
  /-- A last name in a directory that exists. -/
  | name (parent : DirectoryId) (name : String)
  deriving DecidableEq, Repr

namespace Disk

/-- The root. -/
def root : DirectoryId := 0

/-- The disk that holds one directory of this name. -/
def withDirectory (name : String) : Disk where
  directories := #[⟨root, [(name, .directory 1)]⟩, ⟨root, []⟩]
  contents := #[]

/-- The longest name, in bytes. -/
def maxNameBytes : Nat := 255

/-- The length in bytes from which on a path is refused as a whole. -/
def maxPathBytes : Nat := 4096

/-- The largest length that can be asked for: the largest signed 64-bit number. -/
def maxLength : Nat := 0x7FFFFFFFFFFFFFFF

/-- The largest length of a file: one page for each 32-bit number but the last. -/
def maxFileLength : Nat := 0xFFFFFFFF000

/-- The length that a directory shows. -/
def directoryLength : Nat := 4096

/-! ### Directories -/

/-- The directory that a directory is in. -/
def parent (d : Disk) (id : DirectoryId) : DirectoryId :=
  match d.directories[id]? with
  | some x => x.parent
  | none => root

/-- The names in a directory, with what they stand for. -/
def entries (d : Disk) (id : DirectoryId) : List (String × Item) :=
  match d.directories[id]? with
  | some x => x.entries
  | none => []

/-- Changes the names in a directory. -/
def modifyEntries (d : Disk) (id : DirectoryId)
    (change : List (String × Item) → List (String × Item)) : Disk :=
  { d with directories := d.directories.modify id fun x => { x with entries := change x.entries } }

/-- What a name in a directory stands for, if anything. -/
def lookupName (d : Disk) (parent : DirectoryId) (name : String) : Except Errno (Option Item) :=
  if maxNameBytes < name.utf8ByteSize then .error .nameTooLong
  else .ok ((d.entries parent).lookup name)

/-! ### Walks -/

/-- One step of a walk, from a directory into a directory. -/
def enter (d : Disk) (id : DirectoryId) (component : String) : Except Errno DirectoryId :=
  if component = "." then .ok id
  else if component = ".." then .ok (d.parent id)
  else
    match d.lookupName id component with
    | .error e => .error e
    | .ok none => .error .notFound
    | .ok (some (.file _)) => .error .notADirectory
    | .ok (some (.directory next)) => .ok next

/-- A walk through directories. -/
def walk (d : Disk) (id : DirectoryId) : List String → Except Errno DirectoryId
  | [] => .ok id
  | c :: cs =>
    match d.enter id c with
    | .error e => .error e
    | .ok next => d.walk next cs

/-- The walk along a path up to its last name, which need not exist. -/
def locate (d : Disk) (p : Path) : Except IoError Spot :=
  if p.hasNul then .error .nulInPath
  else if p.isEmpty then .error (.os .notFound)
  else if maxPathBytes ≤ p.toString.utf8ByteSize then .error (.os .nameTooLong)
  else
    match p.components.getLast? with
    | none => .ok (.directory root)
    | some last =>
      match d.walk root p.components.dropLast with
      | .error e => .error (.os e)
      | .ok id =>
        if last = "." then .ok (.directory id)
        else if last = ".." then .ok (.directory (d.parent id))
        else .ok (.name id last)

/-! ### Names -/

/-- What a path leads to. A file is not reached by a path that ends in a slash. -/
def resolve (d : Disk) (p : Path) : Except IoError Item :=
  match d.locate p with
  | .error e => .error e
  | .ok (.directory id) => .ok (.directory id)
  | .ok (.name parent name) =>
    match d.lookupName parent name with
    | .error e => .error (.os e)
    | .ok none => .error (.os .notFound)
    | .ok (some (.directory id)) => .ok (.directory id)
    | .ok (some (.file id)) =>
      if p.endsInSlash then .error (.os .notADirectory) else .ok (.file id)

/-- The path leads to a directory. -/
def isDirectory (d : Disk) (p : Path) : Bool :=
  match d.resolve p with
  | .ok (.directory _) => true
  | _ => false

/-- Makes an empty file under a name that is free, and answers with its number. -/
def addFile (d : Disk) (parent : DirectoryId) (name : String) : FileId × Disk :=
  let id := d.contents.size
  let named := d.modifyEntries parent ((name, .file id) :: ·)
  (id, { named with contents := named.contents.push (.ofBytes .empty) })

/-- Makes an empty directory under a name that is free. -/
def addDirectory (d : Disk) (parent : DirectoryId) (name : String) : Disk :=
  let named := d.modifyEntries parent ((name, .directory d.directories.size) :: ·)
  { named with directories := named.directories.push ⟨parent, []⟩ }

/-- Opens the file that a path leads to, for writing, and makes it if there is none. -/
def openCreating (d : Disk) (p : Path) : Except IoError (FileId × Disk) :=
  match d.locate p with
  | .error e => .error e
  | .ok (.directory _) => .error (.os .isADirectory)
  | .ok (.name parent name) =>
    if p.endsInSlash then .error (.os .isADirectory)
    else
      match d.lookupName parent name with
      | .error e => .error (.os e)
      | .ok (some (.directory _)) => .error (.os .isADirectory)
      | .ok (some (.file id)) => .ok (id, d)
      | .ok none => .ok (d.addFile parent name)

/-- Removes the name of a file. -/
def unlink (d : Disk) (p : Path) : Except IoError Disk :=
  match d.locate p with
  | .error e => .error e
  | .ok (.directory _) => .error (.os .isADirectory)
  | .ok (.name parent name) =>
    match d.lookupName parent name with
    | .error e => .error (.os e)
    | .ok none => .error (.os .notFound)
    | .ok (some (.directory _)) => .error (.os .isADirectory)
    | .ok (some (.file _)) =>
      if p.endsInSlash then .error (.os .notADirectory)
      else .ok (d.modifyEntries parent fun l => l.filter fun x => x.1 != name)

/-- Makes a directory whose parent exists. -/
def makeDirectory (d : Disk) (p : Path) : Except IoError Disk :=
  match d.locate p with
  | .error e => .error e
  | .ok (.directory _) => .error (.os .alreadyExists)
  | .ok (.name parent name) =>
    match d.lookupName parent name with
    | .error e => .error (.os e)
    | .ok (some _) => .error (.os .alreadyExists)
    | .ok none => .ok (d.addDirectory parent name)

/-- Makes a directory, after making its parent where that is missing, and so on for at most so
many generations. The disk keeps what was made before a failure. -/
def makeWithParents (d : Disk) : Nat → Path → Disk × Except IoError Unit
  | 0, _ => (d, .error (.other "failed to create whole tree"))
  | generations + 1, p =>
    if p.isEmpty then (d, .ok ())
    else
      match d.makeDirectory p with
      | .ok d' => (d', .ok ())
      | .error e =>
        if e = .os .notFound then
          match p.parent? with
          | none => (d, .error (.other "failed to create whole tree"))
          | some q =>
            match d.makeWithParents generations q with
            | (d', .error e') => (d', .error e')
            | (d', .ok ()) =>
              match d'.makeDirectory p with
              | .ok d'' => (d'', .ok ())
              | .error e' => if d'.isDirectory p then (d', .ok ()) else (d', .error e')
        else if d.isDirectory p then (d, .ok ())
        else (d, .error e)

/-- Makes a directory with all its parents, unless it is there. A path has fewer parents than its
depth, since each is less deep. -/
def makeDirectories (d : Disk) (p : Path) : Disk × Except IoError Unit :=
  d.makeWithParents (p.depth + 1) p

/-! ### Contents -/

/-- What a file holds. -/
def data (d : Disk) (id : FileId) : FileData :=
  match d.contents[id]? with
  | some f => f
  | none => .ofBytes .empty

/-- Changes what a file holds. -/
def modify (d : Disk) (id : FileId) (change : FileData → FileData) : Disk :=
  { d with contents := d.contents.modify id change }

/-- The bytes of a file. -/
def bytes (d : Disk) (id : FileId) : Bytes := (d.data id).bytes

/-- Replaces the bytes of a file. -/
def setBytes (d : Disk) (id : FileId) (b : Bytes) : Disk := d.modify id fun _ => .ofBytes b

/-- Cuts or zero-pads a file to `n` bytes. -/
def setLength (d : Disk) (id : FileId) (n : Nat) : Except IoError Disk :=
  if maxLength < n then .error .lengthTooLarge
  else if maxFileLength < n then .error (.os .fileTooLarge)
  else .ok (d.modify id (·.setLength n))

/-- Lays bytes over a file at an offset; the file grows where they reach past its end. Writing
nothing changes nothing, wherever the offset is. -/
def writeAt (d : Disk) (id : FileId) (offset : Nat) (b : Bytes) : Disk :=
  if b.isEmpty then d else d.modify id (·.overwrite offset b)

/-- Appends bytes to a file. -/
def append (d : Disk) (id : FileId) (b : Bytes) : Disk :=
  d.modify id fun f => f.overwrite f.bytes.size b

/-- The bytes that a mapping of `n` bytes of a file shows. -/
def view (d : Disk) (id : FileId) (n : Nat) : Bytes := (d.data id).view n

/-- Replaces the first bytes of a file, as a mapping shows them. -/
def writeView (d : Disk) (id : FileId) (v : Bytes) : Disk := d.modify id (·.writeView v)

/-- Writes back what mappings changed in the pages of the first `n` bytes of a file. -/
def flush (d : Disk) (id : FileId) (n : Nat) : Disk := d.modify id (·.flush n)

/-- Writes back all that mappings changed in a file. -/
def sync (d : Disk) (id : FileId) : Disk := d.modify id fun f => .ofBytes f.bytes

/-- The length that an item shows. -/
def length (d : Disk) : Item → Nat
  | .directory _ => directoryLength
  | .file id => (d.bytes id).size

/-! ### Listings -/

/-- All that is below a directory, for at most so many generations, under names that begin with
`start`. The name of a directory ends in a slash, and its length is zero. -/
def below (d : Disk) : Nat → String → DirectoryId → List (String × Nat)
  | 0, _, _ => []
  | generations + 1, start, id =>
    (d.entries id).flatMap fun x =>
      match x.2 with
      | .file f => [(start ++ x.1, (d.bytes f).size)]
      | .directory next =>
        (start ++ x.1 ++ "/", 0) :: d.below generations (start ++ x.1 ++ "/") next

/-- All that is below a directory, sorted by name. No directory has more generations below it
than there are directories. -/
def listing (d : Disk) (id : DirectoryId) : List (String × Nat) :=
  (d.below d.directories.size "" id).mergeSort fun a b => decide (a.1 ≤ b.1)

end Disk

end ClaimStore
