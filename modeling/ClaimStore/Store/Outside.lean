import ClaimStore.Store.Basic

/-!
# The disk from outside

Access to the files of the disk that goes past all repositories, as by another program on the
same machine.

## Main definitions

* `Store.replaceFile`, `Store.fileContents`, `Store.makeDirectories`, `Store.listDirectory` —
  plain access to files and directories.
-/

set_option autoImplicit false

namespace ClaimStore.Store

variable {κ : Type}

/-- Replaces the bytes of a file, after making it where it is missing. -/
def replaceFile (s : Store κ) (p : Path) (b : Bytes) : Store κ × Except IoError Unit :=
  match s.disk.openCreating p with
  | .error e => (s, .error e)
  | .ok (id, d) => ({ s with disk := d.setBytes id b }, .ok ())

/-- The bytes of a file. -/
def fileContents (s : Store κ) (p : Path) : Except IoError Bytes :=
  match s.disk.resolve p with
  | .error e => .error e
  | .ok (.directory _) => .error (.os .isADirectory)
  | .ok (.file id) => .ok (s.disk.bytes id)

/-- Makes a directory with all its parents, unless it is there. -/
def makeDirectories (s : Store κ) (p : Path) : Store κ × Except IoError Unit :=
  match s.disk.makeDirectories p with
  | (d, r) => ({ s with disk := d }, r)

/-- All that is below a directory, and nothing where the path leads to none. -/
def listDirectory (s : Store κ) (p : Path) : List (String × Nat) :=
  match s.disk.resolve p with
  | .ok (.directory id) => s.disk.listing id
  | _ => []

end ClaimStore.Store
