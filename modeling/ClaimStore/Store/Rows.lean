import ClaimStore.DatabaseFile
import ClaimStore.Store.Files

/-!
# Content in rows

A database repository keeps content in the rows of a database file. A mapping works on a copy of
the row, and a writable one stores its bytes when it is unmapped, before anything else happens. A
reader works on a copy too; a writer collects bytes and stores them when it is closed.

## Main definitions

* `Store.formatDatabase`, `Store.openDatabase` — a database file made and opened.
* `Store.mapInRows`, `Store.readInRows`, `Store.writeInRows`, `Store.removeInRows` — the operations
  of a database repository.

## Design

A buffer has whatever length it is given. No memory has a buffer of `2 ^ 63` bytes or more: a caller
that asks for one loses its thread, which is left out, as is a database that takes no row of this
length. What is said about success says which lengths it is about.
-/

set_option autoImplicit false

namespace ClaimStore.Store

variable {κ : Type}

/-! ### Opening -/

/-- Makes a file a database without rows. A database that was in the file before keeps its
number. -/
def formatDatabase (s : Store κ) (file : FileId) (known : Option DatabaseId) :
    Store κ × DatabaseId :=
  let s := { s with disk := s.disk.setBytes file DatabaseFile.image }
  match known with
  | some i => (s.modifyDatabase i (·.clear), i)
  | none => ({ s with databases := s.databases ++ [{ file, rows := [] }] }, s.databases.length)

/-- Opens the database file that a path leads to, after making it and its directory where they
are missing. An empty file becomes a database without rows, whatever it held before; a file that
is in use as a database, that has no sound header, or whose rows are not known, is refused. -/
def openDatabase (s : Store κ) (p : Path) : Store κ × Except Failure DatabaseId :=
  match s.disk.makeParent p with
  | (d, .error f) => ({ s with disk := d }, .error f)
  | (d, .ok ()) =>
    match d.openCreating p with
    | .error e => ({ s with disk := d }, .error (.openDatabase p.toString (.io e)))
    | .ok (file, d) =>
      let made := { s with disk := d }
      let known := s.databases.findIdx? fun x => x.file == file
      if known.any s.usesDatabase then
        (made, .error (.openDatabase p.toString .alreadyOpen))
      else if (d.bytes file).isEmpty then
        succeed (made.formatDatabase file known)
      else
        match DatabaseFile.fault? (d.bytes file), known with
        | some fault, _ => (made, .error (.openDatabase p.toString fault))
        | none, some i => (made, .ok i)
        | none, none => (made, .error (.openDatabase p.toString (.io .invalidData)))

/-! ### Operations of a database repository -/

/-- A mapping of a copy of the row of a claim. A length that no buffer can have, `2 ^ 63`
or more, ends the thread in place of an answer: what this answers for one is nothing that the
program says. -/
def mapInRows (s : Store κ) (d : DatabaseId) (writers : RegistryId) (c : ClaimId) (n : UInt64)
    (readOnly : Bool) : Store κ × Except Failure HandleId :=
  let identifier := s.identifier c
  if readOnly then
    match s.row? d identifier with
    | none => (s, .error (missingContent identifier n.toNat))
    | some v =>
      if v.size < n.toNat then
        (s, .error (.content (.insufficientBackingStore identifier n.toNat v.size)))
      else
        succeed (s.addHeldMapping
          { backing := .buffer { buffer := some (v.take n.toNat), capacity := none }
            readOnly := true
            hooks := .empty } c none)
  else
    match s.takeWriteLease writers identifier with
    | .error f => (s, .error f)
    | .ok leased =>
      let v := (s.row? d identifier).getD .empty
      succeed (leased.addHeldMapping
        { backing := .buffer { buffer := some (v.fit n.toNat), capacity := none }
          readOnly := false
          hooks := UnmapHooks.empty.push (.store d identifier) } c
        (some (.write writers identifier)))

/-- A reader of a copy of the row of a claim. -/
def readInRows (s : Store κ) (d : DatabaseId) (c : ClaimId) : Store κ × Except Failure HandleId :=
  match s.row? d (s.identifier c) with
  | none => (s, .error (missingContent (s.identifier c) 0))
  | some v => succeed (s.addReader c (.bytes v))

/-- A writer that collects bytes for the row of a claim, after those it holds or in their
place. -/
def writeInRows (s : Store κ) (d : DatabaseId) (writers : RegistryId) (c : ClaimId)
    (append : Bool) : Store κ × Except Failure HandleId :=
  let identifier := s.identifier c
  match s.takeWriteLease writers identifier with
  | .error f => (s, .error f)
  | .ok leased =>
    let v := if append then (s.row? d identifier).getD .empty else .empty
    succeed (leased.addWriter c (.row d identifier v) (.write writers identifier))

/-- Removes the row of an identifier, if there is one. -/
def removeInRows (s : Store κ) (d : DatabaseId) (identifier : String) :
    Store κ × Except Failure Bool :=
  (s.modifyDatabase d (·.erase identifier), .ok (s.row? d identifier).isSome)

end ClaimStore.Store
