import ClaimStore.Store.View

/-!
# Content in files

A file repository keeps one file for each identifier below its directory; the bytes of the file
are all there is. A read-only mapping never changes its file. A writable mapping extends the file
to the size asked for and never cuts it; a writer that replaces cuts the file to nothing when it
is opened, unless the content is mapped read-only.

## Main definitions

* `FileBacking.openReadOnly`, `FileBacking.openWritable` — a file opened for mapping.
* `Store.mapFile` — a file mapping that belongs to no repository.
* `Store.mapInFiles`, `Store.readInFiles`, `Store.writeInFiles`, `Store.removeInFiles` — the
  operations of a file repository.
-/

set_option autoImplicit false

namespace ClaimStore

/-! ### Opening files -/

/-- Makes the parent of a path with all its parents, if the path has one that is not empty. -/
def Disk.makeParent (d : Disk) (p : Path) : Disk × Except Failure Unit :=
  match p.parent? with
  | none => (d, .ok ())
  | some q =>
    match d.makeDirectories q with
    | (d', .ok ()) => (d', .ok ())
    | (d', .error e) => (d', .error (ioFailure "create directory" q e))

namespace FileBacking

/-- A view of the first `n` bytes of what was opened. -/
def ofOpened (p : Path) (i : Item) (n : Nat) : Except Failure FileBacking :=
  if n = 0 then .ok { path := p, opened := some i, region := .empty, length := 0, gate := none }
  else
    match i with
    | .directory _ => .error (ioFailure "map" p (.os .noDevice))
    | .file _ => .ok { path := p, opened := some i, region := .mapped, length := n, gate := none }

/-- Opens what a path leads to, which has to be at least `n` bytes long. -/
def openReadOnly (d : Disk) (p : Path) (n : UInt64) : Except Failure FileBacking :=
  match d.resolve p with
  | .error e => .error (ioFailure "open" p e)
  | .ok i =>
    if d.length i < n.toNat then
      .error (.content (.insufficientBackingStore p.toString n.toNat (d.length i)))
    else ofOpened p i n.toNat

/-- Opens the file that a path leads to, after making it and its directory where they are
missing, and extends it to `n` bytes where it is shorter. -/
def openWritable (d : Disk) (p : Path) (n : UInt64) : Disk × Except Failure FileBacking :=
  match d.makeParent p with
  | (d, .error f) => (d, .error f)
  | (d, .ok ()) =>
    match d.openCreating p with
    | .error e => (d, .error (ioFailure "open" p e))
    | .ok (id, d) =>
      if (d.bytes id).size < n.toNat then
        match d.setLength id n.toNat with
        | .error e => (d, .error (ioFailure "extend" p e))
        | .ok d => (d, ofOpened p (.file id) n.toNat)
      else (d, ofOpened p (.file id) n.toNat)

end FileBacking

namespace Store

variable {κ : Type}

/-! ### Holding a claim -/

/-- A new mapping that holds a reference of a claim, and a lease if there is one, until it is
unmapped. These are given back after the hooks that the mapping has already. -/
def addHeldMapping (s : Store κ) (m : Mapping) (c : ClaimId) (l : Option Lease) :
    Store κ × HandleId :=
  (s.takeReference c).addHandle (.mapping { m with hooks := m.hooks.push (.hold c l) })

/-- A new reader, which holds a reference of its claim. -/
def addReader (s : Store κ) (c : ClaimId) (source : Source) : Store κ × HandleId :=
  (s.takeReference c).addHandle (.reader { claim := c, source, position := 0 })

/-- A new writer, which holds a reference of its claim and a lease. -/
def addWriter (s : Store κ) (c : ClaimId) (sink : Sink) (l : Lease) : Store κ × HandleId :=
  (s.takeReference c).addHandle (.writer { claim := c, sink, written := 0, lease := some l })

/-- An outcome that cannot fail. -/
def succeed {α : Type} (r : Store κ × α) : Store κ × Except Failure α := (r.1, .ok r.2)

/-! ### Mappings -/

/-- A mapping of a file that belongs to no repository. -/
def mapFile (s : Store κ) (p : Path) (n : UInt64) (readOnly : Bool) (gate : Option Gate) :
    Store κ × Except Failure HandleId :=
  if readOnly then
    match FileBacking.openReadOnly s.disk p n with
    | .error f => (s, .error f)
    | .ok b =>
      succeed (s.addHandle (.mapping
        { backing := .file { b with gate }, readOnly := true, hooks := .empty }))
  else
    match FileBacking.openWritable s.disk p n with
    | (d, .error f) => ({ s with disk := d }, .error f)
    | (d, .ok b) =>
      succeed ({ s with disk := d }.addHandle (.mapping
        { backing := .file { b with gate }, readOnly := false, hooks := .empty }))

/-- A mapping of the file of a claim. A writable one holds the write lease and becomes shorter
only while no read-only mapping is live; a read-only one holds a read lease. -/
def mapInFiles (s : Store κ) (directory : Path) (writers readers : RegistryId) (c : ClaimId)
    (n : UInt64) (readOnly : Bool) : Store κ × Except Failure HandleId :=
  let identifier := s.identifier c
  let p := contentPath directory identifier
  if readOnly then
    match s.disk.storedLength p with
    | .error f => (s, .error f)
    | .ok none => (s, .error (missingContent identifier n.toNat))
    | .ok (some _) =>
      match FileBacking.openReadOnly s.disk p n with
      | .error f => (s, .error f)
      | .ok b =>
        succeed ((s.takeReadLease readers identifier).addHeldMapping
          { backing := .file b, readOnly := true, hooks := .empty } c
          (some (.read readers identifier)))
  else
    match s.takeWriteLease writers identifier with
    | .error f => (s, .error f)
    | .ok leased =>
      match FileBacking.openWritable s.disk p n with
      | (d, .error f) => ({ s with disk := d }, .error f)
      | (d, .ok b) =>
        succeed ({ leased with disk := d }.addHeldMapping
          { backing := .file { b with gate := some (.readers readers identifier) }
            readOnly := false
            hooks := .empty } c
          (some (.write writers identifier)))

/-! ### Streams -/

/-- A reader of the file of a claim. -/
def readInFiles (s : Store κ) (directory : Path) (c : ClaimId) :
    Store κ × Except Failure HandleId :=
  let identifier := s.identifier c
  let p := contentPath directory identifier
  match s.disk.resolve p with
  | .error (.os .notFound) => (s, .error (missingContent identifier 0))
  | .error e => (s, .error (ioFailure "open" p e))
  | .ok i => succeed (s.addReader c (.file i (s.disk.length i)))

/-- Cuts a file to nothing. -/
def emptyFile (id : FileId) (p : Path) (d : Disk) : Disk × Except Failure Unit :=
  match d.setLength id 0 with
  | .ok d => (d, .ok ())
  | .error e => (d, .error (ioFailure "truncate" p e))

/-- A writer to the file of a claim, at its end or in place of what it holds. -/
def writeInFiles (s : Store κ) (directory : Path) (writers readers : RegistryId) (c : ClaimId)
    (append : Bool) : Store κ × Except Failure HandleId :=
  let identifier := s.identifier c
  let p := contentPath directory identifier
  match s.takeWriteLease writers identifier with
  | .error f => (s, .error f)
  | .ok leased =>
    match s.disk.makeParent p with
    | (d, .error f) => ({ s with disk := d }, .error f)
    | (d, .ok ()) =>
      match d.openCreating p with
      | .error e => ({ s with disk := d }, .error (ioFailure "open" p e))
      | .ok (id, d) =>
        if append then
          succeed ({ leased with disk := d }.addWriter c (.file id none)
            (.write writers identifier))
        else
          match (s.readerRegistry readers).exclusive identifier (emptyFile id p) d with
          | (d, .error f) => ({ s with disk := d }, .error f)
          | (d, .ok ()) =>
            succeed ({ leased with disk := d }.addWriter c (.file id (some 0))
              (.write writers identifier))

/-! ### Removal -/

/-- Removes the file of an identifier, if there is one. -/
def removeInFiles (s : Store κ) (directory : Path) (identifier : String) :
    Store κ × Except Failure Bool :=
  let p := contentPath directory identifier
  match s.disk.unlink p with
  | .ok d => ({ s with disk := d }, .ok true)
  | .error (.os .notFound) => (s, .ok false)
  | .error e => (s, .error (ioFailure "remove" p e))

end Store

end ClaimStore
