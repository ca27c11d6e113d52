import ClaimStore.Store.Unmap

/-!
# Reading, writing and resizing mappings

Ranges are checked against the view before any byte is touched. A change of length shows the
first bytes of the old view and zeros after them; on a file it goes through the gate of the
mapping where it makes the mapping shorter.

## Main definitions

* `Store.readAt`, `Store.writeAt`, `Store.fillView` — access to the bytes of a view.
* `Store.resize` — a change of length.
* `FileBacking.cut`, `Store.passGate` — the change of length of a file, under its gate.
-/

set_option autoImplicit false

namespace ClaimStore

variable {κ : Type}

/-- The failure of a range of `len` bytes at `offset` that is not inside `size` bytes. -/
def outOfBounds (offset len size : Nat) : Failure := .content (.outOfBounds offset len size)

namespace Store

/-! ### Bytes -/

/-- The bytes that a mapping shows, if it shows any. -/
def data (s : Store κ) (map : HandleId) : Option Bytes :=
  match s.mapping? map with
  | none => none
  | some m => s.view? m

/-- The bytes of a range of the view. -/
def readAt (s : Store κ) (map : HandleId) (offset len : Nat) : Except Failure Bytes :=
  match s.data map with
  | none => .error (.content (.invalidMapping "read"))
  | some v =>
    if offset + len ≤ v.size then .ok (v.slice offset len)
    else .error (outOfBounds offset len v.size)

/-- Replaces the bytes that a mapping shows by as many others. -/
def setView (s : Store κ) (map : HandleId) (m : Mapping) (v : Bytes) : Store κ :=
  match m.backing with
  | .file b =>
    match b.region, b.opened with
    | .mapped, some (.file id) => { s with disk := s.disk.writeView id v }
    | _, _ => s
  | .entry b =>
    match b.borrow with
    | some (t, e) => s.setTable t ((s.table t).setValue e v)
    | none => s
  | .buffer b =>
    s.setHandle map (.mapping { m with backing := .buffer { b with buffer := some v } })

/-- Writes bytes into a range of the view. -/
def writeAt (s : Store κ) (map : HandleId) (offset : Nat) (bytes : Bytes) :
    Store κ × Except Failure Unit :=
  match s.mapping? map with
  | none => (s, .error (.content (.invalidMapping "write")))
  | some m =>
    if m.readOnly then (s, .error (.content (.notSupported "write")))
    else
      match s.mutableView? m with
      | none => (s, .error (.content (.invalidMapping "write")))
      | some v =>
        if offset + bytes.size ≤ v.size then
          (s.setView map m (Bytes.patch offset bytes v), .ok ())
        else (s, .error (outOfBounds offset bytes.size v.size))

/-- Sets every byte that can be changed to one value, and answers with their number. -/
def fillView (s : Store κ) (map : HandleId) (byte : UInt8) : Store κ × Option Nat :=
  match s.mapping? map with
  | none => (s, none)
  | some m =>
    match s.mutableView? m with
    | none => (s, none)
    | some v => (s.setView map m (.replicate v.size byte), some v.size)

/-! ### Length -/

end Store

/-- The first half of a change of length: the view ends, then the file is cut or extended. A file
that cannot have the length leaves the mapping without a view. -/
def FileBacking.cut (id : FileId) (n : Nat) (p : Disk × FileBacking) :
    (Disk × FileBacking) × Except Failure Unit :=
  match p.1.setLength id n with
  | .ok d => ((d, { p.2 with region := .unmapped }), .ok ())
  | .error e => ((p.1, { p.2 with region := .unmapped }), .error (ioFailure "resize" p.2.path e))

/-- The second half of a change of length: a new view of `n` bytes. -/
def FileBacking.remap (b : FileBacking) (n : Nat) : FileBacking :=
  { b with region := if n = 0 then .empty else .mapped, length := n }

namespace Store

/-- Runs an action that makes a file shorter, if the gate agrees. -/
def passGate {σ α : Type} (s : Store κ) (g : Gate) (act : σ → σ × Except Failure α) (x : σ) :
    σ × Except Failure α :=
  match g with
  | .refuse claim => (x, .error (.content (.writerActive claim)))
  | .readers registry identifier => (s.readerRegistry registry).exclusive identifier act x

/-- Cuts or extends a file that is mapped writable, under the gate where it becomes shorter than
the mapping. -/
def cutFile (s : Store κ) (id : FileId) (b : FileBacking) (n : Nat) :
    (Disk × FileBacking) × Except Failure Unit :=
  match b.gate with
  | some g => if n < b.length then s.passGate g (FileBacking.cut id n) (s.disk, b)
    else FileBacking.cut id n (s.disk, b)
  | none => FileBacking.cut id n (s.disk, b)

/-- Changes the length of a writable file mapping, which is written back first. -/
def resizeFile (s : Store κ) (map : HandleId) (m : Mapping) (b : FileBacking) (n : UInt64) :
    Store κ × Except Failure Bytes :=
  match b.opened with
  | some (.file id) =>
    let s := s.writeBack m
    match s.cutFile id b n.toNat with
    | ((d, b'), .error e) =>
      ({ s with disk := d }.setHandle map (.mapping { m with backing := .file b' }), .error e)
    | ((d, b'), .ok ()) =>
      let s' := { s with disk := d }.setHandle map
        (.mapping { m with backing := .file (b'.remap n.toNat) })
      (s', .ok (d.view id n.toNat))
  | some (.directory _) | none => (s, .error (.content (.invalidMapping "resize")))

/-- Changes the length of a writable entry mapping, if the budget of its table agrees. -/
def resizeEntry (s : Store κ) (map : HandleId) (m : Mapping) (b : EntryBacking) (n : UInt64) :
    Store κ × Except Failure Bytes :=
  match b.borrow, b.view with
  | some (t, e), .write =>
    match (s.table t).resizeValue e n with
    | .error x => (s, .error (.content x))
    | .ok table =>
      ((s.setTable t table).setHandle map
          (.mapping { m with backing := .entry { b with size := n.toNat } }),
        .ok (table.value e))
  | _, _ => (s, .error (.content (.invalidMapping "resize")))

/-- Changes the length of a writable mapping of a buffer of its own. -/
def resizeBuffer (s : Store κ) (map : HandleId) (m : Mapping) (b : BufferBacking) (n : UInt64) :
    Store κ × Except Failure Bytes :=
  match b.buffer with
  | none => (s, .error (.content (.invalidMapping "resize")))
  | some buffer =>
    match b.resized buffer n.toNat with
    | .error e => (s, .error e)
    | .ok v =>
      (s.setHandle map (.mapping { m with backing := .buffer { b with buffer := some v } }), .ok v)

/-- Changes the length of a mapping and answers with the new view. -/
def resize (s : Store κ) (map : HandleId) (n : UInt64) : Store κ × Except Failure Bytes :=
  match s.mapping? map with
  | none => (s, .error (.content (.invalidMapping "resize")))
  | some m =>
    if m.readOnly then (s, .error (.content (.notSupported "resize")))
    else
      match m.backing with
      | .file b => s.resizeFile map m b n
      | .entry b => s.resizeEntry map m b n
      | .buffer b => s.resizeBuffer map m b n

end Store

end ClaimStore
