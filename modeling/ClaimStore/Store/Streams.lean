import ClaimStore.Fill
import ClaimStore.Store.Content

/-!
# Reading and writing streams

A raw read delivers the bytes at the position of a reader and moves it past them. The file of a
reader is read as it is at that moment, while its length is that of the moment when it was
opened; values and rows cannot change under their readers. A raw write takes the bytes that it is
given or fails. A writer to a file writes the file back when it is closed.

## Main definitions

* `Store.deliver`, `Store.accept` — bytes that go to a reader, or come to a writer.
* `Store.readRaw`, `Store.readData`, `Store.readToEnd`, `Store.seek` — reading.
* `Store.writeRaw`, `Store.writeData`, `Store.close` — writing.
* `Store.copy` — from a reader into a writer until the reader delivers nothing.

## Design

One raw read or write is one transfer, and a file moves a limited number of bytes in one. Whatever
asks for all bytes makes as many transfers as it takes, with nothing done in between: a read into a
buffer is the loop itself; a read to the end and the write of a payload are given by what their
transfers move together. The chunks of a copy are far below the limit.
-/

set_option autoImplicit false

namespace ClaimStore.Store

variable {κ : Type}

/-! ### Reading -/

/-- The length of the content of a reader. -/
def readerLength (s : Store κ) (r : Reader) : Nat :=
  match r.source with
  | .file _ length => length
  | .entry t e => ((s.table t).value e).size
  | .bytes b => b.size

/-- The number of bytes between the position of a reader and the length of its content. -/
def readerRemaining (s : Store κ) (r : Reader) : Nat := s.readerLength r - r.position

/-- The bytes that a source holds now. -/
def sourceBytes (s : Store κ) : Source → Except IoError Bytes
  | .file (.file id) _ => .ok (s.disk.bytes id)
  | .file (.directory _) _ => .error (.os .isADirectory)
  | .entry t e => .ok ((s.table t).value e)
  | .bytes b => .ok b

/-- Delivers at most `n` bytes at the position of a reader and moves it past them. -/
def deliver (s : Store κ) (reader : HandleId) (n : Nat) : Store κ × Except IoError Bytes :=
  match s.reader? reader with
  | none => (s, .ok .empty)
  | some r =>
    match s.sourceBytes r.source with
    | .error e => (s, .error e)
    | .ok content =>
      let b := content.slice r.position n
      (s.setHandle reader (.reader { r with position := r.position + b.size }), .ok b)

/-- At most as many bytes are delivered as are asked for. -/
theorem size_deliver_le {s : Store κ} {reader : HandleId} {n : Nat} {b : Bytes}
    (h : (s.deliver reader n).2 = .ok b) : b.size ≤ n := by
  unfold deliver at h
  split at h
  · obtain rfl := Except.ok.inj h
    exact Nat.zero_le n
  · split at h
    · cases h
    · obtain rfl := Except.ok.inj h
      rw [Bytes.size_slice]
      exact Nat.min_le_left ..

/-- The number of bytes that a raw read of a reader delivers at most, where so many are asked
for. -/
def atOnce (s : Store κ) (reader : HandleId) (n : Nat) : Nat :=
  match s.reader? reader with
  | none => n
  | some r => r.source.atOnce n

/-- No more is moved at once than is asked for. -/
theorem atOnce_le (s : Store κ) (reader : HandleId) (n : Nat) : s.atOnce reader n ≤ n := by
  unfold atOnce
  split
  · exact Nat.le_refl n
  · exact Source.atOnce_le ..

/-- One raw read. -/
def readRaw (s : Store κ) (reader : HandleId) (n : Nat) : Store κ × Except IoError Bytes :=
  s.deliver reader (s.atOnce reader n)

/-- A raw read delivers at most as many bytes as it is asked for. -/
theorem size_readRaw_le {s : Store κ} {reader : HandleId} {n : Nat} {b : Bytes}
    (h : (s.readRaw reader n).2 = .ok b) : b.size ≤ n :=
  Nat.le_trans (size_deliver_le h) (s.atOnce_le reader n)

/-- A reader of the store as a source of bytes: what it delivers lies at the start of the part, and
the rest of the part stays. -/
def byteSource (reader : HandleId) : ByteSource (Store κ) where
  read s room :=
    match s.readRaw reader room.size with
    | (s', .ok b) => (s', Bytes.patch 0 b room, .delivered b.size)
    | (s', .error e) => (s', room, .failed e)
  size_read s room := by
    split
    · next h =>
      refine Bytes.size_patch ?_
      rw [Nat.zero_add]
      exact size_readRaw_le (congrArg Prod.snd h)
    · rfl
  remaining s :=
    match s.reader? reader with
    | some r => s.readerRemaining r
    | none => 0

/-- Fills a buffer with at most `maxLen` bytes from a reader, as far as its length allows. Each
round of the loop but the last delivers at least one byte, so that one round more than there is
room is enough. -/
def readData (s : Store κ) (reader : HandleId) (buffer : Bytes) (maxLen : Nat) :
    Store κ × Except Failure Bytes :=
  let source := byteSource reader
  match source.readData (min (source.remaining s) maxLen + 1) buffer maxLen s with
  | none => (s, .ok .empty)
  | some (s', b, .ok _) => (s', .ok b)
  | some (s', _, .error e) => (s', .error (.readStream e))

/-- All bytes that a reader delivers from its position on. -/
def readToEnd (s : Store κ) (reader : HandleId) : Store κ × Except IoError Bytes :=
  match s.reader? reader with
  | none => (s, .ok .empty)
  | some r =>
    match s.sourceBytes r.source with
    | .error e => (s, .error e)
    | .ok content => s.deliver reader content.size

/-- Moves a reader to an offset inside its content or to its end. -/
def seek (s : Store κ) (reader : HandleId) (offset : Nat) : Store κ × Except Failure Unit :=
  match s.reader? reader with
  | none => (s, .error (.content (.outOfBounds offset 0 0)))
  | some r =>
    if s.readerLength r < offset then
      (s, .error (.content (.outOfBounds offset 0 (s.readerLength r))))
    else (s.setHandle reader (.reader { r with position := offset }), .ok ())

/-! ### Writing -/

/-- Takes bytes into a sink. -/
def writeSink (s : Store κ) (sink : Sink) (b : Bytes) : Except IoError (Store κ × Sink) :=
  match sink with
  | .file id none => .ok ({ s with disk := s.disk.append id b }, sink)
  | .file id (some offset) =>
    .ok ({ s with disk := s.disk.writeAt id offset b }, .file id (some (offset + b.size)))
  | .entry t e =>
    match (s.table t).appendValue e b with
    | .ok table => .ok (s.setTable t table, sink)
    | .error (.capacityExceeded requested available) => .error (.overCapacity requested available)
    | .error x => .error (.other x.message)
  | .row d key buffer => .ok (s, .row d key (buffer ++ b))

/-- Writes bytes through a writer that is open, all of them or none. -/
def accept (s : Store κ) (writer : HandleId) (b : Bytes) : Store κ × Except IoError Nat :=
  match s.writer? writer with
  | none => (s, .error .writerClosed)
  | some w =>
    if w.isOpen then
      match s.writeSink w.sink b with
      | .error e => (s, .error e)
      | .ok (s', sink) =>
        (s'.setHandle writer (.writer { w with sink, written := w.written + b.size }),
          .ok b.size)
    else (s, .error .writerClosed)

/-- The part of the bytes offered that one raw write to a writer takes. -/
def offered (s : Store κ) (writer : HandleId) (b : Bytes) : Bytes :=
  match s.writer? writer with
  | none => b
  | some w => b.take (w.sink.atOnce b.size)

/-- No more is taken than is offered. -/
theorem size_offered_le (s : Store κ) (writer : HandleId) (b : Bytes) :
    (s.offered writer b).size ≤ b.size := by
  unfold offered
  split
  · exact Nat.le_refl _
  · rw [Bytes.size_take]
    exact Nat.min_le_right ..

/-- One raw write. -/
def writeRaw (s : Store κ) (writer : HandleId) (b : Bytes) : Store κ × Except IoError Nat :=
  s.accept writer (s.offered writer b)

/-- Writes a payload. An empty one makes no write. -/
def writeAll (s : Store κ) (writer : HandleId) (b : Bytes) : Store κ × Except IoError Nat :=
  if b.isEmpty then (s, .ok 0) else s.accept writer b

/-- Writes a payload, as one operation on content. -/
def writeData (s : Store κ) (writer : HandleId) (b : Bytes) : Store κ × Except Failure Nat :=
  match s.writeAll writer b with
  | (s', .ok n) => (s', .ok n)
  | (s', .error e) => (s', .error (.writeStream e))

/-- Stores what a writer collected, if it collects; a file is written back. -/
def commit (s : Store κ) : Sink → Store κ
  | .row d key buffer => s.modifyDatabase d (·.put key buffer)
  | .file id _ => { s with disk := s.disk.sync id }
  | .entry .. => s

/-- Ends the writing: what was collected is stored, then the lease is given back. Closing a writer
that was closed before changes nothing. -/
def close (s : Store κ) (writer : HandleId) : Store κ :=
  match s.writer? writer with
  | none => s
  | some w =>
    if w.isOpen then
      ((s.commit w.sink).releaseAll w.openResources).setHandle writer
        (.writer { w with lease := none })
    else s

/-! ### Copying -/

/-- The number of bytes that a copy moves at a time. -/
def copyChunk : Nat := 8 * 1024

/-- Moves chunks until the reader delivers nothing, for at most so many rounds. -/
def copyRounds (reader writer : HandleId) :
    Nat → Store κ → Nat → Option (Store κ × Except IoError Nat)
  | 0, _, _ => none
  | rounds + 1, s, total =>
    match s.readRaw reader copyChunk with
    | (s, .error e) => some (s, .error e)
    | (s, .ok b) =>
      if b.isEmpty then some (s, .ok total)
      else
        match s.writeAll writer b with
        | (s, .error e) => some (s, .error e)
        | (s, .ok n) => copyRounds reader writer rounds s (total + n)

/-- Copies from a reader into a writer and answers with the number of bytes moved, or with nothing
where the copy does not end. It ends within one round more than the source has bytes, unless the
writer makes the source longer ahead of the reader, and then it never does. -/
def copy (s : Store κ) (reader writer : HandleId) : Option (Store κ × Except IoError Nat) :=
  match s.reader? reader with
  | none => some (s, .ok 0)
  | some r =>
    match s.sourceBytes r.source with
    | .error e => some (s, .error e)
    | .ok content => copyRounds reader writer (content.size + 1) s 0

end ClaimStore.Store
