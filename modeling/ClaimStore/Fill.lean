import ClaimStore.Bytes
import ClaimStore.Error

/-!
# Filling a buffer from a reader

A raw read is given a part of a buffer. It may deliver fewer bytes than there is room for, may be
interrupted, and may fail, and what it leaves in the part behind the bytes it delivers is its own
matter. The fill loop asks again until the buffer is full, a read delivers nothing, or one fails;
the buffer then holds what was delivered and nothing else.

## Main definitions

* `ClaimStore.ReadAnswer` — the answer to one raw read.
* `ClaimStore.ByteSource` — a reader, as its raw read and what is left of its content.
* `ByteSource.fill` — the fill loop.
* `ByteSource.readData` — the loop on a buffer that is as long as the content left allows.

## Design

The loop goes on through any number of interruptions, so it carries a number of rounds and
answers `none` when they are used up.
-/

set_option autoImplicit false

namespace ClaimStore

/-- The answer to one raw read. -/
inductive ReadAnswer where
  /-- So many bytes were laid at the start of the part; none at all means the end. -/
  | delivered (n : Nat)
  /-- The read was interrupted and may be tried again. -/
  | interrupted
  /-- The read failed. -/
  | failed (e : IoError)
  deriving DecidableEq, Repr

/-- A reader over states `σ`. -/
structure ByteSource (σ : Type) where
  /-- The raw read into a part of a buffer: the part as it leaves it, and its answer. -/
  read : σ → Bytes → σ × Bytes × ReadAnswer
  /-- A part keeps its length. -/
  size_read : ∀ s room, (read s room).2.1.size = room.size
  /-- The number of bytes between the position and the length of the content. -/
  remaining : σ → Nat

namespace ByteSource

variable {σ : Type}

/-- Reads into `buffer` from position `filled` on. The answer holds the part of the buffer that
was filled, and the number of its bytes or the failure that ended the loop. -/
def fill (r : ByteSource σ) : Nat → Bytes → Nat → σ → Option (σ × Bytes × Except IoError Nat)
  | 0, _, _, _ => none
  | rounds + 1, buffer, filled, s =>
    if buffer.size ≤ filled then some (s, buffer.take filled, .ok filled)
    else
      match r.read s (buffer.drop filled) with
      | (s', part, .delivered n) =>
        if n = 0 then some (s', (Bytes.patch filled part buffer).take filled, .ok filled)
        else r.fill rounds (Bytes.patch filled part buffer) (filled + n) s'
      | (s', part, .interrupted) => r.fill rounds (Bytes.patch filled part buffer) filled s'
      | (s', part, .failed e) => some (s', (Bytes.patch filled part buffer).take filled, .error e)

/-- Empties a buffer and fills it with at most `maxLen` bytes, as far as the content left
allows. -/
def readData (r : ByteSource σ) (rounds : Nat) (buffer : Bytes) (maxLen : Nat) (s : σ) :
    Option (σ × Bytes × Except IoError Nat) :=
  r.fill rounds ((buffer.take 0).fit (min (r.remaining s) maxLen)) 0 s

end ByteSource

end ClaimStore
