import ClaimStore.Bytes

/-!
# The contents of files

Memory is mapped in whole pages, so the last page of a mapped file may reach past the end of the
file. What is written there through a mapping is seen through every mapping of the file, but it is
no part of the file: it is dropped when the file is cut, extended or written back, and it is
overwritten where the file grows over it.

## Main definitions

* `ClaimStore.FileData` — the bytes of a file, and what mappings see after them.
* `FileData.view`, `FileData.writeView` — the first bytes as a mapping sees and changes them.
* `FileData.setLength`, `FileData.overwrite` — changes of the file itself.
* `FileData.flush` — writing mapped pages back.

## Main results

* `FileData.view_writeView` — a mapping sees what was written through it.
* `FileData.size_writeView` — a mapping cannot make its file longer or shorter.
* `FileData.bytes_flush` — writing back does not change the file.
-/

set_option autoImplicit false

namespace ClaimStore

/-- What a file holds. -/
structure FileData where
  /-- The bytes of the file. -/
  bytes : Bytes
  /-- What mappings see after the end of the file, up to zeros. -/
  slack : Bytes
  deriving DecidableEq, Repr

namespace FileData

/-- The size of a page, in bytes. -/
def pageBytes : Nat := 4096

/-- A file of these bytes, of which no mapping sees more. -/
def ofBytes (b : Bytes) : FileData := ⟨b, .empty⟩

/-- The first `n` bytes, as a mapping sees them. -/
def view (f : FileData) (n : Nat) : Bytes := (f.bytes ++ f.slack).fit n

/-- The file after a mapping changed its first bytes to these. -/
def writeView (f : FileData) (v : Bytes) : FileData where
  bytes := v.take f.bytes.size ++ f.bytes.drop v.size
  slack := v.drop f.bytes.size ++ f.slack.drop (v.size - f.bytes.size)

/-- The file cut or zero-padded to `n` bytes. -/
def setLength (f : FileData) (n : Nat) : FileData := ofBytes (f.bytes.fit n)

/-- The file with `p` laid over it at an offset. It grows where `p` reaches past its end; a gap
before `p` is filled with zeros. -/
def overwrite (f : FileData) (offset : Nat) (p : Bytes) : FileData where
  bytes := Bytes.patch offset p f.bytes
  slack := f.slack.drop (offset + p.size - f.bytes.size)

/-- The file after the pages of its first `n` bytes were written back. -/
def flush (f : FileData) (n : Nat) : FileData :=
  if f.bytes.size - f.bytes.size % pageBytes < n then ofBytes f.bytes else f

/-! ### Laws -/

/-- **A mapping sees what was written through it.** -/
theorem view_writeView (f : FileData) (v : Bytes) : (f.writeView v).view v.size = v := by
  apply Bytes.ext
  simp only [view, writeView, Bytes.toList_fit, Bytes.toList_append, Bytes.toList_take,
    Bytes.toList_drop, Bytes.size_append, Bytes.size_take, Bytes.size_drop]
  generalize hf : f.bytes.size = n
  have hv : v.toList.length = v.size := Bytes.length_toList v
  have hb : f.bytes.toList.length = n := by rw [Bytes.length_toList, hf]
  have hz : v.size - (min n v.size + (n - v.size) +
      (v.size - n + (f.slack.size - (v.size - n)))) = 0 := by omega
  rw [hz, List.replicate_zero, List.append_nil]
  rcases Nat.le_total v.size n with h | h
  · rw [List.take_of_length_le (by omega : v.toList.length ≤ n), List.append_assoc,
      List.take_left' hv]
  · rw [List.drop_eq_nil_of_le (by omega : f.bytes.toList.length ≤ v.size), List.append_nil,
      ← List.append_assoc, List.take_append_drop, List.take_left' hv]

/-- **A mapping cannot make its file longer or shorter.** -/
@[simp] theorem size_writeView (f : FileData) (v : Bytes) :
    (f.writeView v).bytes.size = f.bytes.size := by
  simp [writeView]; omega

/-- **Writing back does not change the file.** -/
@[simp] theorem bytes_flush (f : FileData) (n : Nat) : (f.flush n).bytes = f.bytes := by
  unfold flush; split <;> rfl

/-- What no mapping wrote past the end of the file reads as zeros there. -/
theorem view_ofBytes (b : Bytes) (n : Nat) : (ofBytes b).view n = b.fit n := by
  have : b ++ Bytes.empty = b := Bytes.ext (by simp)
  simp [view, ofBytes, this]

end FileData

end ClaimStore
