/-!
# Byte strings

Stored content, mapped views and payloads are all finite byte strings. They are kept packed, one
after the other in memory, and every operation is described by what it does to the list of the
bytes. This file fixes the ways in which the store cuts and joins them: padding with zeros,
fitting to a length, taking a slice, and laying one string over another at an offset.

## Main definitions

* `ClaimStore.Bytes` — a byte string, first byte first.
* `Bytes.toList`, `Bytes.ofList` — a byte string as a list.
* `Bytes.take`, `Bytes.drop`, `Bytes.slice` — parts of a string.
* `Bytes.fit` — a string cut or zero-padded to an exact length.
* `Bytes.patch` — one string laid over another at an offset.

## Main results

* `Bytes.ext` — byte strings with the same list are equal.
* `Bytes.toList_append`, `Bytes.toList_take`, `Bytes.toList_drop`, `Bytes.toList_slice`,
  `Bytes.toList_fit`, `Bytes.toList_patch` — each operation through the list.
* `Bytes.fit_fit_of_le` — fitting to a larger length first changes nothing.
* `Bytes.size_patch` — a patch inside a string keeps its length.
* `Bytes.take_patch` — what a patched string holds up to a place in the patch.

## Design

The packed operations take their bounds as machine words, so every bound is cut to the length of
the string before it is used; the list does not show the difference.
-/

set_option autoImplicit false

namespace ClaimStore

/-- A byte string, first byte first. -/
structure Bytes where
  /-- The bytes, packed. -/
  packed : ByteArray

namespace Bytes

/-- Byte strings are compared packed. -/
instance : DecidableEq Bytes := fun a b =>
  match ByteArray.decEq a.packed b.packed with
  | isTrue h => isTrue (congrArg mk h)
  | isFalse h => isFalse fun e => h (congrArg packed e)

/-! ### Byte strings as lists -/

/-- The bytes of a string, from the first to the last. -/
def toList (b : Bytes) : List UInt8 := b.packed.data.toList

/-- The string of a list of bytes. -/
def ofList (l : List UInt8) : Bytes := ⟨l.toByteArray⟩

instance : Repr Bytes := ⟨fun b n => reprPrec b.toList n⟩

/-- The number of bytes. -/
def size (b : Bytes) : Nat := b.packed.size

/-- The string without bytes. -/
def empty : Bytes := ⟨.empty⟩

/-- There are no bytes. -/
def isEmpty (b : Bytes) : Bool := b.size == 0

/-- The byte at a position. -/
def get? (b : Bytes) (i : Nat) : Option UInt8 :=
  if h : i < b.packed.size then some b.packed[i] else none

/-- **Byte strings with the same list are equal.** -/
theorem ext {a b : Bytes} (h : a.toList = b.toList) : a = b := by
  rcases a with ⟨⟨⟨a⟩⟩⟩
  rcases b with ⟨⟨⟨b⟩⟩⟩
  exact congrArg (fun l => Bytes.mk ⟨⟨l⟩⟩) h

/-- The list of the bytes is as long as their size says. -/
@[simp] theorem length_toList (b : Bytes) : b.toList.length = b.size := by
  simp [toList, size]

/-- Bytes that are made from a list have that list. -/
@[simp] theorem toList_ofList (l : List UInt8) : (ofList l).toList = l := by
  simp [toList, ofList]

/-- The empty bytes have the empty list. -/
@[simp] theorem toList_empty : empty.toList = [] := rfl

/-- The empty bytes have size zero. -/
@[simp] theorem size_empty : empty.size = 0 := rfl

/-- Only the empty bytes have size zero. -/
theorem size_eq_zero_iff {b : Bytes} : b.size = 0 ↔ b = empty := by
  rw [← length_toList, List.length_eq_zero_iff]
  exact ⟨fun h => ext h, fun h => h ▸ rfl⟩

/-- The test for emptiness finds the empty bytes. -/
theorem isEmpty_iff {b : Bytes} : b.isEmpty = true ↔ b = empty := by
  rw [isEmpty, beq_iff_eq, size_eq_zero_iff]

/-- What is not found empty has bytes. -/
theorem isEmpty_eq_false_iff {b : Bytes} : b.isEmpty = false ↔ 0 < b.size := by
  rw [isEmpty, beq_eq_false_iff_ne, Nat.pos_iff_ne_zero]

/-- A byte at a position is that of the list. -/
theorem get?_eq (b : Bytes) (i : Nat) : b.get? i = b.toList[i]? := by
  by_cases h : i < b.packed.size
  · have hl : i < b.toList.length := by rw [length_toList]; exact h
    rw [get?, dif_pos h, List.getElem?_eq_getElem hl]
    rfl
  · have hl : b.toList.length ≤ i := by rw [length_toList]; exact Nat.le_of_not_lt h
    rw [get?, dif_neg h, List.getElem?_eq_none hl]

/-! ### Joining and cutting -/

/-- Two strings, one after the other. Joining the empty string copies nothing. -/
instance : Append Bytes := ⟨fun a b =>
  if b.size = 0 then a else if a.size = 0 then b else ⟨a.packed ++ b.packed⟩⟩

/-- The string of `n` times the same byte. Long strings are laid down in blocks. -/
def replicate (n : Nat) (x : UInt8) : Bytes :=
  let few (k : Nat) (b : ByteArray) : ByteArray := Nat.repeat (·.push x) k b
  if n < 4096 then ⟨few n .empty⟩ else
    let block := few 4096 (.emptyWithCapacity 4096)
    ⟨few (n % 4096) (Nat.repeat (· ++ block) (n / 4096) (.emptyWithCapacity n))⟩

/-- `n` zero bytes. -/
def zeros (n : Nat) : Bytes := replicate n 0

/-- The first `n` bytes, or all if there are fewer. -/
def take (n : Nat) (b : Bytes) : Bytes :=
  if b.size ≤ n then b else ⟨b.packed.extract 0 n⟩

/-- All but the first `n` bytes. -/
def drop (n : Nat) (b : Bytes) : Bytes := ⟨b.packed.extract n b.size⟩

/-- At most `n` bytes of `b` from `offset` on. -/
def slice (offset n : Nat) (b : Bytes) : Bytes :=
  ⟨b.packed.extract offset (min (offset + n) b.size)⟩

/-- Joined strings are joined lists. -/
@[simp] theorem toList_append (a b : Bytes) : (a ++ b).toList = a.toList ++ b.toList := by
  show (if b.size = 0 then a else if a.size = 0 then b else ⟨a.packed ++ b.packed⟩ : Bytes).toList
    = _
  split
  · rename_i hb
    rw [size_eq_zero_iff.1 hb, toList_empty, List.append_nil]
  split
  · rename_i ha
    rw [size_eq_zero_iff.1 ha, toList_empty, List.nil_append]
  · exact ByteArray.toList_data_append

/-- Pushing one byte `n` times appends `n` copies of it. -/
theorem toList_repeat_push (n : Nat) (x : UInt8) (b : ByteArray) :
    (Nat.repeat (·.push x) n b).data.toList = b.data.toList ++ List.replicate n x := by
  induction n with
  | zero => simp [Nat.repeat]
  | succ n ih =>
    rw [List.replicate_succ', ← List.append_assoc, ← ih]
    simp [Nat.repeat]

/-- Appending one block `n` times appends `n` times its length of copies of its byte. -/
theorem toList_repeat_append {k : Nat} {x : UInt8} {block : ByteArray}
    (h : block.data.toList = List.replicate k x) (n : Nat) (b : ByteArray) :
    (Nat.repeat (· ++ block) n b).data.toList = b.data.toList ++ List.replicate (k * n) x := by
  induction n with
  | zero => simp [Nat.repeat]
  | succ n ih =>
    rw [Nat.mul_succ, ← List.replicate_append_replicate, ← List.append_assoc, ← ih, ← h]
    exact ByteArray.toList_data_append

/-- The blocks and the bytes after the last one make up the whole string. -/
@[simp] theorem toList_replicate (n : Nat) (x : UInt8) :
    (replicate n x).toList = List.replicate n x := by
  simp only [replicate]
  split
  · exact toList_repeat_push n x .empty
  · have hblock := toList_repeat_push 4096 x (.emptyWithCapacity 4096)
    have hblocks := toList_repeat_append hblock (n / 4096) (.emptyWithCapacity n)
    refine (toList_repeat_push (n % 4096) x _).trans ?_
    rw [hblocks]
    show [] ++ List.replicate (4096 * (n / 4096)) x ++ List.replicate (n % 4096) x = _
    rw [List.nil_append, List.replicate_append_replicate, Nat.div_add_mod]

/-- The zeros of a size, as a list. -/
@[simp] theorem toList_zeros (n : Nat) : (zeros n).toList = List.replicate n 0 :=
  toList_replicate n 0

/-- A slice drops what is before it and takes its length of the rest. -/
theorem toList_slice (offset n : Nat) (b : Bytes) :
    (b.slice offset n).toList = (b.toList.drop offset).take n := by
  simp only [slice, toList, ByteArray.data_extract, Array.toList_extract, List.extract_eq_take_drop]
  rw [List.take_eq_take_iff]
  simp [size]
  omega

/-- The first bytes are the first of the list. -/
@[simp] theorem toList_take (n : Nat) (b : Bytes) : (b.take n).toList = b.toList.take n := by
  unfold take
  split
  · rw [List.take_of_length_le (by rwa [length_toList])]
  · rename_i h
    have : (⟨b.packed.extract 0 n⟩ : Bytes) = b.slice 0 n := by
      rw [slice, Nat.zero_add, Nat.min_eq_left (Nat.le_of_not_le h)]
    rw [this, toList_slice, List.drop_zero]

/-- The bytes after the first are those of the list. -/
@[simp] theorem toList_drop (n : Nat) (b : Bytes) : (b.drop n).toList = b.toList.drop n := by
  have : b.drop n = b.slice n b.size := by simp [drop, slice]
  rw [this, toList_slice, List.take_of_length_le]
  simp

/-- Sizes add up when bytes are joined. -/
@[simp] theorem size_append (a b : Bytes) : (a ++ b).size = a.size + b.size := by
  simp [← length_toList]

/-- A byte that is repeated has the size asked for. -/
@[simp] theorem size_replicate (n : Nat) (x : UInt8) : (replicate n x).size = n := by
  simp [← length_toList]

/-- The zeros of a size have that size. -/
@[simp] theorem size_zeros (n : Nat) : (zeros n).size = n := by simp [← length_toList]

/-- No more bytes are taken than there are. -/
@[simp] theorem size_take (n : Nat) (b : Bytes) : (b.take n).size = min n b.size := by
  simp [← length_toList]

/-- The bytes that are dropped are missing from the size, which stops at zero. -/
@[simp] theorem size_drop (n : Nat) (b : Bytes) : (b.drop n).size = b.size - n := by
  simp [← length_toList]

/-- A slice ends where the bytes end. -/
@[simp] theorem size_slice (offset n : Nat) (b : Bytes) :
    (b.slice offset n).size = min n (b.size - offset) := by
  simp [← length_toList, toList_slice]

/-! ### Fitting and patching -/

/-- The string `b` cut, or padded with zeros, to exactly `n` bytes. -/
def fit (n : Nat) (b : Bytes) : Bytes := b.take n ++ zeros (n - b.size)

/-- The string `b` with `p` laid over it at `offset`. A gap between the end of `b` and `offset`
is filled with zeros, and the string grows where `p` reaches past its end. -/
def patch (offset : Nat) (p b : Bytes) : Bytes :=
  fit offset b ++ (p ++ b.drop (offset + p.size))

/-- Bytes that are fitted to a size are cut to it, or filled up with zeros. -/
theorem toList_fit (n : Nat) (b : Bytes) :
    (b.fit n).toList = b.toList.take n ++ List.replicate (n - b.size) 0 := by
  simp [fit]

/-- A patch stands at its offset, after the bytes before it, which are fitted to the offset, and
before those that it does not reach. -/
theorem toList_patch (offset : Nat) (p b : Bytes) :
    (patch offset p b).toList =
      (b.fit offset).toList ++ (p.toList ++ b.toList.drop (offset + p.size)) := by
  simp [patch]

/-- Bytes that are fitted to a size have it. -/
@[simp] theorem size_fit (n : Nat) (b : Bytes) : (b.fit n).size = n := by
  simp [fit]; omega

/-- Bytes that are fitted to a larger size get zeros at their end. -/
theorem fit_of_size_le {n : Nat} {b : Bytes} (h : b.size ≤ n) :
    b.fit n = b ++ zeros (n - b.size) :=
  ext (by simp [toList_fit, List.take_of_length_le (l := b.toList) (i := n) (by simpa using h)])

/-- Bytes that are fitted to a smaller size are cut. -/
theorem fit_of_le_size {n : Nat} {b : Bytes} (h : n ≤ b.size) : b.fit n = b.take n :=
  ext (by simp [toList_fit, Nat.sub_eq_zero_of_le h])

/-- All bytes are taken. -/
@[simp] theorem take_size (b : Bytes) : b.take b.size = b :=
  ext (by simp [← length_toList])

/-- Bytes that are fitted to their own size stay as they are. -/
@[simp] theorem fit_size (b : Bytes) : b.fit b.size = b := by
  rw [fit_of_le_size (Nat.le_refl _), take_size]

/-- Fitting twice is fitting once when the second length is the smaller. -/
theorem fit_fit_of_le {m n : Nat} (b : Bytes) (h : m ≤ n) : (b.fit n).fit m = b.fit m := by
  apply ext
  rw [toList_fit, size_fit, toList_fit, toList_fit, List.take_append, List.take_take,
    Nat.min_eq_left h, Nat.sub_eq_zero_of_le h, List.length_take, length_toList,
    List.take_replicate, List.replicate_zero, List.append_nil]
  congr 2
  omega

/-- A patch that ends inside a string keeps its length. -/
theorem size_patch {offset : Nat} {p b : Bytes} (h : offset + p.size ≤ b.size) :
    (patch offset p b).size = b.size := by
  simp [patch]; omega

/-- A patched string cut inside the patch is what lies before the patch, and the start of it. -/
theorem take_patch {n : Nat} {p : Bytes} (offset : Nat) (b : Bytes) (h : n ≤ p.size) :
    (patch offset p b).take (offset + n) = b.fit offset ++ p.take n := by
  have hfit : (b.fit offset).toList.length = offset := by rw [length_toList, size_fit]
  have hp : n - p.toList.length = 0 := by
    rw [length_toList]
    omega
  apply ext
  rw [toList_take, toList_patch, List.take_append, hfit, Nat.add_sub_cancel_left, List.take_append,
    hp, List.take_zero, List.append_nil, List.take_of_length_le (by omega), toList_append,
    toList_take]

/-- A patch leaves what lies before it. -/
theorem take_patch_offset {offset : Nat} {b : Bytes} (p : Bytes) (h : offset ≤ b.size) :
    (patch offset p b).take offset = b.take offset := by
  have hcut := take_patch offset b (Nat.zero_le p.size)
  rw [Nat.add_zero, fit_of_le_size h] at hcut
  rw [hcut]
  exact ext (by simp)

end Bytes

end ClaimStore
