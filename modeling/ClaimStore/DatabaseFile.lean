import ClaimStore.Bytes
import ClaimStore.Error

/-!
# Database files

What opening a file as a database is assumed to answer. The database is a component of its own, and
nothing here says how it keeps rows: of its files, only what can be told from outside enters. A file
that is opened as a database answers by its header, which is a signature and two records, each of
which begins with the version of its format; what follows the header is not looked at. A file
without bytes becomes a database without rows.

## Main definitions

* `DatabaseFile.signature`, `DatabaseFile.header`, `DatabaseFile.image` — the bytes that a database
  file without rows is assumed to hold.
* `DatabaseFile.fault?` — the reason that is assumed to be given why bytes are not those of a
  database file.

## Main results

* `DatabaseFile.fault?_take` — bytes that hold a whole header are judged by it alone.
* `DatabaseFile.fault?_image` — the bytes of a database file have no fault.

## Design

All that is assumed stands in `DatabaseFile.fault?` and `DatabaseFile.image`. Opening a database is
the only operation that uses them, and only to choose its answer; no statement about rows depends on
which bytes they are.
-/

set_option autoImplicit false

namespace ClaimStore.DatabaseFile

/-! ### Versions -/

/-- The reason why a version of the format cannot be read, if there is one. The first version has
to be converted before it can be; the two after it are the ones in use. -/
def versionFault? (version : UInt8) : Option DatabaseFault :=
  if version = 1 then some (.outdatedFormat version)
  else if version = 2 ∨ version = 3 then none
  else some (.unknownFormat version)

/-- The version in a new database file. -/
def newVersion : UInt8 := 2

/-- The places of the two versions in a header, in the order in which they are read. -/
def versionOffsets : List Nat := [64, 192]

/-! ### The bytes of a database file -/

/-- The bytes that a database file begins with. -/
def signature : Bytes := .ofList [0x72, 0x65, 0x64, 0x62, 0x1A, 0x0A, 0xA9, 0x0D, 0x0A]

/-- The length of a header: 64 bytes, and 128 bytes for each of the two records. -/
def headerLength : Nat := 320

/-- Each of the two records of a new database file. -/
def record : Bytes := (Bytes.ofList [newVersion]).fit 128

/-- The header of a new database file. -/
def header : Bytes := signature.fit 64 ++ (record ++ record)

/-- The length of a new database file, which makes room for rows. -/
def imageLength : Nat := 0x80000

/-- The bytes of a new database file, as far as opening it again tells. -/
def image : Bytes := header.fit imageLength

/-! ### Recognising a database file -/

/-- The reason why bytes are not those of a database file, if there is one: an assumption on what
opening an existing file answers. -/
def fault? (b : Bytes) : Option DatabaseFault :=
  if b.take signature.size ≠ signature then some (.io .invalidData)
  else if b.size < headerLength then some (.io .unexpectedEnd)
  else versionOffsets.findSome? fun offset => versionFault? ((b.get? offset).getD 0)

/-- Bytes that hold a whole header are judged by it alone. -/
theorem fault?_take {b : Bytes} (h : headerLength ≤ b.size) :
    fault? (b.take headerLength) = fault? b := by
  have signed : (b.take headerLength).take signature.size = b.take signature.size :=
    Bytes.ext (by
      simp [List.take_take, Nat.min_eq_left (by decide : signature.size ≤ headerLength)])
  have version {offset : Nat} (ho : offset < headerLength) :
      (b.take headerLength).get? offset = b.get? offset := by
    rw [Bytes.get?_eq, Bytes.get?_eq, Bytes.toList_take, List.getElem?_take_of_lt ho]
  simp [fault?, signed, Nat.min_eq_left h, Nat.not_lt.mpr h, versionOffsets, List.findSome?,
    version (by decide : 64 < headerLength), version (by decide : 192 < headerLength)]

/-- A header has its length. -/
@[simp] theorem size_header : header.size = headerLength := by simp [header, record, headerLength]

/-- A new database file has its length. -/
@[simp] theorem size_image : image.size = imageLength := Bytes.size_fit _ _

/-- A new database file begins with its header. -/
theorem take_image : image.take headerLength = header := by
  rw [← Bytes.fit_of_le_size (by rw [size_image]; decide), image,
    Bytes.fit_fit_of_le _ (by decide), ← size_header, Bytes.fit_size]

/-- A new database file has no fault. -/
@[simp] theorem fault?_image : fault? image = none := by
  rw [← fault?_take (by rw [size_image]; decide), take_image]
  decide +kernel

end ClaimStore.DatabaseFile
