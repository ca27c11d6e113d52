import ClaimStore.Store.Files

/-!
# Content in entries

A volatile repository keeps content in the entries of a table, under the budget of the table. A
mapping or stream locks the value of its entry, and a lock that is taken is refused and not
waited for. An entry that was made by an open that fails is taken out again.

## Main definitions

* `EntryTable.lockFor` — the lock and the size that a mapping of an entry needs.
* `Store.mapEntry` — a mapping of an entry that belongs to no repository.
* `Store.withEntry` — an open that makes its entry where it is missing.
* `Store.mapInTable`, `Store.readInTable`, `Store.writeInTable`, `Store.removeInTable` — the
  operations of a volatile repository.
-/

set_option autoImplicit false

namespace ClaimStore

variable {κ : Type} [ToString κ]

namespace EntryTable

/-- The form of the key of an entry in messages. -/
def shownKey (t : EntryTable (Key κ)) (e : EntryId) : String :=
  match t.cells[e]? with
  | some c => c.key.shown
  | none => ""

/-- Locks the value of an entry for a mapping of `n` bytes. For a writable mapping the value is
cut or zero-padded to `n` bytes; for a read-only one it has to be that long. After a failure the
lock is as before. -/
def lockFor (t : EntryTable (Key κ)) (e : EntryId) (n : UInt64) (readOnly : Bool) :
    Except ContentError (EntryTable (Key κ)) :=
  if readOnly then
    match t.tryRead e with
    | none => .error (.writerActive (t.shownKey e))
    | some locked =>
      if (t.value e).size < n.toNat then
        .error (.insufficientBackingStore (t.shownKey e) n.toNat (t.value e).size)
      else .ok locked
  else
    match t.tryWrite e with
    | none => .error (.writerActive (t.shownKey e))
    | some locked => locked.resizeValue e n

/-- Locks the value of an entry for a writer, which empties it unless it appends. -/
def lockForWriter (t : EntryTable (Key κ)) (e : EntryId) (identifier : String) (append : Bool) :
    Except ContentError (EntryTable (Key κ)) :=
  match t.tryWrite e with
  | none => .error (.writerActive identifier)
  | some locked => if append then .ok locked else locked.resizeValue e 0

end EntryTable

namespace Store

/-! ### Mappings of entries -/

/-- The mapping of an entry whose value was locked for it. -/
def entryMapping (t : TableId) (e : EntryId) (n : UInt64) (readOnly : Bool) : Mapping where
  backing := .entry
    { borrow := some (t, e), size := n.toNat, view := if readOnly then .read else .write }
  readOnly
  hooks := .empty

/-- A mapping of an entry, which borrows it. -/
def mapEntry (s : Store κ) (t : TableId) (e : EntryId) (n : UInt64) (readOnly : Bool) :
    Store κ × Except Failure HandleId :=
  match ((s.table t).takeOwner e).lockFor e n readOnly with
  | .error x => (s, .error (.content x))
  | .ok table =>
    succeed ((s.setTable t table).addHandle (.mapping (entryMapping t e n readOnly)))

variable [DecidableEq κ]

/-- A mapping of the entry under a key. For a key that is not in the table the mapping shows
nothing, for good. -/
def mapKey (s : Store κ) (t : TableId) (key : Key κ) (n : UInt64) (readOnly : Bool) :
    Store κ × Except Failure HandleId :=
  match (s.table t).find? key with
  | some e => s.mapEntry t e n readOnly
  | none =>
    succeed (s.addHandle (.mapping
      { backing := .entry { borrow := none, size := Limits.unmappedSize, view := .released }
        readOnly
        hooks := .empty }))

/-! ### Operations of a volatile repository -/

/-- Borrows the entry of an identifier, after making one where it is missing, and locks it. If
the lock fails, the borrow is given back and an entry that was made is taken out again. -/
def withEntry (t : EntryTable (Key κ)) (identifier : String)
    (lock : EntryTable (Key κ) → EntryId → Except ContentError (EntryTable (Key κ))) :
    EntryTable (Key κ) × Except ContentError EntryId :=
  let created := !t.contains (.text identifier)
  match t.getOrInsert (.text identifier) with
  | .error x => (t, .error x)
  | .ok (e, borrowed) =>
    match lock borrowed e with
    | .ok locked => (locked, .ok e)
    | .error x =>
      let dropped := borrowed.dropOwner e
      (if created then (dropped.remove (.text identifier)).2 else dropped, .error x)

/-- A mapping of the entry of a claim. -/
def mapInTable (s : Store κ) (t : TableId) (writers : RegistryId) (c : ClaimId) (n : UInt64)
    (readOnly : Bool) : Store κ × Except Failure HandleId :=
  let identifier := s.identifier c
  if readOnly then
    match (s.table t).borrow (.text identifier) with
    | none => (s, .error (missingContent identifier n.toNat))
    | some (e, borrowed) =>
      match borrowed.lockFor e n true with
      | .error x => (s.setTable t (borrowed.dropOwner e), .error (.content x))
      | .ok locked =>
        succeed ((s.setTable t locked).addHeldMapping (entryMapping t e n true) c none)
  else
    match s.takeWriteLease writers identifier with
    | .error f => (s, .error f)
    | .ok leased =>
      match withEntry (s.table t) identifier fun table e => table.lockFor e n false with
      | (table, .error x) => (s.setTable t table, .error (.content x))
      | (table, .ok e) =>
        succeed ((leased.setTable t table).addHeldMapping (entryMapping t e n false) c
          (some (.write writers identifier)))

/-- A reader of the entry of a claim. -/
def readInTable (s : Store κ) (t : TableId) (c : ClaimId) : Store κ × Except Failure HandleId :=
  let identifier := s.identifier c
  match (s.table t).borrow (.text identifier) with
  | none => (s, .error (missingContent identifier 0))
  | some (e, borrowed) =>
    match borrowed.tryRead e with
    | none =>
      (s.setTable t (borrowed.dropOwner e), .error (.content (.writerActive identifier)))
    | some locked => succeed ((s.setTable t locked).addReader c (.entry t e))

/-- A writer to the entry of a claim, at its end or in place of what it holds. -/
def writeInTable (s : Store κ) (t : TableId) (writers : RegistryId) (c : ClaimId) (append : Bool) :
    Store κ × Except Failure HandleId :=
  let identifier := s.identifier c
  match s.takeWriteLease writers identifier with
  | .error f => (s, .error f)
  | .ok leased =>
    match withEntry (s.table t) identifier fun table e =>
        table.lockForWriter e identifier append with
    | (table, .error x) => (s.setTable t table, .error (.content x))
    | (table, .ok e) =>
      succeed ((leased.setTable t table).addWriter c (.entry t e) (.write writers identifier))

/-- Takes the entry of an identifier out of the table, unless it has owners. -/
def removeInTable (s : Store κ) (t : TableId) (identifier : String) :
    Store κ × Except Failure Bool :=
  match (s.table t).remove (.text identifier) with
  | (.removed, table) => (s.setTable t table, .ok true)
  | (.absent, table) => (s.setTable t table, .ok false)
  | (.owned n, table) => (s.setTable t table, .error (.content (.claimInUse identifier n)))

end Store

end ClaimStore
