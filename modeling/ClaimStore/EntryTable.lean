import ClaimStore.Budget
import ClaimStore.Bytes

/-!
# Entry tables

An entry table keeps byte strings under keys. Each entry counts its owners: an entry with an
owner is never removed, and the owners of an entry are exactly the borrows that were handed out
and not yet given back. The value of an entry sits behind a lock that admits many readers or one
writer and never waits. All changes of length go through the budget of the table before they
touch the value.

## Main definitions

* `ClaimStore.Lock` — the state of the lock of a value.
* `ClaimStore.Entry`, `ClaimStore.EntryTable` — entries and tables.
* `EntryTable.borrow`, `EntryTable.getOrInsert`, `EntryTable.dropOwner` — taking and giving back
  ownership.
* `EntryTable.resizeValue`, `EntryTable.appendValue` — changes of a value under the budget.
* `EntryTable.remove` — removal of an entry without owners.

## Design

The table keeps every entry it ever made in `cells`, and an entry is named by its position there
for good. Removal only clears the mark `stored`, so that the guard of a value that outlives its
entry still names the value it guards.

A value has whatever length the budget admits. Under a budget of `2 ^ 63` bytes or more a caller
could ask for a length that no memory has, and would lose its thread; this is left out. So are
changes of length that a caller makes to the bytes behind the guard of a writer, past the table. -/

set_option autoImplicit false

namespace ClaimStore

/-! ### Locks -/

/-- The state of a lock that admits many readers or one writer. -/
structure Lock where
  /-- The number of readers inside. -/
  readers : Nat
  /-- A writer is inside. -/
  writer : Bool
  deriving DecidableEq, Repr

namespace Lock

/-- The lock with nobody inside. -/
def free : Lock := ⟨0, false⟩

/-- Lets one more reader in, unless a writer is inside. -/
def tryRead (l : Lock) : Option Lock :=
  if l.writer then none else some { l with readers := l.readers + 1 }

/-- Lets a writer in, unless anybody is inside. -/
def tryWrite (l : Lock) : Option Lock :=
  if l.writer || l.readers != 0 then none else some { l with writer := true }

/-- Lets one reader out. -/
def endRead (l : Lock) : Lock := { l with readers := l.readers - 1 }

/-- Lets the writer out. -/
def endWrite (l : Lock) : Lock := { l with writer := false }

end Lock

/-! ### Entries and tables -/

/-- The position of an entry among all entries that its table ever made. -/
abbrev EntryId := Nat

/-- A value with its key, its owners and its lock. -/
structure Entry (K : Type) where
  /-- The key under which the entry was made. -/
  key : K
  /-- The entry is in the table. -/
  stored : Bool
  /-- The value. -/
  value : Bytes
  /-- The length of the value as it is shown to those outside the lock. -/
  len : Nat
  /-- The number of borrows not yet given back. -/
  owners : Nat
  /-- The lock of the value. -/
  lock : Lock
  deriving DecidableEq, Repr

/-- A new entry: stored, empty, without owners. -/
def Entry.new {K : Type} (key : K) : Entry K where
  key
  stored := true
  value := .empty
  len := 0
  owners := 0
  lock := .free

/-- Entries under keys, with the budget that limits them. -/
structure EntryTable (K : Type) where
  /-- Every entry ever made, in order of making. -/
  cells : List (Entry K)
  /-- The accounting of the stored entries. -/
  budget : Budget
  deriving Repr

/-- The answer to a removal. -/
inductive Removal where
  /-- The entry was taken out. -/
  | removed
  /-- The key is not in the table. -/
  | absent
  /-- The entry has this many owners and stays. -/
  | owned (n : Nat)
  deriving DecidableEq, Repr

namespace EntryTable

variable {K : Type}

/-- A table without entries. -/
def new (maxBytes maxCount : UInt64) : EntryTable K where
  cells := []
  budget := .new maxBytes maxCount

/-- Changes one entry. -/
def modify (t : EntryTable K) (e : EntryId) (f : Entry K → Entry K) : EntryTable K :=
  { t with cells := t.cells.modify e f }

/-- The value of an entry, empty if there is no such entry. -/
def value (t : EntryTable K) (e : EntryId) : Bytes :=
  match t.cells[e]? with
  | some c => c.value
  | none => .empty

/-- The length of the value of an entry, as shown to those outside its lock. -/
def len (t : EntryTable K) (e : EntryId) : Nat :=
  match t.cells[e]? with
  | some c => c.len
  | none => 0

/-- The number of owners of an entry. -/
def owners (t : EntryTable K) (e : EntryId) : Nat :=
  match t.cells[e]? with
  | some c => c.owners
  | none => 0

/-- The number of stored entries. -/
def size (t : EntryTable K) : Nat := t.cells.countP (·.stored)

/-- The owners of all stored entries together. -/
def totalOwners (t : EntryTable K) : Nat :=
  t.cells.foldr (fun c n => if c.stored then c.owners + n else n) 0

/-! ### Look-up -/

section Lookup

variable [DecidableEq K]

/-- The stored entry under a key. -/
def find? (t : EntryTable K) (key : K) : Option EntryId :=
  t.cells.findIdx? fun c => c.stored && decide (c.key = key)

/-- An entry is stored under the key. -/
def contains (t : EntryTable K) (key : K) : Bool := (t.find? key).isSome

/-- The length of the value stored under a key. -/
def valueLen? (t : EntryTable K) (key : K) : Option Nat := (t.find? key).map t.len

/-- The number of owners of the entry stored under a key. -/
def ownerCount? (t : EntryTable K) (key : K) : Option Nat := (t.find? key).map t.owners

end Lookup

/-! ### Ownership -/

/-- Counts one more owner of an entry. -/
def takeOwner (t : EntryTable K) (e : EntryId) : EntryTable K :=
  t.modify e fun c => { c with owners := c.owners + 1 }

/-- Counts one owner of an entry less. -/
def dropOwner (t : EntryTable K) (e : EntryId) : EntryTable K :=
  t.modify e fun c => { c with owners := c.owners - 1 }

section Borrow

variable [DecidableEq K]

/-- Borrows the entry stored under a key. A key that is not in the table changes no counter. -/
def borrow (t : EntryTable K) (key : K) : Option (EntryId × EntryTable K) :=
  (t.find? key).map fun e => (e, t.takeOwner e)

/-- Borrows the entry stored under a key, after making one if there is none. -/
def getOrInsert (t : EntryTable K) (key : K) : Except ContentError (EntryId × EntryTable K) :=
  match t.borrow key with
  | some r => .ok r
  | none =>
    match t.budget.admitEntry with
    | .error e => .error e
    | .ok b =>
      let e := t.cells.length
      .ok (e, takeOwner { cells := t.cells ++ [Entry.new key], budget := b } e)

/-- Takes the entry under a key out of the table, unless it has owners. -/
def remove (t : EntryTable K) (key : K) : Removal × EntryTable K :=
  match t.find? key with
  | none => (.absent, t)
  | some e =>
    if 0 < t.owners e then (.owned (t.owners e), t)
    else
      (.removed,
        { cells := t.cells.modify e fun c => { c with stored := false }
          budget := (t.budget.release (UInt64.ofNat (t.len e))).retireEntry })

end Borrow

/-! ### Values and their locks -/

/-- Enters the lock of a value as a reader. -/
def tryRead (t : EntryTable K) (e : EntryId) : Option (EntryTable K) :=
  match t.cells[e]? with
  | none => none
  | some c => c.lock.tryRead.map fun l => t.modify e fun c => { c with lock := l }

/-- Enters the lock of a value as its writer. -/
def tryWrite (t : EntryTable K) (e : EntryId) : Option (EntryTable K) :=
  match t.cells[e]? with
  | none => none
  | some c => c.lock.tryWrite.map fun l => t.modify e fun c => { c with lock := l }

/-- Leaves the lock of a value as a reader. -/
def endRead (t : EntryTable K) (e : EntryId) : EntryTable K :=
  t.modify e fun c => { c with lock := c.lock.endRead }

/-- Leaves the lock of a value as its writer. -/
def endWrite (t : EntryTable K) (e : EntryId) : EntryTable K :=
  t.modify e fun c => { c with lock := c.lock.endWrite }

/-- Replaces a value by another one of the same length. -/
def setValue (t : EntryTable K) (e : EntryId) (bytes : Bytes) : EntryTable K :=
  t.modify e fun c => { c with value := bytes }

/-- Cuts or zero-pads a value to `n` bytes, once the budget has admitted the change. As for a row, a
length that no buffer can have ends the thread, even if the budget admits it. -/
def resizeValue (t : EntryTable K) (e : EntryId) (n : UInt64) :
    Except ContentError (EntryTable K) :=
  match t.budget.adjust (UInt64.ofNat (t.value e).size) n with
  | .error x => .error x
  | .ok b =>
    .ok
      { cells := t.cells.modify e fun c =>
          { c with value := c.value.fit n.toNat, len := n.toNat }
        budget := b }

/-- Appends bytes to a value, once the budget has admitted them. -/
def appendValue (t : EntryTable K) (e : EntryId) (bytes : Bytes) :
    Except ContentError (EntryTable K) :=
  match t.budget.allocate (UInt64.ofNat bytes.size) with
  | .error x => .error x
  | .ok b =>
    .ok
      { cells := t.cells.modify e fun c =>
          let value := c.value ++ bytes
          { c with value, len := value.size }
        budget := b }

end EntryTable

end ClaimStore
