import Mathlib.Algebra.Order.Ring.Nat
import ClaimStore.Store.Drop
import ClaimStore.Store.Tables

/-!
# Operations and runs

Every operation that callers can make on repositories, claims, tables and the handles of these, as
one type, and what a sequence of them makes of a state. An operation that fails still leads to a
state; an operation on something that is not there does nothing.

## Main definitions

* `ClaimStore.Payload` — bytes that a caller can hold in memory.
* `ClaimStore.Operation` — the operations.
* `Operation.group` — what an operation works on.
* `Store.applies` — the claims and tables that an operation names are there.
* `Store.step`, `Store.run` — one operation, and a sequence of them.
* `Store.TableCalls` — what calls on tables lead to.

## Main results

* `Store.run_induction` — what every step preserves, every run preserves.
* `Store.TableCalls.perform` — what all calls on tables lead to, all operations on tables lead to.

## Design

Operations by which a caller would change a budget behind the back of its table are left out, as
are those of registries and lists of hooks that belong to no repository and no mapping.
-/

set_option autoImplicit false

namespace ClaimStore

/-- Bytes that a caller can hold in memory: their number is a machine word. -/
structure Payload where
  /-- The bytes. -/
  bytes : Bytes
  /-- Their number is a machine word. -/
  size_lt : bytes.size < 2 ^ 64

namespace Payload

/-! The payloads of the runs that witness the theorems. -/

/-- Two bytes are a payload. -/
lemma size_two_lt : (Bytes.ofList [1, 2]).size < 2 ^ 64 := by decide

/-- Three bytes are a payload. -/
lemma size_three_lt : (Bytes.ofList [1, 2, 3]).size < 2 ^ 64 := by decide

end Payload

/-- An operation of a caller, on a store whose tables may have keys of type `κ`. -/
inductive Operation (κ : Type) where
  /-- Opens a repository. -/
  | openRepository (kind : RepositoryKind)
  /-- Closes a repository. -/
  | closeRepository (r : RepositoryId)
  /-- Makes a claim. -/
  | addClaim (identifier : String) (r : Option RepositoryId)
  /-- Takes a reference of a claim. -/
  | acquire (c : ClaimId)
  /-- Maps content of a claim in a given repository. -/
  | mapContent (r : RepositoryId) (c : ClaimId) (n : UInt64) (readOnly : Bool)
  /-- Opens a reader of a claim in a given repository. -/
  | readContent (r : RepositoryId) (c : ClaimId)
  /-- Opens a writer to a claim in a given repository. -/
  | writeContent (r : RepositoryId) (c : ClaimId) (append : Bool)
  /-- Removes the content of a claim from a given repository. -/
  | removeContent (r : RepositoryId) (c : ClaimId)
  /-- Maps content of a claim in its own repository. -/
  | mapClaim (c : ClaimId) (n : UInt64) (readOnly : Bool)
  /-- Opens a reader of a claim in its own repository. -/
  | readClaim (c : ClaimId)
  /-- Opens a writer to a claim in its own repository. -/
  | writeClaim (c : ClaimId) (append : Bool)
  /-- Writes through a mapping. -/
  | writeAt (map : HandleId) (offset : Nat) (b : Bytes)
  /-- Sets all bytes of a mapping. -/
  | fillView (map : HandleId) (byte : UInt8)
  /-- Changes the length of a mapping. -/
  | resize (map : HandleId) (n : UInt64)
  /-- Writes a mapping back. -/
  | flush (map : HandleId)
  /-- Unmaps a mapping. -/
  | unmap (map : HandleId)
  /-- Registers a hook of the caller at a mapping. -/
  | registerHook (map : HandleId) (name : String) (failure : Option String)
      (probe : Option ClaimId)
  /-- Reads raw from a reader. -/
  | readRaw (reader : HandleId) (n : Nat)
  /-- Fills a buffer from a reader. -/
  | readData (reader : HandleId) (buffer : Bytes) (maxLen : Nat)
  /-- Reads to the end of a reader. -/
  | readToEnd (reader : HandleId)
  /-- Moves a reader. -/
  | seek (reader : HandleId) (offset : Nat)
  /-- Writes raw to a writer. -/
  | writeRaw (writer : HandleId) (b : Payload)
  /-- Writes a payload to a writer. -/
  | writeData (writer : HandleId) (b : Payload)
  /-- Closes a writer. -/
  | close (writer : HandleId)
  /-- Copies from a reader into a writer. -/
  | copy (reader writer : HandleId)
  /-- Drops a handle. -/
  | drop (h : HandleId)
  /-- Makes an entry table. -/
  | addTable (maxBytes maxCount : UInt64)
  /-- Borrows an entry of a table, which is made where it is missing. -/
  | insertEntry (t : TableId) (key : Key κ)
  /-- Borrows an entry of a table. -/
  | borrowEntry (t : TableId) (key : Key κ)
  /-- Clones a borrow. -/
  | cloneBorrow (borrow : HandleId)
  /-- Removes an entry from a table. -/
  | removeEntry (t : TableId) (key : Key κ)
  /-- Takes a guard of the value of a borrowed entry. -/
  | lockValue (borrow : HandleId) (writing : Bool)
  /-- Changes bytes of a value through the guard of its writer. -/
  | storeValue (guard : HandleId) (offset : Nat) (b : Bytes)
  /-- Changes the length of the value of a borrowed entry, with the entry's own guard. -/
  | resizeValue (borrow guard : HandleId) (n : UInt64)
  /-- Appends to the value of a borrowed entry, with the entry's own guard. -/
  | appendValue (borrow guard : HandleId) (b : Payload)
  /-- Maps the entry under a key. -/
  | mapKey (t : TableId) (key : Key κ) (n : UInt64) (readOnly : Bool)
  /-- Maps a borrowed entry. A mapping that takes the borrow over is this, and then the drop of
  the borrow. -/
  | mapBorrow (borrow : HandleId) (n : UInt64) (readOnly : Bool)

/-- What operations work on. -/
inductive Operation.Group where
  /-- Repositories, claims and their references, and content that is removed. -/
  | setup
  /-- Content that is opened. -/
  | opening
  /-- Mappings, which go on. -/
  | mapping
  /-- Readers and writers, which go on. -/
  | stream
  /-- Handles that end. -/
  | ending
  /-- Entry tables, past the repositories. -/
  | table
  deriving DecidableEq, Repr

/-- The group of an operation. -/
def Operation.group {κ : Type} : Operation κ → Operation.Group
  | .openRepository _ | .closeRepository _ | .addClaim .. | .acquire _ | .removeContent .. => .setup
  | .mapContent .. | .readContent .. | .writeContent .. | .mapClaim .. | .readClaim ..
  | .writeClaim .. => .opening
  | .writeAt .. | .fillView .. | .resize .. | .flush _ | .registerHook .. => .mapping
  | .readRaw .. | .readData .. | .readToEnd _ | .seek .. | .writeRaw .. | .writeData ..
  | .copy .. => .stream
  | .unmap _ | .close _ | .drop _ => .ending
  | .addTable .. | .insertEntry .. | .borrowEntry .. | .cloneBorrow _ | .removeEntry ..
  | .lockValue .. | .storeValue .. | .resizeValue .. | .appendValue .. | .mapKey ..
  | .mapBorrow .. => .table

namespace Store

variable {κ : Type}

/-- The entry that a borrow is of. -/
def borrowed? (s : Store κ) (h : HandleId) : Option (TableId × EntryId) :=
  match s.handle? h with
  | some (.borrow t e) => some (t, e)
  | _ => none

/-- The entry whose value a guard locks for writing. -/
def writeGuarded? (s : Store κ) (h : HandleId) : Option (TableId × EntryId) :=
  match s.handle? h with
  | some (.guard t e true) => some (t, e)
  | _ => none

/-- The claims and tables that an operation names are there. -/
def applies (s : Store κ) : Operation κ → Bool
  | .acquire c | .mapContent _ c _ _ | .readContent _ c | .writeContent _ c _
  | .removeContent _ c | .mapClaim c _ _ | .readClaim c | .writeClaim c _ => c < s.claims.length
  | .insertEntry t _ | .borrowEntry t _ | .removeEntry t _ | .mapKey t _ _ _ => t < s.tables.length
  | _ => true

/-- Changes bytes of a value in place. A range that is not inside the value is refused. -/
def storeValue (s : Store κ) (t : TableId) (e : EntryId) (offset : Nat) (b : Bytes) : Store κ :=
  if offset + b.size ≤ ((s.table t).value e).size then
    s.setTable t ((s.table t).setValue e (Bytes.patch offset b ((s.table t).value e)))
  else s

variable [DecidableEq κ] [ToString κ]

/-- The state after an operation, which names only what is there. -/
def perform (s : Store κ) : Operation κ → Store κ
  | .openRepository kind => (s.openRepository kind).1
  | .closeRepository r => s.closeRepository r
  | .addClaim identifier r => (s.addClaim identifier r).1
  | .acquire c => (s.acquire c).1
  | .mapContent r c n readOnly => (s.mapContent r c n readOnly).1
  | .readContent r c => (s.readContent r c).1
  | .writeContent r c append => (s.writeContent r c append).1
  | .removeContent r c => (s.removeContent r c).1
  | .mapClaim c n readOnly => (s.mapClaim c n readOnly).1
  | .readClaim c => (s.readClaim c).1
  | .writeClaim c append => (s.writeClaim c append).1
  | .writeAt map offset b => (s.writeAt map offset b).1
  | .fillView map byte => (s.fillView map byte).1
  | .resize map n => (s.resize map n).1
  | .flush map => s.flush map
  | .unmap map => (s.unmap map).1
  | .registerHook map name failure probe => s.registerHook map (.record name failure probe)
  | .readRaw reader n => (s.readRaw reader n).1
  | .readData reader buffer maxLen => (s.readData reader buffer maxLen).1
  | .readToEnd reader => (s.readToEnd reader).1
  | .seek reader offset => (s.seek reader offset).1
  | .writeRaw writer b => (s.writeRaw writer b.bytes).1
  | .writeData writer b => (s.writeData writer b.bytes).1
  | .close writer => s.close writer
  | .copy reader writer =>
    match s.copy reader writer with
    | some (s', _) => s'
    | none => s
  | .drop h => s.drop h
  | .addTable maxBytes maxCount => (s.addTable maxBytes maxCount).1
  | .insertEntry t key => (s.insertEntry t key).1
  | .borrowEntry t key => (s.borrowEntry t key).1
  | .cloneBorrow borrow =>
    match s.borrowed? borrow with
    | some (t, e) => (s.cloneBorrow t e).1
    | none => s
  | .removeEntry t key => (s.removeEntry t key).1
  | .lockValue borrow writing =>
    match s.borrowed? borrow with
    | some (t, e) => (s.lockValue t e writing).1
    | none => s
  | .storeValue guard offset b =>
    match s.writeGuarded? guard with
    | some (t, e) => s.storeValue t e offset b
    | none => s
  | .resizeValue borrow guard n =>
    match s.borrowed? borrow with
    | some (t, e) => if s.writeGuarded? guard = some (t, e) then (s.resizeValue t e n).1 else s
    | none => s
  | .appendValue borrow guard b =>
    match s.borrowed? borrow with
    | some (t, e) =>
      if s.writeGuarded? guard = some (t, e) then (s.appendValue t e b.bytes).1 else s
    | none => s
  | .mapKey t key n readOnly => (s.mapKey t key n readOnly).1
  | .mapBorrow borrow n readOnly =>
    match s.borrowed? borrow with
    | some (t, e) => (s.mapEntry t e n readOnly).1
    | none => s

/-- The state after an operation. -/
def step (s : Store κ) (op : Operation κ) : Store κ := if s.applies op then s.perform op else s

/-- The state after operations, one after the other. -/
def run (s : Store κ) (ops : List (Operation κ)) : Store κ := ops.foldl step s

/-- No operations change nothing. -/
@[simp] theorem run_nil (s : Store κ) : s.run [] = s := rfl

/-- The first operation of a run is made first. -/
@[simp] theorem run_cons (s : Store κ) (op : Operation κ) (ops : List (Operation κ)) :
    s.run (op :: ops) = (s.step op).run ops := rfl

/-- **What every step preserves, every run preserves.** -/
theorem run_induction {P : Store κ → Prop} (hstep : ∀ s op, P s → P (s.step op)) {s : Store κ}
    (hs : P s) (ops : List (Operation κ)) : P (s.run ops) := by
  induction ops generalizing s with
  | nil => exact hs
  | cons op ops ih => exact ih (hstep s op hs)

/-! ### Operations on tables -/

/-- **What calls on tables lead to** from a state, each with the operation that makes it. An
operation on a borrow or a guard makes a call only where the handle is there. -/
structure TableCalls (s : Store κ) (P : Operation κ → Store κ → Prop) : Prop where
  /-- There is no call. -/
  none : ∀ op, P op s
  /-- A table is made. -/
  addTable : ∀ maxBytes maxCount, P (.addTable maxBytes maxCount) (s.addTable maxBytes maxCount).1
  /-- An entry is borrowed, which may be made. -/
  insertEntry : ∀ t key, t < s.tables.length → P (.insertEntry t key) (s.insertEntry t key).1
  /-- An entry is borrowed. -/
  borrowEntry : ∀ t key, t < s.tables.length → P (.borrowEntry t key) (s.borrowEntry t key).1
  /-- A borrow is cloned. -/
  cloneBorrow : ∀ borrow t e, s.borrowed? borrow = some (t, e) →
    P (.cloneBorrow borrow) (s.cloneBorrow t e).1
  /-- An entry is removed. -/
  removeEntry : ∀ t key, t < s.tables.length → P (.removeEntry t key) (s.removeEntry t key).1
  /-- A value is locked. -/
  lockValue : ∀ borrow writing t e, s.borrowed? borrow = some (t, e) →
    P (.lockValue borrow writing) (s.lockValue t e writing).1
  /-- A value is changed in place. -/
  storeValue : ∀ guard offset b t e, s.writeGuarded? guard = some (t, e) →
    P (.storeValue guard offset b) (s.storeValue t e offset b)
  /-- A value is given another length. -/
  resizeValue : ∀ borrow guard n t e, s.borrowed? borrow = some (t, e) →
    s.writeGuarded? guard = some (t, e) → P (.resizeValue borrow guard n) (s.resizeValue t e n).1
  /-- A value is appended to. -/
  appendValue : ∀ borrow guard (b : Payload) t e, s.borrowed? borrow = some (t, e) →
    s.writeGuarded? guard = some (t, e) →
      P (.appendValue borrow guard b) (s.appendValue t e b.bytes).1
  /-- The entry under a key is mapped. -/
  mapKey : ∀ t key n readOnly, t < s.tables.length →
    P (.mapKey t key n readOnly) (s.mapKey t key n readOnly).1
  /-- A borrowed entry is mapped. -/
  mapBorrow : ∀ borrow n readOnly t e, s.borrowed? borrow = some (t, e) →
    P (.mapBorrow borrow n readOnly) (s.mapEntry t e n readOnly).1

/-- **What all calls on tables lead to, all operations on tables lead to.**

**Proof sketch.** An operation makes the call that it names, or none where a handle is not what it
has to be. -/
theorem TableCalls.perform {s : Store κ} {P : Operation κ → Store κ → Prop} (h : s.TableCalls P)
    {op : Operation κ} (hop : op.group = .table) (happ : s.applies op = true) :
    P op (s.perform op) := by
  cases op with
  | addTable maxBytes maxCount => exact h.addTable maxBytes maxCount
  | insertEntry t key => exact h.insertEntry t key (of_decide_eq_true happ)
  | borrowEntry t key => exact h.borrowEntry t key (of_decide_eq_true happ)
  | cloneBorrow borrow =>
    simp only [Store.perform]
    split
    · next t e hb => exact h.cloneBorrow borrow t e hb
    · exact h.none _
  | removeEntry t key => exact h.removeEntry t key (of_decide_eq_true happ)
  | lockValue borrow writing =>
    simp only [Store.perform]
    split
    · next t e hb => exact h.lockValue borrow writing t e hb
    · exact h.none _
  | storeValue guard offset b =>
    simp only [Store.perform]
    split
    · next t e hg => exact h.storeValue guard offset b t e hg
    · exact h.none _
  | resizeValue borrow guard n =>
    simp only [Store.perform]
    split
    · next t e hb =>
      split
      · next hg => exact h.resizeValue borrow guard n t e hb hg
      · exact h.none _
    · exact h.none _
  | appendValue borrow guard b =>
    simp only [Store.perform]
    split
    · next t e hb =>
      split
      · next hg => exact h.appendValue borrow guard b t e hb hg
      · exact h.none _
    · exact h.none _
  | mapKey t key n readOnly => exact h.mapKey t key n readOnly (of_decide_eq_true happ)
  | mapBorrow borrow n readOnly =>
    simp only [Store.perform]
    split
    · next t e hb => exact h.mapBorrow borrow n readOnly t e hb
    · exact h.none _
  | _ => cases hop

/-- **A copy that is an operation** is one that comes to an end; otherwise nothing happens. -/
theorem perform_copy (s : Store κ) (reader writer : HandleId) :
    s.perform (.copy reader writer) = s ∨
      ∃ s' r, s.copy reader writer = some (s', r) ∧ s.perform (.copy reader writer) = s' := by
  simp only [Store.perform]
  split
  · next s' r hcopy => exact .inr ⟨s', r, hcopy, rfl⟩
  · exact .inl rfl

end Store

end ClaimStore
