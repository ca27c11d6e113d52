import ClaimStore.Store.Access

/-!
# Tables, budgets and registries by themselves

The operations that callers run on an entry table, a budget, a registry or a list of hooks that
they hold directly, next to those that the repositories run.

## Main definitions

* `Store.insertEntry`, `Store.borrowEntry`, `Store.removeEntry` — entries of a table.
* `Store.lockValue`, `Store.resizeValue`, `Store.appendValue` — values behind their locks.
* `ClaimStore.BudgetName`, `Store.budget`, `Store.setBudget` — budgets.
* `Store.acquireWriteLease`, `Store.acquireReadLease`, `Store.exclusive` — registries.
-/

set_option autoImplicit false

namespace ClaimStore

/-- Where a budget is: by itself or in a table. -/
inductive BudgetName where
  /-- A budget that belongs to no table. -/
  | free (i : Nat)
  /-- The budget of a table. -/
  | ofTable (t : TableId)
  deriving DecidableEq, Repr

namespace Store

variable {κ : Type}

/-! ### Entries -/

/-- A borrow of the entry under a key, which is made where it is missing. -/
def insertEntry [DecidableEq κ] (s : Store κ) (t : TableId) (key : Key κ) :
    Store κ × Except Failure HandleId :=
  match (s.table t).getOrInsert key with
  | .error x => (s, .error (.content x))
  | .ok (e, table) => succeed ((s.setTable t table).addHandle (.borrow t e))

/-- A borrow of the entry under a key, if it is in the table. -/
def borrowEntry [DecidableEq κ] (s : Store κ) (t : TableId) (key : Key κ) :
    Store κ × Option HandleId :=
  match (s.table t).borrow key with
  | none => (s, none)
  | some (e, table) =>
    let (s, h) := (s.setTable t table).addHandle (.borrow t e)
    (s, some h)

/-- One more borrow of a borrowed entry. -/
def cloneBorrow (s : Store κ) (t : TableId) (e : EntryId) : Store κ × HandleId :=
  (s.setTable t ((s.table t).takeOwner e)).addHandle (.borrow t e)

/-- Takes the entry under a key out of a table, unless it has owners. -/
def removeEntry [DecidableEq κ] (s : Store κ) (t : TableId) (key : Key κ) : Store κ × Removal :=
  let (r, table) := (s.table t).remove key
  (s.setTable t table, r)

/-! ### Values -/

/-- A place inside the lock of a value, if it can be had at once. -/
def lockValue (s : Store κ) (t : TableId) (e : EntryId) (writing : Bool) :
    Store κ × Option HandleId :=
  match if writing then (s.table t).tryWrite e else (s.table t).tryRead e with
  | none => (s, none)
  | some table =>
    let (s, h) := (s.setTable t table).addHandle (.guard t e writing)
    (s, some h)

/-- Cuts or zero-pads a value under the budget of its table. -/
def resizeValue (s : Store κ) (t : TableId) (e : EntryId) (n : UInt64) :
    Store κ × Except Failure Bytes :=
  match (s.table t).resizeValue e n with
  | .error x => (s, .error (.content x))
  | .ok table => (s.setTable t table, .ok (table.value e))

/-- Appends to a value under the budget of its table. -/
def appendValue (s : Store κ) (t : TableId) (e : EntryId) (b : Bytes) :
    Store κ × Except Failure Bytes :=
  match (s.table t).appendValue e b with
  | .error x => (s, .error (.content x))
  | .ok table => (s.setTable t table, .ok (table.value e))

/-! ### Budgets -/

/-- A new budget that belongs to no table. -/
def addBudget (s : Store κ) (maxBytes maxCount : UInt64) : Store κ × BudgetName :=
  ({ s with budgets := s.budgets ++ [.new maxBytes maxCount] }, .free s.budgets.length)

/-- A budget. -/
def budget (s : Store κ) : BudgetName → Budget
  | .free i =>
    match s.budgets[i]? with
    | some b => b
    | none => .new 0 0
  | .ofTable t => (s.table t).budget

/-- Replaces a budget. -/
def setBudget (s : Store κ) (name : BudgetName) (b : Budget) : Store κ :=
  match name with
  | .free i => { s with budgets := s.budgets.set i b }
  | .ofTable t => s.setTable t { s.table t with budget := b }

/-- Runs an operation on a budget that may refuse and then changes nothing. -/
def changeBudget (s : Store κ) (name : BudgetName) (act : Budget → Except ContentError Budget) :
    Store κ × Except Failure Unit :=
  match act (s.budget name) with
  | .error x => (s, .error (.content x))
  | .ok b => (s.setBudget name b, .ok ())

/-! ### Registries -/

/-- The write lease of an identifier. -/
def acquireWriteLease (s : Store κ) (g : RegistryId) (identifier : String) :
    Store κ × Except Failure HandleId :=
  match s.takeWriteLease g identifier with
  | .error f => (s, .error f)
  | .ok leased => succeed (leased.addHandle (.lease (.write g identifier)))

/-- One read lease of an identifier. -/
def acquireReadLease (s : Store κ) (g : RegistryId) (identifier : String) : Store κ × HandleId :=
  (s.takeReadLease g identifier).addHandle (.lease (.read g identifier))

/-- Runs an action only while no read lease of the identifier is live. -/
def exclusive {α : Type} (s : Store κ) (g : RegistryId) (identifier : String)
    (act : Store κ → Store κ × Except Failure α) : Store κ × Except Failure α :=
  (s.readerRegistry g).exclusive identifier act s

/-! ### Hooks and buffers -/

/-- A new list of hooks that belongs to no mapping. -/
def addHookList (s : Store κ) : Store κ × Nat :=
  ({ s with hookLists := s.hookLists ++ [.empty] }, s.hookLists.length)

/-- A mapping of a buffer of its own. If the buffer is limited, it can hold so many bytes, and
always those that it holds at first. -/
def mapBuffer (s : Store κ) (b : Bytes) (readOnly : Bool) (capacity : Option Nat) :
    Store κ × HandleId :=
  let limit := capacity.map fun n => if n < b.size then b.size else n
  s.addHandle (.mapping
    { backing := .buffer { buffer := some b, capacity := limit }
      readOnly
      hooks := .empty })

end Store

end ClaimStore
