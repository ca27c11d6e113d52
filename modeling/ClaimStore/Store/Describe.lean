import ClaimStore.Store.Drop
import ClaimStore.Store.Tables

/-!
# Descriptions

One line of text for each sort of object, for a person who looks into a running store. A text
inside a description is quoted.

## Main definitions

* `ClaimStore.fields` — the form of a description with named fields.
* `Store.describeMapping`, `Store.describeBacking` — a mapping as a capability, and by what backs
  it.
* `Store.describeReader`, `Store.describeWriter`, `Store.describeBorrow`,
  `Store.describeRepository` — the other sorts.
-/

set_option autoImplicit false

namespace ClaimStore

variable {κ : Type} [DecidableEq κ] [ToString κ]

/-- A description with named fields, in braces behind its name. -/
def fields (name : String) (l : List (String × String)) : String :=
  name ++ " \x7b " ++ ", ".intercalate (l.map fun p => p.1 ++ ": " ++ p.2) ++ " \x7d"

/-- The words for yes and no. -/
def yesNo (b : Bool) : String := if b then "true" else "false"

/-- The form of a value that may be missing. -/
def optional (o : Option String) : String :=
  match o with
  | some x => "Some(" ++ x ++ ")"
  | none => "None"

/-- The description of a list of hooks. -/
def UnmapHooks.describe (u : UnmapHooks) : String :=
  fields "UnmapHooks" [("pending", toString u.pending.length), ("fired", yesNo u.fired)]

/-- The description of a reading of a budget. -/
def BudgetStats.describe (b : BudgetStats) : String :=
  fields "BudgetStats"
    [("max_bytes", toString b.maxBytes.toNat), ("bytes_used", toString b.bytesUsed.toNat),
      ("max_count", toString b.maxCount.toNat), ("entries", toString b.entries.toNat)]

/-- The description of the answer to a removal. -/
def Removal.describe : Removal → String
  | .removed => "Removed"
  | .absent => "Absent"
  | .owned n => "Owned(" ++ toString n ++ ")"

/-- The description of a table. -/
def EntryTable.describe (t : EntryTable (Key κ)) : String :=
  fields "EntryTable" [("entries", toString t.size), ("budget", t.budget.stats.describe)]

/-- The description of an entry. -/
def EntryTable.describeEntry (t : EntryTable (Key κ)) (e : EntryId) : String :=
  fields "AtomicEntry"
    [("key", t.shownKey e), ("len", toString (t.len e)), ("owners", toString (t.owners e))]

namespace Store

/-- The description of a mapping as a capability. -/
def describeMapping (s : Store κ) (m : Mapping) : String :=
  fields "MemoryMap"
    [("size", toString (s.mappingSize m)), ("read_only", yesNo m.readOnly),
      ("valid", yesNo m.backing.isValid)]

/-- The description of a mapping by what backs it. -/
def describeBacking (s : Store κ) (m : Mapping) : String :=
  match m.backing with
  | .file _ => s.describeMapping m
  | .entry b =>
    fields "AtomicEntryMemoryMap"
      [("key", optional (b.borrow.map fun p => (s.table p.1).shownKey p.2)),
        ("size", toString b.size), ("read_only", yesNo m.readOnly), ("hooks", m.hooks.describe)]
  | .buffer b =>
    fields "PassthroughMemoryMap"
      [("size", optional (b.buffer.map fun v => toString v.size)),
        ("read_only", yesNo m.readOnly), ("hooks", m.hooks.describe)]

/-- The description of a reader. -/
def describeReader (s : Store κ) (r : Reader) : String :=
  fields "ContentReader"
    [("len", toString (s.readerLength r)), ("position", toString r.position)]

/-- The description of a writer. -/
def describeWriter (w : Writer) : String :=
  fields "ContentWriter" [("bytes_written", toString w.written)]

/-- The description of a borrow. -/
def describeBorrow (s : Store κ) (t : TableId) (e : EntryId) : String :=
  "EntryBorrow(" ++ (s.table t).describeEntry e ++ ")"

/-- The description of a repository as a capability. -/
def describeRepository (b : Backend) : String :=
  fields "ContentRepository" [("name", Text.quoted b.name)]

/-- The description of a repository by where it keeps content. Only a database says more than its
name. -/
def describeBackend : Backend → String
  | .database _ p _ => fields "DatabaseRepository" [("path", Text.quoted p.toString)]
  | b => describeRepository b

end Store

end ClaimStore
