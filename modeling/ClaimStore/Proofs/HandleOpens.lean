import ClaimStore.Proofs.EntryFrames
import ClaimStore.Proofs.HandleFrames
import ClaimStore.Proofs.SoundSteps

/-!
# What opens make

An open through a repository either makes one handle, of a form that its backend prescribes, or
fails and makes none. The form says all that is held for the claim: the hooks that a mapping begins
with, and the lease of a writer.

## Main definitions

* `Backend.hooks` — the hooks that a mapping begins with.
* `Backend.Shows`, `Backend.Reads`, `Backend.Writes` — where a new handle finds the content.
* `Store.Added` — a step that makes one handle.
* `Store.Makes` — an open that makes a handle of a form, or fails.

## Main results

* `Store.makes_mapIn`, `Store.makes_readIn`, `Store.makes_writeIn` — opens through any backend.
-/

set_option autoImplicit false

namespace ClaimStore

/-! ### The forms of new handles -/

namespace Backend

/-- The registry of the writers of a backend. -/
def writers : Backend → RegistryId
  | .files _ w _ | .volatile _ w | .database _ _ w => w

/-- The lease that a mapping holds: every writable one the write lease, and a read-only one of a
file a read lease. -/
def mappingLease (b : Backend) (x : String) (readOnly : Bool) : Option Lease :=
  match b, readOnly with
  | .files _ w _, false | .volatile _ w, false | .database _ _ w, false => some (.write w x)
  | .files _ _ r, true => some (.read r x)
  | .volatile .., true | .database .., true => none

/-- The hooks that a mapping begins with: a writable one of a row stores the row before it gives
anything back. -/
def hooks (b : Backend) (c : ClaimId) (x : String) (readOnly : Bool) : List Hook :=
  match b, readOnly with
  | .database d _ w, false => [.store d x, .hold c (some (.write w x))]
  | .files .., _ | .volatile .., _ | .database .., true => [.hold c (b.mappingLease x readOnly)]

variable {κ : Type}

/-- Where a new mapping of `n` bytes finds the content of an identifier, opened in the state `s` and
found in the state `s'`. -/
inductive Shows (s s' : Store κ) (x : String) (n : Nat) (readOnly : Bool) : Backend → Backing → Prop
  /-- In a file. -/
  | file (directory : Path) (w r : RegistryId) (k : FileBacking) :
      Shows s s' x n readOnly (.files directory w r) (.file k)
  /-- In an entry that was made under the identifier; a read-only one finds all its bytes there. -/
  | entry (t : TableId) (w : RegistryId) (e : EntryId)
      (key_eq : (s'.table t).keyOf? e = some (.text x))
      (fits : readOnly = true → n ≤ ((s'.table t).value e).size) :
      Shows s s' x n readOnly (.volatile t w)
        (.entry ⟨some (t, e), n, if readOnly then .read else .write⟩)
  /-- In a copy of the row as it was. -/
  | row (d : DatabaseId) (p : Path) (w : RegistryId) :
      Shows s s' x n readOnly (.database d p w)
        (.buffer ⟨some (((s.row? d x).getD .empty).fit n), none⟩)

/-- Where a new reader finds the content of an identifier. -/
inductive Reads (s s' : Store κ) (x : String) : Backend → Source → Prop
  /-- In a file. -/
  | file (directory : Path) (w r : RegistryId) (i : Item) (length : Nat) :
      Reads s s' x (.files directory w r) (.file i length)
  /-- In an entry that was made under the identifier. -/
  | entry (t : TableId) (w : RegistryId) (e : EntryId)
      (key_eq : (s'.table t).keyOf? e = some (.text x)) :
      Reads s s' x (.volatile t w) (.entry t e)
  /-- In a copy of the row as it was. -/
  | row (d : DatabaseId) (p : Path) (w : RegistryId) (b : Bytes) (row_eq : s.row? d x = some b) :
      Reads s s' x (.database d p w) (.bytes b)

/-- Where a new writer puts the content of an identifier. -/
inductive Writes (s s' : Store κ) (x : String) (append : Bool) : Backend → Sink → Prop
  /-- Into a file. -/
  | file (directory : Path) (w r : RegistryId) (id : FileId) (offset : Option Nat) :
      Writes s s' x append (.files directory w r) (.file id offset)
  /-- Into an entry that was made under the identifier. -/
  | entry (t : TableId) (w : RegistryId) (e : EntryId)
      (key_eq : (s'.table t).keyOf? e = some (.text x)) :
      Writes s s' x append (.volatile t w) (.entry t e)
  /-- Into a buffer that begins with the row as it was, or with nothing. -/
  | row (d : DatabaseId) (p : Path) (w : RegistryId) :
      Writes s s' x append (.database d p w)
        (.row d x (if append then (s.row? d x).getD .empty else .empty))

end Backend

namespace Store

variable {κ : Type} {s s' s₁ : Store κ} {x : Handle}

/-- A step that makes one handle. -/
structure Added (x : Handle) (s s' : Store κ) : Prop where
  /-- The handle has the next number. -/
  handles_eq : s'.handles = s.handles ++ [some x]
  /-- The repositories stay. -/
  repositories_eq : s'.repositories = s.repositories
  /-- The identifiers stay. -/
  identifiers_eq : s'.claims.map (·.identifier) = s.claims.map (·.identifier)
  /-- The databases stay. -/
  databases_eq : s'.databases = s.databases

/-- The outcome of an open: a new handle of a form, which may depend on the state that it is found
in, or a failure that makes none. -/
inductive Makes (form : Store κ → Handle → Prop) (s : Store κ) :
    Store κ × Except Failure HandleId → Prop
  /-- A new handle. -/
  | made {x : Handle} {s' : Store κ} (added : Added x s s') (form_eq : form s' x) :
      Makes form s (s', .ok s.handles.length)
  /-- No handle. -/
  | failed {s' : Store κ} (f : Failure) (still : Still s s') : Makes form s (s', .error f)

/-- A mapping that was just opened. -/
def NewMapping (b : Backend) (c : ClaimId) (n : UInt64) (readOnly : Bool) (s s' : Store κ)
    (x : Handle) : Prop :=
  ∃ k, b.Shows s s' (s.identifier c) n.toNat readOnly k ∧
    x = .mapping ⟨k, readOnly, ⟨b.hooks c (s.identifier c) readOnly, false⟩⟩

/-- A reader that was just opened. -/
def NewReader (b : Backend) (c : ClaimId) (s s' : Store κ) (x : Handle) : Prop :=
  ∃ source, b.Reads s s' (s.identifier c) source ∧ x = .reader ⟨c, source, 0⟩

/-- A writer that was just opened. -/
def NewWriter (b : Backend) (c : ClaimId) (append : Bool) (s s' : Store κ) (x : Handle) : Prop :=
  ∃ sink, b.Writes s s' (s.identifier c) append sink ∧
    x = .writer ⟨c, sink, 0, some (.write b.writers (s.identifier c))⟩

/-! ### New handles -/

/-- A new handle after a step that changes none. -/
lemma Still.added (h : Still s s₁) (x : Handle) : Added x s (s₁.addHandle x).1 where
  handles_eq := congrArg (· ++ [some x]) h.handles_eq
  repositories_eq := h.repositories_eq
  identifiers_eq := h.identifiers_eq
  databases_eq := h.databases_eq

/-- What is there after a handle was made. -/
lemma Added.handle? (h : Added x s s') (i : HandleId) :
    s'.handle? i = if i = s.handles.length then some x else s.handle? i := by
  unfold Store.handle?
  rw [h.handles_eq]
  rcases Nat.lt_trichotomy i s.handles.length with hi | rfl | hi
  · rw [if_neg (Nat.ne_of_lt hi), List.getElem?_append_left hi]
  · rw [if_pos rfl, List.getElem?_concat_length]
  · rw [if_neg (Nat.ne_of_gt hi), List.getElem?_eq_none (by simp; omega),
      List.getElem?_eq_none (Nat.le_of_lt hi)]

/-- A number of a live handle is in use. -/
lemma lt_of_handle? {h : HandleId} (hx : s.handle? h = some x) : h < s.handles.length :=
  (List.getElem?_eq_some_iff.1 (handle?_eq_some.1 hx)).1

/-- Handles that were live stay as they are. -/
lemma Added.handle?_of_some (h : Added x s s') {i : HandleId} {y : Handle}
    (hy : s.handle? i = some y) : s'.handle? i = some y := by
  rw [h.handle?, if_neg (Nat.ne_of_lt (lt_of_handle? hy)), hy]

section Forms

variable {form : Store κ → Handle → Prop}

/-- The outcome of an open that makes a handle. -/
lemma Makes.handle (still : Still s s₁) (h : form (s₁.addHandle x).1 x) :
    Makes form s (succeed (s₁.addHandle x)) := by
  have hnumber : succeed (s₁.addHandle x) = ((s₁.addHandle x).1, .ok s.handles.length) := by
    rw [← still.handles_eq]
    rfl
  exact hnumber ▸ .made (still.added x) h

/-- An open that answers with a number has made the handle. -/
lemma Makes.ok {h : HandleId} (hm : Makes form s (s', .ok h)) :
    h = s.handles.length ∧ ∃ x, Added x s s' ∧ form s' x := by
  cases hm with
  | made added hx => exact ⟨rfl, _, added, hx⟩

end Forms

/-- A mapping that is added with its hooks is a new mapping of the backend. -/
lemma makes_addHeldMapping {c : ClaimId} {b : Backend} {n : UInt64} {readOnly : Bool} {k : Backing}
    {u : UnmapHooks} {l : Option Lease} (still : Still s s₁)
    (hhooks : u.push (.hold c l) = ⟨b.hooks c (s.identifier c) readOnly, false⟩)
    (hshows : b.Shows s s₁ (s.identifier c) n.toNat readOnly k) :
    Makes (NewMapping b c n readOnly s) s (succeed (s₁.addHeldMapping ⟨k, readOnly, u⟩ c l)) := by
  refine .handle (still.trans (still_takeReference s₁ c)) ⟨k, ?_, by rw [← hhooks]⟩
  cases hshows with
  | file => exact .file _ _ _ _
  | entry t w e hkey hfits => exact .entry t w e hkey hfits
  | row => exact .row _ _ _

/-- A reader that is added is a new reader of the backend. -/
lemma makes_addReader {c : ClaimId} {b : Backend} {source : Source} (still : Still s s₁)
    (hreads : b.Reads s s₁ (s.identifier c) source) :
    Makes (NewReader b c s) s (succeed (s₁.addReader c source)) := by
  refine .handle (still.trans (still_takeReference s₁ c)) ⟨source, ?_, rfl⟩
  cases hreads with
  | file => exact .file _ _ _ _ _
  | entry t w e hkey => exact .entry t w e hkey
  | row d p w v hrow => exact .row d p w v hrow

/-- A writer that is added is a new writer of the backend. -/
lemma makes_addWriter {c : ClaimId} {b : Backend} {append : Bool} {sink : Sink} (still : Still s s₁)
    (hwrites : b.Writes s s₁ (s.identifier c) append sink) :
    Makes (NewWriter b c append s) s
      (succeed (s₁.addWriter c sink (.write b.writers (s.identifier c)))) := by
  refine .handle (still.trans (still_takeReference s₁ c)) ⟨sink, ?_, rfl⟩
  cases hwrites with
  | file => exact .file _ _ _ _ _
  | entry t w e hkey => exact .entry t w e hkey
  | row => exact .row _ _ _

/-! ### Files -/

section Files

variable (s) (directory : Path) (w r : RegistryId) (c : ClaimId)

/-- A file repository opens a mapping of the file, or none. -/
lemma makes_mapInFiles (n : UInt64) (readOnly : Bool) :
    Makes (NewMapping (.files directory w r) c n readOnly s) s
      (s.mapInFiles directory w r c n readOnly) := by
  unfold mapInFiles
  cases readOnly with
  | true =>
    simp only [if_true]
    split
    · exact .failed _ (.refl s)
    · exact .failed _ (.refl s)
    · split
      · exact .failed _ (.refl s)
      · exact makes_addHeldMapping (.of_eq rfl rfl rfl rfl) rfl (.file _ _ _ _)
  | false =>
    simp only [Bool.false_eq_true, if_false]
    split
    · exact .failed _ (.refl s)
    · next leased hl =>
      have still := still_takeWriteLease hl
      split
      · exact .failed _ (still_disk s _)
      · exact makes_addHeldMapping (still.trans (still_disk _ _)) rfl (.file _ _ _ _)

/-- It opens a reader of the file, or none. -/
lemma makes_readInFiles :
    Makes (NewReader (.files directory w r) c s) s (s.readInFiles directory c) := by
  unfold readInFiles
  dsimp only
  split
  · exact .failed _ (.refl s)
  · exact .failed _ (.refl s)
  · exact makes_addReader (.refl s) (.file _ _ _ _ _)

/-- It opens a writer to the file, or none. -/
lemma makes_writeInFiles (append : Bool) :
    Makes (NewWriter (.files directory w r) c append s) s
      (s.writeInFiles directory w r c append) := by
  unfold writeInFiles
  dsimp only
  split
  · exact .failed _ (.refl s)
  · next leased hl =>
    have still := fun d => (still_takeWriteLease hl).trans (still_disk leased d)
    split
    · exact .failed _ (still_disk s _)
    · split
      · exact .failed _ (still_disk s _)
      · split
        · exact makes_addWriter (still _) (.file _ _ _ _ _)
        · split
          · exact .failed _ (still_disk s _)
          · exact makes_addWriter (still _) (.file _ _ _ _ _)

end Files

/-! ### Entries -/

section Entries

variable [DecidableEq κ] (t : TableId) (w : RegistryId)

/-- A volatile repository opens a mapping of the entry, or none. -/
lemma makes_mapInTable [ToString κ] (ht : t < s.tables.length) (c : ClaimId) (n : UInt64)
    (readOnly : Bool) :
    Makes (NewMapping (.volatile t w) c n readOnly s) s (s.mapInTable t w c n readOnly) := by
  unfold mapInTable
  cases readOnly with
  | true =>
    simp only [if_true]
    split
    · exact .failed _ (.refl s)
    · next e borrowed hb =>
      obtain ⟨hf, rfl⟩ := EntryTable.borrow_eq_some hb
      split
      · exact .failed _ (still_setTable s t _)
      · next locked hl =>
        obtain ⟨settles, hn⟩ := EntryTable.settles_lockFor hl
        refine makes_addHeldMapping (still_setTable s t locked) rfl (.entry t w e ?_ fun _ => ?_)
        · rw [table_setTable_self ht]
          exact settles.keyOf?_eq e _
            ((EntryTable.settles_takeOwner _ e).keyOf?_eq e _ (EntryTable.keyOf?_of_find? hf))
        · rw [table_setTable_self ht]
          exact hn
  | false =>
    simp only [Bool.false_eq_true, if_false]
    split
    · exact .failed _ (.refl s)
    · next leased hl =>
      have still := still_takeWriteLease hl
      obtain ⟨reg, -, rfl⟩ := takeWriteLease_ok hl
      split
      · exact .failed _ (still_setTable s t _)
      · next table e hx =>
        refine makes_addHeldMapping (still.trans (still_setTable _ t table)) rfl
          (.entry t w e ?_ nofun)
        rw [table_setTable_self (by exact ht)]
        exact (EntryTable.guards_withEntry_ok EntryTable.guards_lockFor hx).2

/-- It opens a reader of the entry, or none. -/
lemma makes_readInTable (ht : t < s.tables.length) (c : ClaimId) :
    Makes (NewReader (.volatile t w) c s) s (s.readInTable t c) := by
  unfold readInTable
  dsimp only
  split
  · exact .failed _ (.refl s)
  · next e borrowed hb =>
    obtain ⟨hf, rfl⟩ := EntryTable.borrow_eq_some hb
    split
    · exact .failed _ (still_setTable s t _)
    · next locked hl =>
      refine makes_addReader (still_setTable s t locked) (.entry t w e ?_)
      rw [table_setTable_self ht]
      exact (EntryTable.guards_tryRead hl).keyOf?_eq e _
        ((EntryTable.settles_takeOwner _ e).keyOf?_eq e _ (EntryTable.keyOf?_of_find? hf))

/-- It opens a writer to the entry, or none. -/
lemma makes_writeInTable (ht : t < s.tables.length) (c : ClaimId) (append : Bool) :
    Makes (NewWriter (.volatile t w) c append s) s (s.writeInTable t w c append) := by
  unfold writeInTable
  dsimp only
  split
  · exact .failed _ (.refl s)
  · next leased hl =>
    have still := still_takeWriteLease hl
    obtain ⟨reg, -, rfl⟩ := takeWriteLease_ok hl
    split
    · exact .failed _ (still_setTable s t _)
    · next table e hx =>
      refine makes_addWriter (still.trans (still_setTable _ t table)) (.entry t w e ?_)
      rw [table_setTable_self (by exact ht)]
      exact (EntryTable.guards_withEntry_ok EntryTable.guards_lockForWriter hx).2

end Entries

/-! ### Rows -/

section Rows

variable (s) (d : DatabaseId) (p : Path) (w : RegistryId) (c : ClaimId)

/-- A database opens a mapping of a copy of the row, or none. -/
lemma makes_mapInRows (n : UInt64) (readOnly : Bool) :
    Makes (NewMapping (.database d p w) c n readOnly s) s (s.mapInRows d w c n readOnly) := by
  unfold mapInRows
  cases readOnly with
  | true =>
    simp only [if_true]
    split
    · exact .failed _ (.refl s)
    · next v hv =>
      split
      · exact .failed _ (.refl s)
      · next hle =>
        have hfit : v.take n.toNat = ((s.row? d (s.identifier c)).getD .empty).fit n.toNat := by
          rw [hv, Option.getD_some, Bytes.fit_of_le_size (Nat.le_of_not_lt hle)]
        refine makes_addHeldMapping (.refl s) rfl ?_
        rw [hfit]
        exact .row d p w
  | false =>
    simp only [Bool.false_eq_true, if_false]
    split
    · exact .failed _ (.refl s)
    · next leased hl =>
      exact makes_addHeldMapping (still_takeWriteLease hl) rfl (.row d p w)

/-- It opens a reader of a copy of the row, or none. -/
lemma makes_readInRows : Makes (NewReader (.database d p w) c s) s (s.readInRows d c) := by
  unfold readInRows
  split
  · exact .failed _ (.refl s)
  · next v hv => exact makes_addReader (.refl s) (.row d p w v hv)

/-- It opens a writer for the row, or none. -/
lemma makes_writeInRows (append : Bool) :
    Makes (NewWriter (.database d p w) c append s) s (s.writeInRows d w c append) := by
  unfold writeInRows
  dsimp only
  split
  · exact .failed _ (.refl s)
  · next leased hl => exact makes_addWriter (still_takeWriteLease hl) (.row d p w)

end Rows

/-! ### Any backend -/

section Backends

variable [DecidableEq κ] {b : Backend} (hb : s.Knows b) (c : ClaimId)
include hb

/-- **A mapping that is opened** has the hooks and the place of its backend. -/
lemma makes_mapIn [ToString κ] (n : UInt64) (readOnly : Bool) :
    Makes (NewMapping b c n readOnly s) s (s.mapIn b c n readOnly) := by
  cases b with
  | files directory w r => exact makes_mapInFiles s directory w r c n readOnly
  | volatile t w => exact makes_mapInTable t w hb.1 c n readOnly
  | database d p w => exact makes_mapInRows s d p w c n readOnly

/-- **A reader that is opened** has its claim and the place of its backend. -/
lemma makes_readIn : Makes (NewReader b c s) s (s.readIn b c) := by
  cases b with
  | files directory w r => exact makes_readInFiles s directory w r c
  | volatile t w => exact makes_readInTable t w hb.1 c
  | database d p w => exact makes_readInRows s d p w c

/-- **A writer that is opened** has its claim, its lease and the place of its backend. -/
lemma makes_writeIn (append : Bool) :
    Makes (NewWriter b c append s) s (s.writeIn b c append) := by
  cases b with
  | files directory w r => exact makes_writeInFiles s directory w r c append
  | volatile t w => exact makes_writeInTable t w hb.1 c append
  | database d p w => exact makes_writeInRows s d p w c append

end Backends

end Store

end ClaimStore
