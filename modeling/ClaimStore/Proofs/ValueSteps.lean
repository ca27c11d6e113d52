import ClaimStore.Proofs.ValueLocks

/-!
# Values over operations

No operation changes a value while somebody reads it. What changes a value is a handle that writes
it, or an open that has just entered its lock as the writer, and neither finds readers inside. All
other operations leave the values of all entries as they are.

## Main definitions

* `Store.OnTables` — what a step does to every table.
* `Store.Returns` — a relation of tables that holds where shares are given back.

## Main results

* `Store.Returns.unmap`, `Store.Returns.drop` — the ends of handles only give back.
* `Store.Sound.guarded_setView`, `Store.Sound.guarded_writeAll` — handles that write.
* `Store.steady_mapInTable`, `Store.steady_writeInTable` — opens.
* `Store.Sound.steady_step` — no operation changes a value that is read.
-/

set_option autoImplicit false

namespace ClaimStore

namespace EntryTable

/-- An owner that is counted lets nobody out. -/
lemma guards_takeOwner {K : Type} (t : EntryTable K) (e : EntryId) : Guards t (t.takeOwner e) :=
  (settles_takeOwner t e).guards fun e' =>
    ge_of_eq (tally_modify_of_lock (f := fun c => { c with owners := c.owners + 1 })
      (p := .readLock) (fun _ => rfl) nofun e e')

end EntryTable

namespace Store

open EntryTable (Settles Guards Steady Exclusive)

variable {κ : Type} {s s' s'' : Store κ}

/-- What a step does to every table. -/
def OnTables (R : EntryTable (Key κ) → EntryTable (Key κ) → Prop) (s s' : Store κ) : Prop :=
  ∀ t, R (s.table t) (s'.table t)

namespace OnTables

variable {R R' : EntryTable (Key κ) → EntryTable (Key κ) → Prop}

/-- A step that leaves the tables as they are. -/
lemma of_tables (hrefl : ∀ x, R x x) (h : s'.tables = s.tables) : OnTables R s s' := fun t => by
  rw [table, table, h]
  exact hrefl _

/-- A step that replaces one table. -/
lemma set (hrefl : ∀ x, R x x) {t : TableId} {x : EntryTable (Key κ)} (h : R (s.table t) x) :
    OnTables R s (s.setTable t x) := fun t' => by
  rw [table_setTable]
  split
  · next ht => exact ht.1 ▸ h
  · exact hrefl _

/-- Steps on all tables compose where their relation does. -/
lemma trans (htrans : ∀ {x y z}, R x y → R y z → R x z) (h : OnTables R s s')
    (h' : OnTables R s' s'') : OnTables R s s'' := fun t => htrans (h t) (h' t)

/-- What holds of every table holds in a weaker form. -/
lemma mono (h : OnTables R s s') (himp : ∀ {x y}, R x y → R' x y) : OnTables R' s s' :=
  fun t => himp (h t)

end OnTables

/-- A step that changes no value changes none that is read. -/
lemma OnTables.steady (h : OnTables Settles s s') : OnTables Steady s s' :=
  h.mono Settles.steady

/-- Nor does one that guards the readers. -/
lemma OnTables.toSteady (h : OnTables Guards s s') : OnTables Steady s s' :=
  h.mono Guards.toSteady

/-- A step outside the tables. -/
lemma steady_of_tables (h : s'.tables = s.tables) : OnTables Steady s s' :=
  .of_tables (fun x => (Settles.refl x).steady) h

/-! ### What is given back -/

/-- **A relation of tables that holds where shares are given back.** -/
structure Returns (R : EntryTable (Key κ) → EntryTable (Key κ) → Prop) : Prop where
  refl : ∀ x, R x x
  trans : ∀ {x y z}, R x y → R y z → R x z
  dropOwner : ∀ x e, R x (x.dropOwner e)
  endRead : ∀ x e, R x (x.endRead e)
  endWrite : ∀ x e, R x (x.endWrite e)

/-- What is given back changes no value. -/
lemma returns_settles : Returns (κ := κ) Settles where
  refl := Settles.refl
  trans := Settles.trans
  dropOwner := EntryTable.settles_dropOwner
  endRead := EntryTable.settles_endRead
  endWrite := EntryTable.settles_endWrite

namespace Returns

variable {R : EntryTable (Key κ) → EntryTable (Key κ) → Prop} (hR : Returns R)
include hR

/-- A step outside the tables gives nothing back. -/
lemma of_tables (h : s'.tables = s.tables) : OnTables R s s' := .of_tables hR.refl h

/-- A resource that is given back is a share of a table, or of no table. -/
lemma release (s : Store κ) (r : Resource) : OnTables R s (s.release r) := by
  have share : ∀ t e (p : Share), OnTables R s (s.release (p.resource t e)) := by
    intro t e p
    rw [release_resource]
    refine .set hR.refl ?_
    cases p with
    | owner => exact hR.dropOwner _ e
    | readLock => exact hR.endRead _ e
    | writeLock => exact hR.endWrite _ e
  rcases r with c | (⟨g, x⟩ | ⟨g, x⟩) | ⟨t, e⟩ | ⟨t, e⟩ | ⟨t, e⟩ | d
  · exact hR.of_tables rfl
  · exact hR.of_tables rfl
  · exact hR.of_tables rfl
  · exact share t e .owner
  · exact share t e .readLock
  · exact share t e .writeLock
  · exact hR.of_tables rfl

/-- Resources are given back one after the other. -/
lemma releaseAll (s : Store κ) (rs : List Resource) : OnTables R s (s.releaseAll rs) := by
  induction rs generalizing s with
  | nil => exact hR.of_tables rfl
  | cons r rs ih => exact (hR.release s r).trans hR.trans (ih _)

/-! ### The ends of handles -/

/-- A commit gives nothing back. -/
lemma commit (s : Store κ) (sink : Sink) : OnTables R s (s.commit sink) :=
  hR.of_tables (alike_commit s sink).tables_eq

/-- **A writer that is closed** gives back. -/
lemma close (s : Store κ) (writer : HandleId) : OnTables R s (s.close writer) := by
  unfold Store.close
  split
  · exact hR.of_tables rfl
  · next w _ =>
    split
    · exact (hR.commit s w.sink).trans hR.trans (hR.releaseAll _ w.openResources)
    · exact hR.of_tables rfl

/-- A handle that is forgotten gives back all that it holds. -/
lemma discard (s : Store κ) (h : HandleId) : OnTables R s (s.discard h) := by
  unfold Store.discard
  split
  · exact hR.of_tables rfl
  · next x _ => exact hR.releaseAll s x.resources

variable [DecidableEq κ]

/-- A hook gives back what it holds. -/
lemma runHook (s : Store κ) (view : Bytes) (k : Hook) : OnTables R s (s.runHook view k).1 := by
  cases k with
  | store d key => exact hR.of_tables rfl
  | hold c l => exact hR.releaseAll s _
  | record name failure probe => exact hR.of_tables rfl

/-- Hooks give back what they hold. -/
lemma runHooks (s : Store κ) (view : Bytes) (hs : List Hook) :
    OnTables R s (s.runHooks view hs).1 := by
  induction hs generalizing s with
  | nil => exact hR.of_tables rfl
  | cons k hs ih => exact (hR.runHook s view k).trans hR.trans (ih _)

/-- **A mapping that is unmapped** gives back. -/
lemma unmap (s : Store κ) (map : HandleId) : OnTables R s (s.unmap map).1 := by
  unfold Store.unmap
  split
  · exact hR.of_tables rfl
  · next m _ =>
    have written : OnTables R s (s.writeBack m) := hR.of_tables (alike_writeBack s m).tables_eq
    exact written.trans hR.trans ((hR.runHooks _ _ _).trans hR.trans (hR.releaseAll _ _))

/-- **A handle that is dropped** gives back. -/
lemma drop (s : Store κ) (h : HandleId) : OnTables R s (s.drop h) := by
  unfold Store.drop
  split
  · exact (hR.unmap s h).trans hR.trans (hR.discard _ h)
  · exact (hR.close s h).trans hR.trans (hR.discard _ h)
  · exact hR.discard s h

/-- A hook that is registered too late runs at once, and gives back what it holds. -/
lemma registerHook (s : Store κ) (map : HandleId) (k : Hook) :
    OnTables R s (s.registerHook map k) := by
  unfold Store.registerHook
  split
  · exact hR.of_tables rfl
  · next m _ =>
    have registered : OnTables R s (s.register m.hooks k).1 := by
      unfold Store.register
      split
      · exact hR.runHook s _ k
      · exact hR.of_tables rfl
    exact registered

end Returns

/-- A flush leaves the tables. -/
lemma tables_flush (s : Store κ) (map : HandleId) : (s.flush map).tables = s.tables := by
  unfold flush
  split
  · rfl
  · next m _ => exact (alike_writeBack s m).tables_eq

/-! ### Handles that write -/

section Writing

variable {h : HandleId} {t : TableId} {e : EntryId}

/-- A writable mapping of an entry writes to its value. -/
lemma writesValue_mapping {m : Mapping} {b : EntryBacking} (hm : s.handle? h = some (.mapping m))
    (hb : m.backing = .entry b) (hbor : b.borrow = some (t, e)) (hview : b.view = .write) :
    s.writesValue t e h = true :=
  writesValue_iff.2 ⟨_, hm, by simp [Handle.writes?, hb, hview, hbor]⟩

/-- An open writer to an entry writes to its value. -/
lemma writesValue_writer {w : Writer} (hw : s.handle? h = some (.writer w))
    (hopen : w.isOpen = true) (hsink : w.sink = .entry t e) : s.writesValue t e h = true := by
  obtain ⟨l, hl⟩ := Option.isSome_iff_exists.1 hopen
  exact writesValue_iff.2 ⟨_, hw, by simp [Handle.writes?, hl, hsink]⟩

/-- A guard that was taken for writing writes to its value. -/
lemma writesValue_guard (hg : s.writeGuarded? h = some (t, e)) : s.writesValue t e h = true := by
  refine writesValue_iff.2 ⟨.guard t e true, ?_, rfl⟩
  unfold writeGuarded? at hg
  split at hg <;> simp_all

variable (hs : s.Sound) (hx : ∀ t, (s.table t).Exclusive)
include hs hx

/-- **Bytes that are changed through a mapping** are read by nobody. -/
lemma Sound.guarded_setView {m : Mapping} (hm : s.mapping? h = some m) {v : Bytes}
    (hv : s.mutableView? m = some v) (v' : Bytes) : OnTables Guards s (s.setView h m v') := by
  rw [mapping?_eq_some] at hm
  obtain ⟨hro, hv⟩ := mutableView?_eq_some.1 hv
  unfold Store.setView
  cases hb : m.backing with
  | file b =>
    dsimp only
    split <;> exact .of_tables Guards.refl rfl
  | buffer b => exact .of_tables Guards.refl rfl
  | entry b =>
    dsimp only
    split
    · next t e hbor =>
      refine .set Guards.refl (EntryTable.guards_setValue ?_ v')
      cases hview : b.view with
      | read =>
        have hwhole := hs.handles_whole h _ hm b hb hview
        rw [hro] at hwhole
        cases hwhole
      | write => exact hs.readers_eq_zero (hx t) (writesValue_mapping hm hb hbor hview)
      | released => simp [view?, hb, entryView?, hbor, hview] at hv
    · exact .of_tables Guards.refl rfl

/-- A write through a mapping guards the readers. -/
lemma Sound.guarded_writeAt (map : HandleId) (offset : Nat) (b : Bytes) :
    OnTables Guards s (s.writeAt map offset b).1 := by
  unfold Store.writeAt
  split
  · exact .of_tables Guards.refl rfl
  · next m hm =>
    split
    · exact .of_tables Guards.refl rfl
    · split
      · exact .of_tables Guards.refl rfl
      · next v hv =>
        split
        · exact hs.guarded_setView hx hm hv _
        · exact .of_tables Guards.refl rfl

/-- So does a fill. -/
lemma Sound.guarded_fillView (map : HandleId) (byte : UInt8) :
    OnTables Guards s (s.fillView map byte).1 := by
  unfold Store.fillView
  split
  · exact .of_tables Guards.refl rfl
  · next m hm =>
    split
    · exact .of_tables Guards.refl rfl
    · next v hv => exact hs.guarded_setView hx hm hv _

/-- **A mapping that is resized** has a value that nobody reads. -/
lemma Sound.guarded_resize (map : HandleId) (n : UInt64) :
    OnTables Guards s (s.resize map n).1 := by
  unfold Store.resize
  split
  · exact .of_tables Guards.refl rfl
  next m hm =>
  split
  · exact .of_tables Guards.refl rfl
  split
  · next b _ =>
    unfold Store.resizeFile
    split
    · dsimp only
      split <;> exact .of_tables Guards.refl (alike_writeBack s m).tables_eq
    · exact .of_tables Guards.refl rfl
    · exact .of_tables Guards.refl rfl
  · next b hb =>
    unfold Store.resizeEntry
    split
    · next t e hbor hview =>
      have hw := writesValue_mapping (mapping?_eq_some.1 hm) hb hbor hview
      split
      · exact .of_tables Guards.refl rfl
      · next x hx' =>
        exact OnTables.set (s := s) Guards.refl
          (EntryTable.guards_resizeValue (hs.readers_eq_zero (hx t) hw) hx')
    · exact .of_tables Guards.refl rfl
  · next b _ =>
    unfold Store.resizeBuffer
    split
    · exact .of_tables Guards.refl rfl
    · split <;> exact .of_tables Guards.refl rfl

/-- **Bytes that a writer takes** are read by nobody. -/
lemma Sound.guarded_accept (writer : HandleId) (b : Bytes) :
    OnTables Guards s (s.accept writer b).1 := by
  unfold Store.accept
  split
  · exact .of_tables Guards.refl rfl
  next w hw =>
  split
  swap
  · exact .of_tables Guards.refl rfl
  next hopen =>
  split
  · exact .of_tables Guards.refl rfl
  next s₁ sink hsink =>
  have taken : OnTables Guards s s₁ := by
    unfold writeSink at hsink
    split at hsink
    · obtain ⟨rfl, -⟩ := Prod.mk.inj (Except.ok.inj hsink)
      exact .of_tables Guards.refl rfl
    · obtain ⟨rfl, -⟩ := Prod.mk.inj (Except.ok.inj hsink)
      exact .of_tables Guards.refl rfl
    · next t e hk =>
      have hwrites := writesValue_writer (writer?_eq_some.1 hw) hopen hk
      split at hsink
      · next x happend =>
        obtain ⟨rfl, -⟩ := Prod.mk.inj (Except.ok.inj hsink)
        exact .set Guards.refl
          (EntryTable.guards_appendValue (hs.readers_eq_zero (hx t) hwrites) happend)
      · cases hsink
      · cases hsink
    · obtain ⟨rfl, -⟩ := Prod.mk.inj (Except.ok.inj hsink)
      exact .of_tables Guards.refl rfl
  exact taken

/-- So do bytes that a writer takes in full. -/
lemma Sound.guarded_writeAll (writer : HandleId) (b : Bytes) :
    OnTables Guards s (s.writeAll writer b).1 := by
  unfold Store.writeAll
  split
  · exact .of_tables Guards.refl rfl
  · exact hs.guarded_accept hx writer b

/-- So does a payload. -/
lemma Sound.guarded_writeData (writer : HandleId) (b : Bytes) :
    OnTables Guards s (s.writeData writer b).1 := by
  have guarded := hs.guarded_writeAll hx writer b
  unfold Store.writeData
  split <;> next heq => rw [heq] at guarded; exact guarded

end Writing

/-! ### Readers -/

/-- A read leaves the tables. -/
lemma tables_deliver (s : Store κ) (reader : HandleId) (n : Nat) :
    (s.deliver reader n).1.tables = s.tables := by
  unfold deliver
  split
  · rfl
  · split <;> rfl

/-- A read into a buffer leaves the tables. -/
lemma tables_readData (s : Store κ) (reader : HandleId) (buffer : Bytes) (maxLen : Nat) :
    (s.readData reader buffer maxLen).1.tables = s.tables :=
  readData_induction (P := fun s' => s'.tables = s.tables)
    (fun s' n h => (s'.tables_deliver reader n).trans h) rfl buffer maxLen

/-- A read to the end leaves the tables. -/
lemma tables_readToEnd (s : Store κ) (reader : HandleId) :
    (s.readToEnd reader).1.tables = s.tables := by
  unfold readToEnd
  split
  · rfl
  · split
    · rfl
    · exact s.tables_deliver reader _

/-- A reader that is moved leaves the tables. -/
lemma tables_seek (s : Store κ) (reader : HandleId) (offset : Nat) :
    (s.seek reader offset).1.tables = s.tables := by
  unfold seek
  split
  · rfl
  · split <;> rfl

/-- **A copy** changes no value that is read, the one that it reads neither. -/
lemma Sound.guarded_copy (hs : s.Sound) (hx : ∀ t, (s.table t).Exclusive)
    {reader writer : HandleId} {r : Except IoError Nat}
    (h : s.copy reader writer = some (s', r)) : OnTables Guards s s' := by
  refine (copy_induction (P := fun s₁ => s₁.Sound ∧ OnTables Guards s s₁)
    (fun s₁ n h₁ => ⟨(h₁.1.deliver reader n).sound, ?_⟩)
    (fun s₁ b hb h₁ => ⟨(h₁.1.writeAll writer hb).sound, ?_⟩)
    ⟨hs, .of_tables Guards.refl rfl⟩ h).2
  · exact h₁.2.trans Guards.trans (.of_tables Guards.refl (s₁.tables_deliver reader n))
  · exact h₁.2.trans Guards.trans
      (h₁.1.guarded_writeAll (fun t => (h₁.2 t).exclusive (hx t)) writer b)

/-! ### Opens -/

section Opens

variable [DecidableEq κ] {c : ClaimId}

/-- A repository that keeps its content elsewhere changes no table. -/
lemma tables_mapIn [ToString κ] {b : Backend} (hb : ∀ t w, b ≠ .volatile t w) (n : UInt64)
    (readOnly : Bool) : (s.mapIn b c n readOnly).1.tables = s.tables := by
  cases b with
  | volatile t w => exact absurd rfl (hb t w)
  | files directory w r =>
    show (s.mapInFiles directory w r c n readOnly).1.tables = s.tables
    unfold mapInFiles
    cases readOnly with
    | true =>
      simp only [if_true]
      split
      · rfl
      · rfl
      · split <;> rfl
    | false =>
      simp only [Bool.false_eq_true, if_false]
      split
      · rfl
      · next leased hl =>
        obtain ⟨reg, -, rfl⟩ := takeWriteLease_ok hl
        split <;> rfl
  | database d p w =>
    show (s.mapInRows d w c n readOnly).1.tables = s.tables
    unfold mapInRows
    cases readOnly with
    | true =>
      simp only [if_true]
      split
      · rfl
      · split <;> rfl
    | false =>
      simp only [Bool.false_eq_true, if_false]
      split
      · rfl
      · next leased hl =>
        obtain ⟨reg, -, rfl⟩ := takeWriteLease_ok hl
        rfl

/-- A reader that is opened elsewhere leaves the tables. -/
lemma tables_readIn {b : Backend} (hb : ∀ t w, b ≠ .volatile t w) :
    (s.readIn b c).1.tables = s.tables := by
  cases b with
  | volatile t w => exact absurd rfl (hb t w)
  | files directory w r =>
    simp only [readIn]
    unfold readInFiles
    dsimp only
    split <;> rfl
  | database d p w =>
    show (s.readInRows d c).1.tables = s.tables
    unfold readInRows
    split <;> rfl

/-- So does a writer. -/
lemma tables_writeIn {b : Backend} (hb : ∀ t w, b ≠ .volatile t w) (append : Bool) :
    (s.writeIn b c append).1.tables = s.tables := by
  cases b with
  | volatile t w => exact absurd rfl (hb t w)
  | files directory w r =>
    show (s.writeInFiles directory w r c append).1.tables = s.tables
    unfold writeInFiles
    dsimp only
    split
    · rfl
    · next leased hl =>
      obtain ⟨reg, -, rfl⟩ := takeWriteLease_ok hl
      split
      · rfl
      · split
        · rfl
        · split
          · rfl
          · split <;> rfl
  | database d p w =>
    show (s.writeInRows d w c append).1.tables = s.tables
    unfold writeInRows
    dsimp only
    split
    · rfl
    · next leased hl =>
      obtain ⟨reg, -, rfl⟩ := takeWriteLease_ok hl
      rfl

/-- So does a removal. -/
lemma tables_removeIn {b : Backend} (hb : ∀ t w, b ≠ .volatile t w) :
    (s.removeIn b c).1.tables = s.tables := by
  rcases s.removeIn_cases b c with ⟨f, heq⟩ | ⟨-, heq⟩ <;> rw [heq]
  cases b with
  | volatile t w => exact absurd rfl (hb t w)
  | files directory w r =>
    rw [eraseIn]
    unfold removeInFiles
    dsimp only
    split <;> rfl
  | database d p w => rfl

variable (s) (t : TableId) (w : RegistryId) (c)

/-- **A mapping of an entry** changes its value only where nobody reads it. -/
lemma steady_mapInTable [ToString κ] (n : UInt64) (readOnly : Bool) :
    OnTables Steady s (s.mapInTable t w c n readOnly).1 := by
  unfold mapInTable
  cases readOnly with
  | true =>
    simp only [if_true]
    split
    · exact steady_of_tables rfl
    · next e borrowed hb =>
      obtain ⟨-, rfl⟩ := EntryTable.borrow_eq_some hb
      split
      · exact OnTables.steady (.set Settles.refl
          ((EntryTable.settles_takeOwner _ e).trans (EntryTable.settles_dropOwner _ e)))
      · next locked hl =>
        exact OnTables.toSteady (OnTables.set (s := s) Guards.refl
          ((EntryTable.guards_takeOwner _ e).trans (EntryTable.guards_lockFor hl)))
  | false =>
    simp only [Bool.false_eq_true, if_false]
    split
    · exact steady_of_tables rfl
    · next leased hl =>
      obtain ⟨reg, -, rfl⟩ := takeWriteLease_ok hl
      split
      · next table x hx =>
        exact OnTables.steady (.set Settles.refl (EntryTable.settles_withEntry_error hx))
      · next table e hx =>
        exact OnTables.toSteady (OnTables.set (s := s) Guards.refl
          (EntryTable.guards_withEntry_ok EntryTable.guards_lockFor hx).1)

/-- A reader of an entry changes no value that is read. -/
lemma steady_readInTable : OnTables Steady s (s.readInTable t c).1 := by
  unfold readInTable
  dsimp only
  split
  · exact steady_of_tables rfl
  · next e borrowed hb =>
    obtain ⟨-, rfl⟩ := EntryTable.borrow_eq_some hb
    split
    · exact OnTables.steady (.set Settles.refl
        ((EntryTable.settles_takeOwner _ e).trans (EntryTable.settles_dropOwner _ e)))
    · next locked hl =>
      exact OnTables.toSteady (OnTables.set (s := s) Guards.refl
        ((EntryTable.guards_takeOwner _ e).trans (EntryTable.guards_tryRead hl)))

/-- **A writer to an entry** empties its value only where nobody reads it. -/
lemma steady_writeInTable (append : Bool) :
    OnTables Steady s (s.writeInTable t w c append).1 := by
  unfold writeInTable
  dsimp only
  split
  · exact steady_of_tables rfl
  · next leased hl =>
    obtain ⟨reg, -, rfl⟩ := takeWriteLease_ok hl
    split
    · next table x hx =>
      exact OnTables.steady (.set Settles.refl (EntryTable.settles_withEntry_error hx))
    · next table e hx =>
      exact OnTables.toSteady (OnTables.set (s := s) Guards.refl
        (EntryTable.guards_withEntry_ok EntryTable.guards_lockForWriter hx).1)

/-- Nor does an entry that is erased. -/
lemma steady_removeInTable (identifier : String) :
    OnTables Steady s (s.removeInTable t identifier).1 := by
  have settles := EntryTable.settles_remove (s.table t) (.text identifier)
  unfold removeInTable
  split <;> next table heq => rw [heq] at settles; exact OnTables.steady (.set Settles.refl settles)

/-- A mapping that is opened changes no value that is read, whatever the backend. -/
lemma steady_mapIn [ToString κ] (b : Backend) (n : UInt64) (readOnly : Bool) :
    OnTables Steady s (s.mapIn b c n readOnly).1 := by
  cases b with
  | volatile t w => exact s.steady_mapInTable c t w n readOnly
  | _ => exact steady_of_tables (tables_mapIn (by nofun) n readOnly)

/-- Nor does a reader. -/
lemma steady_readIn (b : Backend) : OnTables Steady s (s.readIn b c).1 := by
  cases b with
  | volatile t w => exact s.steady_readInTable c t
  | _ => exact steady_of_tables (tables_readIn (by nofun))

/-- Nor does a writer: it empties only what it has locked. -/
lemma steady_writeIn (b : Backend) (append : Bool) :
    OnTables Steady s (s.writeIn b c append).1 := by
  cases b with
  | volatile t w => exact s.steady_writeInTable c t w append
  | _ => exact steady_of_tables (tables_writeIn (by nofun) append)

/-- Nor does a removal. -/
lemma steady_removeIn (b : Backend) : OnTables Steady s (s.removeIn b c).1 := by
  cases b with
  | volatile t w =>
    rcases s.removeIn_cases (.volatile t w) c with ⟨f, heq⟩ | ⟨-, heq⟩ <;> rw [heq]
    · exact steady_of_tables rfl
    · exact s.steady_removeInTable t _
  | _ => exact steady_of_tables (tables_removeIn (by nofun))

variable {s c}

omit [DecidableEq κ] in
/-- What holds of every backend holds in an open repository. -/
lemma steady_inRepository {α : Type} {act : Store κ → Backend → Store κ × Except Failure α}
    (hact : ∀ b, OnTables Steady s (act s b).1) (r : RepositoryId) :
    OnTables Steady s (s.inRepository r c act).1 := by
  unfold inRepository
  split
  · exact hact _
  · exact steady_of_tables rfl

omit [DecidableEq κ] in
/-- It holds in the repository of a claim. -/
lemma steady_routed {α : Type} {act : Store κ → Backend → Store κ × Except Failure α}
    (hact : ∀ b, OnTables Steady s (act s b).1) : OnTables Steady s (s.routed c act).1 := by
  unfold routed
  split
  · exact hact _
  · exact steady_of_tables rfl

end Opens

/-! ### Repositories and tables -/

/-- A new table has no entries, and neither had the place where it is. -/
lemma steady_addTable (s : Store κ) (maxBytes maxCount : UInt64) :
    OnTables Steady s (s.addTable maxBytes maxCount).1 := fun t => by
  rcases s.table_addTable maxBytes maxCount t with h | ⟨h, h'⟩
  · rw [h]
    exact (Settles.refl _).steady
  · rw [h, h']
    have settles : Settles (.new 0 0 : EntryTable (Key κ)) (.new maxBytes maxCount) :=
      .of_cells rfl
    exact settles.steady

/-- A new repository has a table of its own, if any. -/
lemma steady_openRepository (s : Store κ) (kind : RepositoryKind) :
    OnTables Steady s (s.openRepository kind).1 := by
  cases kind with
  | files directory =>
    rw [openRepository, openFiles]
    split <;> exact steady_of_tables rfl
  | volatile maxBytes maxCount => exact s.steady_addTable maxBytes maxCount
  | database p =>
    have opened := s.opensDatabase p
    rw [openRepository, openRows]
    split <;> next h => rw [h] at opened; exact steady_of_tables opened.tables_eq

section Entries

variable [DecidableEq κ]

/-- An entry that is asked for changes no value that is read. -/
lemma steady_insertEntry (s : Store κ) (t : TableId) (key : Key κ) :
    OnTables Steady s (s.insertEntry t key).1 := by
  unfold insertEntry
  split
  · exact steady_of_tables rfl
  · next e table hg =>
    exact OnTables.steady (.set (s := s) Settles.refl (EntryTable.settles_getOrInsert hg).1)

/-- Nor does a borrow. -/
lemma steady_borrowEntry (s : Store κ) (t : TableId) (key : Key κ) :
    OnTables Steady s (s.borrowEntry t key).1 := by
  unfold borrowEntry
  split
  · exact steady_of_tables rfl
  · next e table hb =>
    obtain ⟨-, rfl⟩ := EntryTable.borrow_eq_some hb
    exact OnTables.steady (.set (s := s) Settles.refl (EntryTable.settles_takeOwner _ e))

/-- Nor does a removal from a table. -/
lemma steady_removeEntry (s : Store κ) (t : TableId) (key : Key κ) :
    OnTables Steady s (s.removeEntry t key).1 :=
  OnTables.steady (.set Settles.refl (EntryTable.settles_remove _ key))

omit [DecidableEq κ] in
/-- Nor does a lock. -/
lemma steady_lockValue (s : Store κ) (t : TableId) (e : EntryId) (writing : Bool) :
    OnTables Steady s (s.lockValue t e writing).1 := by
  unfold lockValue
  split
  · exact steady_of_tables rfl
  · next table hl =>
    refine OnTables.toSteady (.set (s := s) Guards.refl ?_)
    cases writing with
    | true => exact EntryTable.guards_tryWrite hl
    | false => exact EntryTable.guards_tryRead hl

omit [DecidableEq κ] in
/-- Nor does a mapping of an entry: it changes the length only of what it has locked. -/
lemma steady_mapEntry [ToString κ] (s : Store κ) (t : TableId) (e : EntryId) (n : UInt64)
    (readOnly : Bool) : OnTables Steady s (s.mapEntry t e n readOnly).1 := by
  unfold mapEntry
  split
  · exact steady_of_tables rfl
  · next table hl =>
    exact OnTables.toSteady (.set (s := s) Guards.refl
      ((EntryTable.guards_takeOwner _ e).trans (EntryTable.guards_lockFor hl)))

/-- Nor does a mapping of the entry under a key. -/
lemma steady_mapKey [ToString κ] (s : Store κ) (t : TableId) (key : Key κ) (n : UInt64)
    (readOnly : Bool) : OnTables Steady s (s.mapKey t key n readOnly).1 := by
  unfold mapKey
  split
  · exact s.steady_mapEntry t _ n readOnly
  · exact steady_of_tables rfl

end Entries

/-! ### Operations -/

variable [DecidableEq κ] [ToString κ]

section Operations

variable {op : Operation κ}

/-- An operation on repositories or claims changes no value that is read. -/
lemma steady_setup (hop : op.group = .setup) : OnTables Steady s (s.perform op) := by
  cases op with
  | openRepository kind => exact s.steady_openRepository kind
  | removeContent r c => exact steady_inRepository (s.steady_removeIn c) r
  | closeRepository _ | addClaim _ _ | acquire _ => exact steady_of_tables rfl
  | _ => cases hop

/-- Nor does an open of content. -/
lemma steady_opening (hop : op.group = .opening) : OnTables Steady s (s.perform op) := by
  cases op with
  | mapContent r c n readOnly => exact steady_inRepository (s.steady_mapIn c · n readOnly) r
  | readContent r c => exact steady_inRepository (s.steady_readIn c) r
  | writeContent r c append => exact steady_inRepository (s.steady_writeIn c · append) r
  | mapClaim c n readOnly => exact steady_routed (s.steady_mapIn c · n readOnly)
  | readClaim c => exact steady_routed (s.steady_readIn c)
  | writeClaim c append => exact steady_routed (s.steady_writeIn c · append)
  | _ => cases hop

/-- Nor does an operation on a mapping: it writes only through a write lock. -/
lemma Sound.steady_mapping (hs : s.Sound) (hx : ∀ t, (s.table t).Exclusive)
    (hop : op.group = .mapping) : OnTables Steady s (s.perform op) := by
  cases op with
  | writeAt map offset b => exact (hs.guarded_writeAt hx map offset b).toSteady
  | fillView map byte => exact (hs.guarded_fillView hx map byte).toSteady
  | resize map n => exact (hs.guarded_resize hx map n).toSteady
  | flush map => exact steady_of_tables (s.tables_flush map)
  | registerHook map name failure probe => exact (returns_settles.registerHook s map _).steady
  | _ => cases hop

/-- Nor does an operation on a reader or a writer. -/
lemma Sound.steady_stream (hs : s.Sound) (hx : ∀ t, (s.table t).Exclusive)
    (hop : op.group = .stream) : OnTables Steady s (s.perform op) := by
  cases op with
  | readRaw reader n => exact steady_of_tables (s.tables_deliver reader _)
  | readData reader buffer maxLen =>
    simp only [Store.perform]
    exact steady_of_tables (s.tables_readData reader buffer maxLen)
  | readToEnd reader => exact steady_of_tables (s.tables_readToEnd reader)
  | seek reader offset => exact steady_of_tables (s.tables_seek reader offset)
  | writeRaw writer b => exact (hs.guarded_accept hx writer _).toSteady
  | writeData writer b => exact (hs.guarded_writeData hx writer b.bytes).toSteady
  | copy reader writer =>
    rcases s.perform_copy reader writer with heq | ⟨s', r, hcopy, heq⟩ <;> rw [heq]
    · exact steady_of_tables rfl
    · exact (hs.guarded_copy hx hcopy).toSteady
  | _ => cases hop

/-- Nor does an operation that ends a handle: it only gives back. -/
lemma steady_ending (hop : op.group = .ending) : OnTables Steady s (s.perform op) := by
  cases op with
  | unmap map => exact (returns_settles.unmap s map).steady
  | close writer => exact (returns_settles.close s writer).steady
  | drop h => exact (returns_settles.drop s h).steady
  | _ => cases hop

/-- Nor does a call on a table: a guard of a value that is changed in place is its writer's. -/
lemma Sound.steady_calls (hs : s.Sound) (hx : ∀ t, (s.table t).Exclusive) :
    TableCalls s fun _ s' => OnTables Steady s s' := by
  have written : ∀ {t e guard x}, s.writeGuarded? guard = some (t, e) →
      ((s.table t).tally e .readLock = 0 → (s.table t).Guards x) →
        OnTables Steady s (s.setTable t x) := fun hg h =>
    OnTables.toSteady (.set Guards.refl (h (hs.readers_eq_zero (hx _) (writesValue_guard hg))))
  exact {
    none := fun _ => steady_of_tables rfl
    addTable := s.steady_addTable
    insertEntry := fun t key _ => s.steady_insertEntry t key
    borrowEntry := fun t key _ => s.steady_borrowEntry t key
    cloneBorrow := fun _ t e _ =>
      OnTables.steady (.set (s := s) Settles.refl (EntryTable.settles_takeOwner _ e))
    removeEntry := fun t key _ => s.steady_removeEntry t key
    lockValue := fun _ writing t e _ => s.steady_lockValue t e writing
    storeValue := fun _ offset b t e hg => by
      unfold Store.storeValue
      split
      · exact written hg fun hr => EntryTable.guards_setValue hr _
      · exact steady_of_tables rfl
    resizeValue := fun _ _ n t e _ hg => by
      unfold Store.resizeValue
      split
      · exact steady_of_tables rfl
      · next x hx' => exact written hg fun hr => EntryTable.guards_resizeValue hr hx'
    appendValue := fun _ _ b t e _ hg => by
      unfold Store.appendValue
      split
      · exact steady_of_tables rfl
      · next x hx' => exact written hg fun hr => EntryTable.guards_appendValue hr hx'
    mapKey := fun t key n readOnly _ => s.steady_mapKey t key n readOnly
    mapBorrow := fun _ n readOnly t e _ => s.steady_mapEntry t e n readOnly }

/-- **No operation changes a value that is read.** -/
lemma Sound.steady_step (hs : s.Sound) (hx : ∀ t, (s.table t).Exclusive) (op : Operation κ) :
    OnTables Steady s (s.step op) := by
  unfold Store.step
  split
  swap
  · exact steady_of_tables rfl
  next happ =>
  cases hop : op.group with
  | setup => exact steady_setup hop
  | opening => exact steady_opening hop
  | mapping => exact hs.steady_mapping hx hop
  | stream => exact hs.steady_stream hx hop
  | ending => exact steady_ending hop
  | table => exact (hs.steady_calls hx).perform hop happ

/-- **Nor under faults.** -/
lemma Sound.steady_stepUnder (hs : s.Sound) (hx : ∀ t, (s.table t).Exclusive) (f : Faults)
    (op : Operation κ) : OnTables Steady s (s.stepUnder f op) := by
  rcases s.stepUnder_cases f op with h | alike
  · rw [h]
    exact steady_of_tables rfl
  · intro t
    have heq : (s.stepUnder f op).table t = (s.step op).table t := by
      rw [table, table, alike.tables_eq]
    rw [heq]
    exact hs.steady_step hx op t

end Operations

end Store

end ClaimStore
