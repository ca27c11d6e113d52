import ClaimStore.Proofs.Ownership
import ClaimStore.Proofs.ValueSteps

/-!
# Keys that stay free

A key of a table that no entry is stored under stays free, until content is opened for writing under
it or the entry is asked for by itself. An open that fails leaves no key behind.

## Main definitions

* `EntryTable.KeepsFree` — a step that leaves every free key free.
* `Store.TakesKey` — an open that takes the key of its identifier at most.
* `Store.Enters` — an operation that leads to an entry under a key.

## Main results

* `EntryTable.keepsFree_withEntry_error` — an open that fails leaves every free key free.
* `Store.takesKey_mapIn`, `Store.takesKey_writeIn` — one that succeeds takes one key.
* `Store.Tells.find?_stepUnder` — what takes a key.
-/

set_option autoImplicit false

namespace ClaimStore

namespace EntryTable

variable {K : Type} [DecidableEq K] {t t' t'' : EntryTable K} {e : EntryId} {key : K}

/-- **A step that leaves every free key free.** -/
def KeepsFree (t t' : EntryTable K) : Prop := ∀ key, t.find? key = none → t'.find? key = none

namespace KeepsFree

/-- The same table keeps its keys free. -/
lemma refl (t : EntryTable K) : KeepsFree t t := fun _ h => h

/-- Two such steps, one after the other. -/
lemma trans (h : KeepsFree t t') (h' : KeepsFree t' t'') : KeepsFree t t'' := fun key hk =>
  h' key (h key hk)

/-- What is found does not depend on the budget. -/
lemma of_cells (h : t'.cells = t.cells) : KeepsFree t t' := fun key hk => by
  rwa [find?, h]

/-- A change of one entry that keeps its key and its mark. -/
lemma modify {f : Entry K → Entry K} (hkey : ∀ c, (f c).key = c.key)
    (hstored : ∀ c, (f c).stored = c.stored) : KeepsFree t (t.modify e f) := fun key hk => by
  rwa [find?_modify t e hkey hstored]

end KeepsFree

/-- An owner that is counted takes no key. -/
lemma keepsFree_takeOwner (t : EntryTable K) (e : EntryId) : KeepsFree t (t.takeOwner e) :=
  .modify (fun _ => rfl) fun _ => rfl

/-- Nor does one that leaves. -/
lemma keepsFree_dropOwner (t : EntryTable K) (e : EntryId) : KeepsFree t (t.dropOwner e) :=
  .modify (fun _ => rfl) fun _ => rfl

/-- Nor does a value that is set. -/
lemma keepsFree_setValue (t : EntryTable K) (e : EntryId) (b : Bytes) :
    KeepsFree t (t.setValue e b) :=
  .modify (fun _ => rfl) fun _ => rfl

/-- Nor does a reader that is let in. -/
lemma keepsFree_tryRead (h : t.tryRead e = some t') : KeepsFree t t' := by
  obtain ⟨c, -, -, rfl⟩ := tryRead_eq_some h
  exact .modify (fun _ => rfl) fun _ => rfl

/-- Nor does a writer that is let in. -/
lemma keepsFree_tryWrite (h : t.tryWrite e = some t') : KeepsFree t t' := by
  obtain ⟨c, -, -, -, rfl⟩ := tryWrite_eq_some h
  exact .modify (fun _ => rfl) fun _ => rfl

/-- Nor does a value that changes its length. -/
lemma keepsFree_resizeValue {n : UInt64} (h : t.resizeValue e n = .ok t') : KeepsFree t t' := by
  obtain ⟨b, -, rfl⟩ := resizeValue_ok h
  exact (KeepsFree.modify (e := e) (f := Entry.fitted n.toNat) (fun _ => rfl) fun _ => rfl).trans
    (.of_cells rfl)

/-- Nor does a value that is appended to. -/
lemma keepsFree_appendValue {bytes : Bytes} (h : t.appendValue e bytes = .ok t') :
    KeepsFree t t' := by
  obtain ⟨b, -, rfl⟩ := appendValue_ok h
  exact (KeepsFree.modify (e := e) (f := Entry.extended bytes) (fun _ => rfl) fun _ => rfl).trans
    (.of_cells rfl)

/-- An entry that is taken out leaves its key free. -/
lemma keepsFree_remove (ht : t.Regular) (key : K) : KeepsFree t (t.remove key).2 := by
  rcases t.remove_cases key with ⟨-, h⟩ | ⟨e, -, -, h⟩ | ⟨e, hf, ho, h⟩ <;> rw [h]
  · exact .refl t
  · exact .refl t
  · intro key' hk
    rw [find?_takeOut ht hf ho, hk, ite_self]

/-- A borrow that makes its entry takes the key of it, and no other one. -/
lemma find?_getOrInsert (h : t.getOrInsert key = .ok (e, t')) {key' : K}
    (hk : t.find? key' = none) (hne : key' ≠ key) : t'.find? key' = none := by
  rcases getOrInsert_ok h with ⟨-, rfl⟩ | ⟨-, rfl, b, -, rfl⟩
  · exact keepsFree_takeOwner t e key' hk
  · refine keepsFree_takeOwner _ _ key' (find?_eq_none_iff.2 fun c hc hs => ?_)
    rcases List.mem_append.1 hc with hc | hc
    · exact find?_eq_none_iff.1 hk c hc hs
    · rw [List.mem_singleton.1 hc]
      exact hne.symm

/-- An entry that was made and given back is taken out again. -/
lemma keepsFree_made (ht : t.Regular) (hf : t.find? key = none)
    (hg : t.getOrInsert key = .ok (e, t')) :
    KeepsFree t ((t'.dropOwner e).remove key).2 := by
  have hregular := (ht.getOrInsert hg).dropOwner e
  have hunowned : (t'.dropOwner e).owners e = 0 := by
    show (t'.dropOwner e).tally e .owner = 0
    rw [tally_dropOwner, tally_getOrInsert hg, Nat.add_sub_cancel]
    rcases getOrInsert_ok hg with ⟨hf', -⟩ | ⟨-, rfl, -⟩
    · cases hf.symm.trans hf'
    · rw [tally, List.getElem?_eq_none (Nat.le_refl _)]
  have hkey : (t'.dropOwner e).find? key = some e :=
    hregular.find?_of_keyOf? ((stored_getOrInsert hg).modify fun _ => rfl)
      ((settles_dropOwner t' e).keyOf?_eq e key (settles_getOrInsert hg).2)
  rcases (t'.dropOwner e).remove_cases key with ⟨hnone, -⟩ | ⟨e', hf', ho, -⟩ | ⟨e', hf', ho, h⟩
  · cases hkey.symm.trans hnone
  · obtain rfl := Option.some.inj (hkey.symm.trans hf')
    exact absurd ho (Nat.not_lt.2 (Nat.le_of_eq hunowned))
  · intro key' hk
    rw [h, find?_takeOut hregular hf' ho]
    split
    · rfl
    · next hne => exact keepsFree_dropOwner _ _ key' (find?_getOrInsert hg hk hne)

/-! ### Opens -/

section Opens

variable {κ : Type} {t t' : EntryTable (Key κ)} [DecidableEq κ]

/-- An entry that is locked for a mapping leaves every free key free. -/
lemma keepsFree_lockFor [ToString κ] {n : UInt64} {readOnly : Bool}
    (h : t.lockFor e n readOnly = .ok t') : KeepsFree t t' := by
  cases readOnly with
  | true => exact keepsFree_tryRead (lockFor_readOnly h).1
  | false =>
    obtain ⟨locked, hl, hr⟩ := lockFor_writable h
    exact (keepsFree_tryWrite hl).trans (keepsFree_resizeValue hr)

/-- So does one that is locked for a writer. -/
lemma keepsFree_lockForWriter {identifier : String} {append : Bool}
    (h : t.lockForWriter e identifier append = .ok t') : KeepsFree t t' := by
  unfold lockForWriter at h
  split at h
  · cases h
  · next locked hl =>
    split at h
    · obtain rfl := Except.ok.inj h
      exact keepsFree_tryWrite hl
    · exact (keepsFree_tryWrite hl).trans (keepsFree_resizeValue h)

variable {identifier : String}
  {lock : EntryTable (Key κ) → EntryId → Except ContentError (EntryTable (Key κ))}

/-- **An open that succeeds** takes the key of its identifier at most. -/
lemma find?_withEntry_ok (hlock : ∀ {t t' e}, lock t e = .ok t' → KeepsFree t t')
    (h : Store.withEntry t identifier lock = (t', .ok e)) {key : Key κ}
    (hk : t.find? key = none) (hne : key ≠ .text identifier) : t'.find? key = none := by
  obtain ⟨b, hg, hl⟩ := withEntry_ok h
  exact hlock hl key (find?_getOrInsert hg hk hne)

/-- **An open that fails** leaves every free key free: an entry that it made is taken out again. -/
lemma keepsFree_withEntry_error (ht : t.Regular) {x : ContentError}
    (h : Store.withEntry t identifier lock = (t', .error x)) : KeepsFree t t' := by
  unfold Store.withEntry at h
  cases hg : t.getOrInsert (.text identifier) with
  | error y =>
    simp only [hg, Prod.mk.injEq] at h
    exact h.1 ▸ .refl t
  | ok r =>
    obtain ⟨e, b⟩ := r
    simp only [hg] at h
    cases hl : lock b e with
    | ok locked => simp [hl] at h
    | error y =>
      simp only [hl, Prod.mk.injEq] at h
      obtain ⟨rfl, -⟩ := h
      rcases getOrInsert_ok hg with ⟨hf, rfl⟩ | ⟨hf, rfl, budget, -, rfl⟩
      · -- the entry was there
        simp only [contains, hf, Option.isSome_some, Bool.not_true, Bool.false_eq_true, if_false]
        exact (keepsFree_takeOwner t e).trans (keepsFree_dropOwner _ e)
      · -- the entry is new, and nobody owns it now
        simp only [contains, hf, Option.isSome_none, Bool.not_false, if_true]
        exact keepsFree_made ht hf hg

end Opens

end EntryTable

namespace Store

open EntryTable (KeepsFree)

variable {κ : Type} [DecidableEq κ] {s s' : Store κ}

/-! ### Steps without opens -/

/-- What is given back takes no key. -/
lemma returns_keepsFree : Returns (κ := κ) KeepsFree where
  refl := KeepsFree.refl
  trans := KeepsFree.trans
  dropOwner := EntryTable.keepsFree_dropOwner
  endRead _ _ := .modify (fun _ => rfl) fun _ => rfl
  endWrite _ _ := .modify (fun _ => rfl) fun _ => rfl

/-- A step outside the tables. -/
lemma keepsFree_of_tables (h : s'.tables = s.tables) : OnTables KeepsFree s s' :=
  .of_tables KeepsFree.refl h

/-- A view that is set takes no key. -/
lemma keepsFree_setView (s : Store κ) (map : HandleId) (m : Mapping) (v : Bytes) :
    OnTables KeepsFree s (s.setView map m v) := by
  unfold setView
  split
  · split <;> exact keepsFree_of_tables rfl
  · split
    · exact .set KeepsFree.refl (EntryTable.keepsFree_setValue _ _ v)
    · exact keepsFree_of_tables rfl
  · exact keepsFree_of_tables rfl

/-- A write through a mapping takes no key. -/
lemma keepsFree_writeAt (s : Store κ) (map : HandleId) (offset : Nat) (b : Bytes) :
    OnTables KeepsFree s (s.writeAt map offset b).1 := by
  unfold writeAt
  split
  · exact keepsFree_of_tables rfl
  · split
    · exact keepsFree_of_tables rfl
    · split
      · exact keepsFree_of_tables rfl
      · split
        · exact keepsFree_setView s map _ _
        · exact keepsFree_of_tables rfl

/-- A fill takes no key. -/
lemma keepsFree_fillView (s : Store κ) (map : HandleId) (byte : UInt8) :
    OnTables KeepsFree s (s.fillView map byte).1 := by
  unfold fillView
  split
  · exact keepsFree_of_tables rfl
  · split
    · exact keepsFree_of_tables rfl
    · exact keepsFree_setView s map _ _

/-- A change of length takes no key. -/
lemma keepsFree_resize (s : Store κ) (map : HandleId) (n : UInt64) :
    OnTables KeepsFree s (s.resize map n).1 := by
  unfold resize
  split
  · exact keepsFree_of_tables rfl
  next m _ =>
  split
  · exact keepsFree_of_tables rfl
  split
  · unfold resizeFile
    split
    · dsimp only
      split <;> exact keepsFree_of_tables (alike_writeBack s m).tables_eq
    · exact keepsFree_of_tables rfl
    · exact keepsFree_of_tables rfl
  · unfold resizeEntry
    split
    · split
      · exact keepsFree_of_tables rfl
      · next x hx =>
        exact OnTables.set (s := s) KeepsFree.refl (EntryTable.keepsFree_resizeValue hx)
    · exact keepsFree_of_tables rfl
  · unfold resizeBuffer
    split
    · exact keepsFree_of_tables rfl
    · split <;> exact keepsFree_of_tables rfl

/-- Bytes that a writer takes take no key. -/
lemma keepsFree_accept (s : Store κ) (writer : HandleId) (b : Bytes) :
    OnTables KeepsFree s (s.accept writer b).1 := by
  unfold accept
  split
  · exact keepsFree_of_tables rfl
  next w _ =>
  split
  swap
  · exact keepsFree_of_tables rfl
  split
  · exact keepsFree_of_tables rfl
  next s₁ sink hsink =>
  have taken : OnTables KeepsFree s s₁ := by
    unfold writeSink at hsink
    split at hsink
    · obtain ⟨rfl, -⟩ := Prod.mk.inj (Except.ok.inj hsink)
      exact keepsFree_of_tables rfl
    · obtain ⟨rfl, -⟩ := Prod.mk.inj (Except.ok.inj hsink)
      exact keepsFree_of_tables rfl
    · split at hsink
      · next x happend =>
        obtain ⟨rfl, -⟩ := Prod.mk.inj (Except.ok.inj hsink)
        exact .set KeepsFree.refl (EntryTable.keepsFree_appendValue happend)
      · cases hsink
      · cases hsink
    · obtain ⟨rfl, -⟩ := Prod.mk.inj (Except.ok.inj hsink)
      exact keepsFree_of_tables rfl
  exact taken

/-- Nor do bytes that it takes in full. -/
lemma keepsFree_writeAll (s : Store κ) (writer : HandleId) (b : Bytes) :
    OnTables KeepsFree s (s.writeAll writer b).1 := by
  unfold writeAll
  split
  · exact keepsFree_of_tables rfl
  · exact keepsFree_accept s writer b

/-- Nor does a payload. -/
lemma keepsFree_writeData (s : Store κ) (writer : HandleId) (b : Bytes) :
    OnTables KeepsFree s (s.writeData writer b).1 := by
  have written := keepsFree_writeAll s writer b
  unfold writeData
  split <;> next heq => rw [heq] at written; exact written

/-- Nor does a copy. -/
lemma keepsFree_copy {reader writer : HandleId} {r : Except IoError Nat}
    (h : s.copy reader writer = some (s', r)) : OnTables KeepsFree s s' :=
  copy_induction (P := OnTables KeepsFree s)
    (fun s₁ n h₁ => h₁.trans KeepsFree.trans (keepsFree_of_tables (s₁.tables_deliver reader n)))
    (fun s₁ b _ h₁ => h₁.trans KeepsFree.trans (keepsFree_writeAll s₁ writer b))
    (keepsFree_of_tables rfl) h

/-! ### Opens -/

section Opens

variable {c : ClaimId} {t : TableId} {w : RegistryId}

/-- A mapping of an entry that is there takes no key. -/
lemma keepsFree_mapEntry [ToString κ] (s : Store κ) (t : TableId) (e : EntryId) (n : UInt64)
    (readOnly : Bool) : OnTables KeepsFree s (s.mapEntry t e n readOnly).1 := by
  unfold mapEntry
  split
  · exact keepsFree_of_tables rfl
  · next table hl =>
    exact OnTables.set (s := s) KeepsFree.refl
      ((EntryTable.keepsFree_takeOwner _ e).trans (EntryTable.keepsFree_lockFor hl))

/-- A mapping of the entry under a key takes no key: it makes no entry. -/
lemma keepsFree_mapKey [ToString κ] (s : Store κ) (t : TableId) (key : Key κ) (n : UInt64)
    (readOnly : Bool) : OnTables KeepsFree s (s.mapKey t key n readOnly).1 := by
  unfold mapKey
  split
  · exact keepsFree_mapEntry s t _ n readOnly
  · exact keepsFree_of_tables rfl

/-- A lock takes no key. -/
lemma keepsFree_lockValue (s : Store κ) (t : TableId) (e : EntryId) (writing : Bool) :
    OnTables KeepsFree s (s.lockValue t e writing).1 := by
  unfold lockValue
  split
  · exact keepsFree_of_tables rfl
  · next table hl =>
    refine OnTables.set (s := s) KeepsFree.refl ?_
    cases writing with
    | true => exact EntryTable.keepsFree_tryWrite hl
    | false => exact EntryTable.keepsFree_tryRead hl

/-- A borrow of what is there takes no key. -/
lemma keepsFree_borrowEntry (s : Store κ) (t : TableId) (key : Key κ) :
    OnTables KeepsFree s (s.borrowEntry t key).1 := by
  unfold borrowEntry
  split
  · exact keepsFree_of_tables rfl
  · next e table hb =>
    obtain ⟨-, rfl⟩ := EntryTable.borrow_eq_some hb
    exact OnTables.set (s := s) KeepsFree.refl (EntryTable.keepsFree_takeOwner _ e)

/-- A reader takes no key: it opens what is there. -/
lemma keepsFree_readInTable (s : Store κ) : OnTables KeepsFree s (s.readInTable t c).1 := by
  unfold readInTable
  dsimp only
  split
  · exact keepsFree_of_tables rfl
  · next e borrowed hb =>
    obtain ⟨-, rfl⟩ := EntryTable.borrow_eq_some hb
    split
    · exact .set KeepsFree.refl
        ((EntryTable.keepsFree_takeOwner _ e).trans (EntryTable.keepsFree_dropOwner _ e))
    · next locked hl =>
      exact OnTables.set (s := s) KeepsFree.refl
        ((EntryTable.keepsFree_takeOwner _ e).trans (EntryTable.keepsFree_tryRead hl))

/-- A read-only mapping takes no key. -/
lemma keepsFree_mapInTable [ToString κ] (s : Store κ) (n : UInt64) :
    OnTables KeepsFree s (s.mapInTable t w c n true).1 := by
  unfold mapInTable
  simp only [if_true]
  split
  · exact keepsFree_of_tables rfl
  · next e borrowed hb =>
    obtain ⟨-, rfl⟩ := EntryTable.borrow_eq_some hb
    split
    · exact .set KeepsFree.refl
        ((EntryTable.keepsFree_takeOwner _ e).trans (EntryTable.keepsFree_dropOwner _ e))
    · next locked hl =>
      exact OnTables.set (s := s) KeepsFree.refl
        ((EntryTable.keepsFree_takeOwner _ e).trans (EntryTable.keepsFree_lockFor hl))

/-- **An open for writing takes a key** only where it succeeds in a table, and then the one of its
identifier. -/
def TakesKey (s : Store κ) (b : Backend) (x : String) (q : Store κ × Except Failure HandleId) :
    Prop :=
  ∀ t key, (s.table t).find? key = none → (q.1.table t).find? key = none ∨
    ∃ w h, b = .volatile t w ∧ key = .text x ∧ q.2 = .ok h

variable {b : Backend} {x : String} {q : Store κ × Except Failure HandleId}

/-- An open that leaves every free key free takes none. -/
lemma takesKey_of_keepsFree (h : OnTables KeepsFree s q.1) : TakesKey s b x q :=
  fun t key hk => .inl (h t key hk)

/-- An open that makes its entry, if it can be locked. -/
lemma takesKey_withEntry (hs : s.Sound)
    {lock : EntryTable (Key κ) → EntryId → Except ContentError (EntryTable (Key κ))}
    (hlock : ∀ {t t' e}, lock t e = .ok t' → KeepsFree t t') {table : EntryTable (Key κ)}
    {r : Except ContentError EntryId} (h : withEntry (s.table t) x lock = (table, r))
    (hq : q.1.tables = (s.setTable t table).tables) (hr : ∀ e, r = .ok e → ∃ h, q.2 = .ok h) :
    TakesKey s (.volatile t w) x q := by
  intro t' key hk
  have htable : q.1.table t' = (s.setTable t table).table t' := by rw [Store.table, Store.table, hq]
  rw [htable, table_setTable]
  split
  · next ht =>
    obtain ⟨rfl, -⟩ := ht
    cases r with
    | ok e =>
      by_cases hkey : key = .text x
      · obtain ⟨h, hans⟩ := hr e rfl
        exact .inr ⟨w, h, rfl, hkey, hans⟩
      · exact .inl (EntryTable.find?_withEntry_ok hlock h hk hkey)
    | error y =>
      exact .inl (EntryTable.keepsFree_withEntry_error (hs.tables_sound t').toRegular h key hk)
  · exact .inl hk

/-- A writable mapping takes the key of its identifier at most. -/
lemma takesKey_mapIn [ToString κ] (hs : s.Sound) (b : Backend) (n : UInt64) :
    TakesKey s b (s.identifier c) (s.mapIn b c n false) := by
  cases b with
  | files D w g =>
    exact takesKey_of_keepsFree (keepsFree_of_tables (tables_mapIn (by nofun) n false))
  | database d p w =>
    exact takesKey_of_keepsFree (keepsFree_of_tables (tables_mapIn (by nofun) n false))
  | volatile t w =>
    show TakesKey s _ _ (s.mapInTable t w c n false)
    unfold mapInTable
    simp only [Bool.false_eq_true, if_false]
    split
    · exact takesKey_of_keepsFree (keepsFree_of_tables rfl)
    · next leased hl =>
      obtain ⟨reg, -, rfl⟩ := takeWriteLease_ok hl
      split
      · next table x hx =>
        exact takesKey_withEntry hs EntryTable.keepsFree_lockFor hx rfl fun e he => by cases he
      · next table e hx =>
        exact takesKey_withEntry hs EntryTable.keepsFree_lockFor hx rfl fun _ _ => ⟨_, rfl⟩

/-- A writer takes the key of its identifier at most. -/
lemma takesKey_writeIn (hs : s.Sound) (b : Backend) (append : Bool) :
    TakesKey s b (s.identifier c) (s.writeIn b c append) := by
  cases b with
  | files D w g =>
    exact takesKey_of_keepsFree (keepsFree_of_tables (tables_writeIn (by nofun) append))
  | database d p w =>
    exact takesKey_of_keepsFree (keepsFree_of_tables (tables_writeIn (by nofun) append))
  | volatile t w =>
    show TakesKey s _ _ (s.writeInTable t w c append)
    unfold writeInTable
    dsimp only
    split
    · exact takesKey_of_keepsFree (keepsFree_of_tables rfl)
    · next leased hl =>
      obtain ⟨reg, -, rfl⟩ := takeWriteLease_ok hl
      split
      · next table x hx =>
        exact takesKey_withEntry hs EntryTable.keepsFree_lockForWriter hx rfl
          fun e he => by cases he
      · next table e hx =>
        exact takesKey_withEntry hs EntryTable.keepsFree_lockForWriter hx rfl fun _ _ => ⟨_, rfl⟩

/-- A read-only mapping takes no key. -/
lemma keepsFree_mapIn [ToString κ] (s : Store κ) (b : Backend) (n : UInt64) :
    OnTables KeepsFree s (s.mapIn b c n true).1 := by
  cases b with
  | volatile t w => exact keepsFree_mapInTable (w := w) s n
  | _ => exact keepsFree_of_tables (tables_mapIn (by nofun) n true)

/-- A reader takes no key, whatever the backend. -/
lemma keepsFree_readIn (s : Store κ) (b : Backend) : OnTables KeepsFree s (s.readIn b c).1 := by
  cases b with
  | volatile t w => exact keepsFree_readInTable s
  | _ => exact keepsFree_of_tables (tables_readIn (by nofun))

/-- A removal takes no key, whatever the backend. -/
lemma keepsFree_removeIn (hs : s.Sound) (b : Backend) :
    OnTables KeepsFree s (s.removeIn b c).1 := by
  cases b with
  | volatile t w =>
    have removes := EntryTable.keepsFree_remove (hs.tables_sound t).toRegular
      (.text (s.identifier c))
    rcases s.removeIn_cases (.volatile t w) c with ⟨f, heq⟩ | ⟨-, heq⟩ <;> rw [heq]
    · exact keepsFree_of_tables rfl
    · rw [eraseIn]
      unfold removeInTable
      split <;> next table heq => rw [heq] at removes; exact .set KeepsFree.refl removes
  | _ => exact keepsFree_of_tables (tables_removeIn (by nofun))

end Opens

/-! ### Operations -/

section Steps

variable {l : Ledger} {op : Operation κ} {t : TableId} {key : Key κ} {r : RepositoryId}
  {c : ClaimId}

/-- What takes no key in a backend takes none in an open repository. -/
lemma keepsFree_inRepository {α : Type} {act : Store κ → Backend → Store κ × Except Failure α}
    (hact : ∀ b, OnTables KeepsFree s (act s b).1) :
    OnTables KeepsFree s (s.inRepository r c act).1 := by
  unfold inRepository
  split
  · exact hact _
  · exact keepsFree_of_tables rfl

/-- Nor in the repository of a claim. -/
lemma keepsFree_routed {α : Type} {act : Store κ → Backend → Store κ × Except Failure α}
    (hact : ∀ b, OnTables KeepsFree s (act s b).1) : OnTables KeepsFree s (s.routed c act).1 := by
  unfold routed
  split
  · exact hact _
  · exact keepsFree_of_tables rfl

/-- A key that an open in a repository takes. -/
lemma takesKey_inRepository {x : String}
    {act : Store κ → Backend → Store κ × Except Failure HandleId}
    (hact : ∀ b, TakesKey s b x (act s b)) (hk : (s.table t).find? key = none) :
    ((s.inRepository r c act).1.table t).find? key = none ∨
      ∃ w h, s.backend? r = some (.volatile t w) ∧ key = .text x ∧
        (s.inRepository r c act).2 = .ok h := by
  unfold inRepository
  split
  · next b hb =>
    refine (hact b t key hk).imp_right fun ⟨w, h, hbt, hkey, hans⟩ => ?_
    exact ⟨w, h, hbt ▸ hb, hkey, hans⟩
  · exact .inl hk

/-- A new table has no keys, and neither had the place where it is. -/
lemma keepsFree_addTable (s : Store κ) (maxBytes maxCount : UInt64) :
    OnTables KeepsFree s (s.addTable maxBytes maxCount).1 := fun t => by
  rcases s.table_addTable maxBytes maxCount t with h | ⟨h, h'⟩
  · rw [h]
    exact .refl _
  · rw [h, h']
    exact .of_cells rfl

/-- A repository that is opened takes no key: its table is new. -/
lemma keepsFree_openRepository (s : Store κ) (kind : RepositoryKind) :
    OnTables KeepsFree s (s.openRepository kind).1 := by
  cases kind with
  | files directory =>
    rw [openRepository, openFiles]
    split <;> exact keepsFree_of_tables rfl
  | volatile maxBytes maxCount => exact s.keepsFree_addTable maxBytes maxCount
  | database p =>
    have opened := s.opensDatabase p
    rw [openRepository, openRows]
    split <;> next h => rw [h] at opened; exact keepsFree_of_tables opened.tables_eq

/-- An entry that is asked for takes its own key at most. -/
lemma find?_insertEntry {t' : TableId} {key' : Key κ} (hk : (s.table t).find? key = none)
    (hne : t = t' → key ≠ key') : ((s.insertEntry t' key').1.table t).find? key = none := by
  unfold insertEntry
  split
  · exact hk
  · next e table hg =>
    show ((s.setTable t' table).table t).find? key = none
    rw [table_setTable]
    split
    · next ht =>
      obtain ⟨rfl, -⟩ := ht
      exact EntryTable.find?_getOrInsert hg hk (hne rfl)
    · exact hk

variable [ToString κ]

/-- **An operation leads to an entry under a key**: content is open for writing under it, or the
entry was asked for by itself. -/
inductive Enters (l : Ledger) (s : Store κ) (op : Operation κ) (t : TableId) (key : Key κ) : Prop
  /-- Content is open for writing. -/
  | opens {r : RepositoryId} {w : RegistryId} {x : String} {h : HandleId}
      (backend_eq : s.backendOf? r = some (.volatile t w)) (key_eq : key = .text x)
      (writes : l.writesTo r x h = true) : Enters l s op t key
  /-- The entry is asked for. -/
  | inserts (op_eq : op = .insertEntry t key) : Enters l s op t key

/-- An entry that is made is in the ledger. -/
lemma after_opened {f : Faults} (happ : s.applies op = true) {i : HandleId} {y : Holder}
    (h : s.openedUnder f op = some (i, y)) : l.after f s op i = some y := by
  rw [Ledger.after, if_pos happ, h]
  exact if_pos rfl

/-- An open that takes a key makes a live writer. -/
lemma Tells.enters (ht : Tells l s) (hs : s.Sound) {w : RegistryId} {x : String} {h : HandleId}
    {y : Holder} (happ : s.applies op = true) (ho : s.openedUnder .quiet op = some (h, y))
    (hw : y.writes r x = true) (hb : s.backend? r = some (.volatile t w)) :
    Enters (l.after .quiet s op) (s.step op) op t (.text x) :=
  .opens ((ht.effect_step hs op).backendOf? (backendOf?_of_backend? hb)) rfl
    (Ledger.writesTo_iff.2 ⟨y, after_opened happ ho, hw⟩)

/-- **A writable mapping** takes the key of its identifier, or none. -/
lemma Tells.find?_mapContent (ht : Tells l s) (hs : s.Sound) (hc : c < s.claims.length) (n : UInt64)
    (hk : (s.table t).find? key = none) :
    ((s.mapContent r c n false).1.table t).find? key = none ∨
      Enters (l.after .quiet s (.mapContent r c n false)) (s.mapContent r c n false).1
        (.mapContent r c n false) t key := by
  have happ : s.applies (.mapContent r c n false) = true := decide_eq_true hc
  have hstep : s.step (.mapContent r c n false) = (s.mapContent r c n false).1 := if_pos happ
  refine (takesKey_inRepository (fun b => takesKey_mapIn (c := c) hs b n) hk).imp_right ?_
  rintro ⟨w, h, hb, rfl, hans⟩
  have ho : s.openedUnder .quiet (.mapContent r c n false) =
      some (h, ⟨c, s.identifier c, .mapping r false, false⟩) := by
    rw [openedUnder, mapContentUnder_quiet]
    exact congrArg _ hans
  exact hstep ▸ ht.enters hs happ ho (by simp [Holder.writes]) hb

/-- **So does a writer.** -/
lemma Tells.find?_writeContent (ht : Tells l s) (hs : s.Sound) (hc : c < s.claims.length)
    (append : Bool) (hk : (s.table t).find? key = none) :
    ((s.writeContent r c append).1.table t).find? key = none ∨
      Enters (l.after .quiet s (.writeContent r c append)) (s.writeContent r c append).1
        (.writeContent r c append) t key := by
  have happ : s.applies (.writeContent r c append) = true := decide_eq_true hc
  have hstep : s.step (.writeContent r c append) = (s.writeContent r c append).1 := if_pos happ
  refine (takesKey_inRepository (fun b => takesKey_writeIn (c := c) hs b append) hk).imp_right ?_
  rintro ⟨w, h, hb, rfl, hans⟩
  have ho : s.openedUnder .quiet (.writeContent r c append) =
      some (h, ⟨c, s.identifier c, .writer r, false⟩) := by
    rw [openedUnder, writeContentUnder_quiet]
    exact congrArg _ hans
  exact hstep ▸ ht.enters hs happ ho (by simp [Holder.writes]) hb

/-- What a mapping through a claim makes is what one through its repository makes. -/
lemma after_mapClaim {p : RepositoryId × Backend} (hr : s.repositoryOf c = some p)
    (hc : c < s.claims.length) (n : UInt64) (readOnly : Bool) :
    l.after .quiet s (.mapClaim c n readOnly) =
      l.after .quiet s (.mapContent p.1 c n readOnly) := by
  have heq : s.mapClaim c n readOnly = s.mapContent p.1 c n readOnly := routed_eq hr _
  simp only [Ledger.after, applies, hc, decide_true, if_true, openedUnder, hr, Option.bind_some,
    mapClaimUnder_quiet, mapContentUnder_quiet, heq]
  rfl

/-- What a writer through a claim makes is what one through its repository makes. -/
lemma after_writeClaim {p : RepositoryId × Backend} (hr : s.repositoryOf c = some p)
    (hc : c < s.claims.length) (append : Bool) :
    l.after .quiet s (.writeClaim c append) = l.after .quiet s (.writeContent p.1 c append) := by
  have heq : s.writeClaim c append = s.writeContent p.1 c append := routed_eq hr _
  simp only [Ledger.after, applies, hc, decide_true, if_true, openedUnder, hr, Option.bind_some,
    writeClaimUnder_quiet, writeContentUnder_quiet, heq]
  rfl

/-- An operation on repositories or claims takes no key. -/
lemma keepsFree_setup (hs : s.Sound) {op : Operation κ} (hop : op.group = .setup) :
    OnTables KeepsFree s (s.perform op) := by
  cases op with
  | openRepository kind => exact keepsFree_openRepository s kind
  | removeContent r c => exact keepsFree_inRepository (keepsFree_removeIn hs)
  | closeRepository _ | addClaim _ _ | acquire _ => exact keepsFree_of_tables rfl
  | _ => cases hop

/-- An operation on a mapping, which goes on, takes no key. -/
lemma keepsFree_mapping {op : Operation κ} (hop : op.group = .mapping) :
    OnTables KeepsFree s (s.perform op) := by
  cases op with
  | writeAt map offset b => exact keepsFree_writeAt s map offset b
  | fillView map byte => exact keepsFree_fillView s map byte
  | resize map n => exact keepsFree_resize s map n
  | flush map => exact keepsFree_of_tables (s.tables_flush map)
  | registerHook map name failure probe => exact returns_keepsFree.registerHook s map _
  | _ => cases hop

/-- An operation on a reader or a writer, which goes on, takes no key. -/
lemma keepsFree_stream {op : Operation κ} (hop : op.group = .stream) :
    OnTables KeepsFree s (s.perform op) := by
  cases op with
  | readRaw reader n => exact keepsFree_of_tables (s.tables_deliver reader _)
  | readData reader buffer maxLen =>
    simp only [Store.perform]
    exact keepsFree_of_tables (s.tables_readData reader buffer maxLen)
  | readToEnd reader => exact keepsFree_of_tables (s.tables_readToEnd reader)
  | seek reader offset => exact keepsFree_of_tables (s.tables_seek reader offset)
  | writeRaw writer b => exact keepsFree_accept s writer _
  | writeData writer b => exact keepsFree_writeData s writer b.bytes
  | copy reader writer =>
    rcases s.perform_copy reader writer with heq | ⟨s', r, hcopy, heq⟩ <;> rw [heq]
    · exact keepsFree_of_tables rfl
    · exact keepsFree_copy hcopy
  | _ => cases hop

/-- An operation that ends a handle takes no key. -/
lemma keepsFree_ending {op : Operation κ} (hop : op.group = .ending) :
    OnTables KeepsFree s (s.perform op) := by
  cases op with
  | unmap map => exact returns_keepsFree.unmap s map
  | close writer => exact returns_keepsFree.close s writer
  | drop h => exact returns_keepsFree.drop s h
  | _ => cases hop

/-- An operation on a table takes no key, unless it asks for an entry that it may make. -/
lemma keepsFree_calls (hs : s.Sound) : TableCalls s fun op s' =>
    (∀ t key, op ≠ .insertEntry t key) → OnTables KeepsFree s s' where
  none _ _ := keepsFree_of_tables rfl
  addTable maxBytes maxCount _ := keepsFree_addTable s maxBytes maxCount
  insertEntry t key _ hne := absurd rfl (hne t key)
  borrowEntry t key _ _ := keepsFree_borrowEntry s t key
  cloneBorrow _ _ e _ _ := .set KeepsFree.refl (EntryTable.keepsFree_takeOwner _ e)
  removeEntry t key _ _ :=
    .set KeepsFree.refl (EntryTable.keepsFree_remove (hs.tables_sound t).toRegular key)
  lockValue _ writing t e _ _ := keepsFree_lockValue s t e writing
  storeValue _ offset b t e _ _ := by
    unfold Store.storeValue
    split
    · exact .set KeepsFree.refl (EntryTable.keepsFree_setValue _ _ _)
    · exact keepsFree_of_tables rfl
  resizeValue _ _ n t e _ _ _ := by
    unfold Store.resizeValue
    split
    · exact keepsFree_of_tables rfl
    · next x hx => exact .set KeepsFree.refl (EntryTable.keepsFree_resizeValue hx)
  appendValue _ _ b t e _ _ _ := by
    unfold Store.appendValue
    split
    · exact keepsFree_of_tables rfl
    · next x hx => exact .set KeepsFree.refl (EntryTable.keepsFree_appendValue hx)
  mapKey t key n readOnly _ _ := keepsFree_mapKey s t key n readOnly
  mapBorrow _ n readOnly t e _ _ := keepsFree_mapEntry s t e n readOnly

/-- **An open takes the key of its identifier**, if it is one for writing, and no other.

**Proof sketch.** An open through a claim is one in the repository of the claim. There a writable
mapping and a writer take the key of their identifier or none, and what is opened for reading takes
none. -/
lemma Tells.find?_opening (ht : Tells l s) (hs : s.Sound) {op : Operation κ}
    (hop : op.group = .opening) (happ : s.applies op = true) (hk : (s.table t).find? key = none) :
    ((s.perform op).table t).find? key = none ∨
      Enters (l.after .quiet s op) (s.perform op) op t key := by
  have free : OnTables KeepsFree s (s.perform op) → ((s.perform op).table t).find? key = none ∨
      Enters (l.after .quiet s op) (s.perform op) op t key := fun h => .inl (h t key hk)
  cases op with
  | mapContent r c n readOnly =>
    cases readOnly with
    | true => exact free (keepsFree_inRepository fun b => keepsFree_mapIn s b n)
    | false => exact ht.find?_mapContent hs (of_decide_eq_true happ) n hk
  | writeContent r c append => exact ht.find?_writeContent hs (of_decide_eq_true happ) append hk
  | readContent r c => exact free (keepsFree_inRepository (keepsFree_readIn s))
  | readClaim c => exact free (keepsFree_routed (keepsFree_readIn s))
  | mapClaim c n readOnly =>
    cases readOnly with
    | true => exact free (keepsFree_routed fun b => keepsFree_mapIn s b n)
    | false =>
      cases hr : s.repositoryOf c with
      | none => exact free (keepsFree_of_tables (by rw [perform, mapClaim, routed_none hr]))
      | some p =>
        have hc : c < s.claims.length := of_decide_eq_true happ
        have heq : s.perform (.mapClaim c n false) = (s.mapContent p.1 c n false).1 :=
          congrArg Prod.fst (routed_eq hr _)
        rw [heq, after_mapClaim hr hc]
        refine (ht.find?_mapContent hs hc n hk).imp_right fun h => ?_
        cases h with
        | opens hb hkey hw => exact .opens hb hkey hw
        | inserts hop => cases hop
  | writeClaim c append =>
    cases hr : s.repositoryOf c with
    | none => exact free (keepsFree_of_tables (by rw [perform, writeClaim, routed_none hr]))
    | some p =>
      have hc : c < s.claims.length := of_decide_eq_true happ
      have heq : s.perform (.writeClaim c append) = (s.writeContent p.1 c append).1 :=
        congrArg Prod.fst (routed_eq hr _)
      rw [heq, after_writeClaim hr hc]
      refine (ht.find?_writeContent hs hc append hk).imp_right fun h => ?_
      cases h with
      | opens hb hkey hw => exact .opens hb hkey hw
      | inserts hop => cases hop
  | _ => cases hop

/-- **What takes a key** that is free: content is opened for writing, or the entry is asked for.

**Proof sketch.** The operations are taken group by group. Outside the opens only one operation
makes an entry, and that one takes the key it names. -/
lemma Tells.find?_step (ht : Tells l s) (hs : s.Sound) (op : Operation κ)
    (hk : (s.table t).find? key = none) :
    ((s.step op).table t).find? key = none ∨
      Enters (l.after .quiet s op) (s.step op) op t key := by
  by_cases happ : s.applies op = true
  swap
  · rw [Store.step, if_neg happ]
    exact .inl hk
  have hstep : s.step op = s.perform op := if_pos happ
  rw [hstep]
  cases hop : op.group with
  | setup => exact .inl (keepsFree_setup hs hop t key hk)
  | opening => exact ht.find?_opening hs hop happ hk
  | mapping => exact .inl (keepsFree_mapping hop t key hk)
  | stream => exact .inl (keepsFree_stream hop t key hk)
  | ending => exact .inl (keepsFree_ending hop t key hk)
  | table =>
    by_cases hsame : op = .insertEntry t key
    · exact .inr (.inserts hsame)
    by_cases hins : ∃ t' key', op = .insertEntry t' key'
    · obtain ⟨t', key', rfl⟩ := hins
      exact .inl (find?_insertEntry hk fun h h' => hsame (h ▸ h' ▸ rfl))
    · exact .inl ((keepsFree_calls hs).perform hop happ (fun t' key' h => hins ⟨t', key', h⟩)
        t key hk)

/-- **Nor does anything else take a key where operations fail.** -/
lemma Tells.find?_stepUnder (ht : Tells l s) (hs : s.Sound) (f : Faults) (op : Operation κ)
    (hk : (s.table t).find? key = none) :
    ((s.stepUnder f op).table t).find? key = none ∨
      Enters (l.after f s op) (s.stepUnder f op) op t key := by
  rcases after_cases f l s op with ⟨hstep, -⟩ | ⟨alike, hl⟩
  · rw [hstep]
    exact .inl hk
  · have htable : (s.stepUnder f op).table t = (s.step op).table t := by
      rw [table, table, alike.tables_eq]
    rw [htable, hl]
    refine (ht.find?_step hs op hk).imp_right fun h => ?_
    cases h with
    | opens hb hkey hw =>
      exact .opens ((backendOf?_congr alike.repositories_eq _).trans hb) hkey hw
    | inserts hop => exact .inserts hop

end Steps

end Store

end ClaimStore
