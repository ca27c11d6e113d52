import ClaimStore.Proofs.EntryContents

/-!
# Values under their locks

A lock lets many readers in or one writer. A value changes only while its writer is inside the
lock, so that it stays as it is while any reader is; and an entry keeps its key for good, even after
it was taken out of its table.

## Main definitions

* `EntryTable.keyOf?` — the key under which an entry was made.
* `EntryTable.Exclusive` — no lock has readers and a writer inside.
* `EntryTable.Steady` — a step that changes no value with readers.
* `EntryTable.Guards`, `EntryTable.Settles` — the two ways to compose such steps.

## Main results

* `Guards.modify` — a value that nobody reads may change.
* `EntryTable.guards_lockFor`, `EntryTable.guards_lockForWriter`,
  `EntryTable.guards_withEntry_ok` — opens.
* `EntryTable.settles_remove`, `EntryTable.settles_endRead`, `EntryTable.settles_endWrite` — what is
  taken out and given back.
-/

set_option autoImplicit false

namespace ClaimStore.EntryTable

variable {K : Type} {t t' t'' : EntryTable K} {e e' : EntryId}

/-! ### Keys -/

/-- The key under which an entry was made. -/
def keyOf? (t : EntryTable K) (e : EntryId) : Option K := (t.cells[e]?).map (·.key)

/-- A change that keeps all keys. -/
lemma keyOf?_modify {f : Entry K → Entry K} (hf : ∀ c, (f c).key = c.key) (e' : EntryId) :
    (t.modify e f).keyOf? e' = t.keyOf? e' := by
  unfold keyOf?
  rw [getElem?_modify]
  split
  · cases t.cells[e']? with
    | none => rfl
    | some c => exact congrArg some (hf c)
  · rfl

/-- What is found under a key was made under it. -/
lemma keyOf?_of_find? [DecidableEq K] {key : K} (h : t.find? key = some e) :
    t.keyOf? e = some key := by
  obtain ⟨c, hc, -, hk⟩ := find?_eq_some h
  rw [keyOf?, hc, Option.map_some, hk]

/-- A stored entry is the one that is found under its key. -/
lemma Regular.find?_of_keyOf? [DecidableEq K] (ht : t.Regular) (hs : t.Stored e) {key : K}
    (hk : t.keyOf? e = some key) : t.find? key = some e := by
  obtain ⟨c, hc, hstored⟩ := hs
  rw [keyOf?, hc, Option.map_some] at hk
  obtain rfl := Option.some.inj hk
  exact ht.find?_eq hc hstored

/-! ### Steps of a table -/

/-- No lock has readers and a writer inside. -/
def Exclusive (t : EntryTable K) : Prop :=
  ∀ e, 0 < t.tally e .writeLock → t.tally e .readLock = 0

/-- A step that changes no value with readers. -/
structure Steady (t t' : EntryTable K) : Prop where
  /-- The locks stay exclusive. -/
  exclusive : t.Exclusive → t'.Exclusive
  /-- A value with readers stays as it is. -/
  value_eq : ∀ e, 0 < t.tally e .readLock → t'.value e = t.value e
  /-- Every entry keeps its key. -/
  keyOf?_eq : ∀ e k, t.keyOf? e = some k → t'.keyOf? e = some k

/-- A step that changes no value with readers, and lets no reader out. -/
structure Guards (t t' : EntryTable K) : Prop extends Steady t t' where
  /-- All readers stay inside. -/
  readers_le : ∀ e, t.tally e .readLock ≤ t'.tally e .readLock

/-- A step that changes no value at all. -/
structure Settles (t t' : EntryTable K) : Prop where
  /-- The locks stay exclusive. -/
  exclusive : t.Exclusive → t'.Exclusive
  /-- Every value stays as it is. -/
  value_eq : ∀ e, t'.value e = t.value e
  /-- Every entry keeps its key. -/
  keyOf?_eq : ∀ e k, t.keyOf? e = some k → t'.keyOf? e = some k

/-- What counts in a table for its locks does not depend on the rest. -/
lemma Exclusive.of_tally (ht : t.Exclusive)
    (h : ∀ e, t'.tally e .readLock ≤ t.tally e .readLock)
    (h' : ∀ e, t'.tally e .writeLock ≤ t.tally e .writeLock) : t'.Exclusive := fun e he =>
  Nat.eq_zero_of_le_zero (ht e (Nat.lt_of_lt_of_le he (h' e)) ▸ h e)

/-- The same table settles. -/
lemma Settles.refl (t : EntryTable K) : Settles t t := ⟨id, fun _ => rfl, fun _ _ h => h⟩

/-- Two such steps, one after the other. -/
lemma Settles.trans (h : Settles t t') (h' : Settles t' t'') : Settles t t'' where
  exclusive ht := h'.exclusive (h.exclusive ht)
  value_eq e := (h'.value_eq e).trans (h.value_eq e)
  keyOf?_eq e k hk := h'.keyOf?_eq e k (h.keyOf?_eq e k hk)

/-- A step that changes no value changes none that is read. -/
lemma Settles.steady (h : Settles t t') : Steady t t' :=
  ⟨h.exclusive, fun e _ => h.value_eq e, h.keyOf?_eq⟩

/-- The same table guards its readers. -/
lemma Guards.refl (t : EntryTable K) : Guards t t := ⟨(Settles.refl t).steady, fun _ => le_refl _⟩

/-- Two steps that guard the readers, one after the other. -/
lemma Guards.trans (h : Guards t t') (h' : Guards t' t'') : Guards t t'' where
  exclusive ht := h'.exclusive (h.exclusive ht)
  value_eq e he :=
    (h'.value_eq e (Nat.lt_of_lt_of_le he (h.readers_le e))).trans (h.value_eq e he)
  keyOf?_eq e k hk := h'.keyOf?_eq e k (h.keyOf?_eq e k hk)
  readers_le e := (h.readers_le e).trans (h'.readers_le e)

/-- A change of entries that keeps their locks. -/
lemma tally_modify_of_lock {f : Entry K → Entry K} (hlock : ∀ c, (f c).lock = c.lock) {p : Share}
    (hp : p ≠ .owner) (e e' : EntryId) : (t.modify e f).tally e' p = t.tally e' p := by
  unfold tally
  rw [getElem?_modify]
  by_cases he : e = e'
  · rw [if_pos he]
    cases t.cells[e']? with
    | none => rfl
    | some c =>
      cases p with
      | owner => exact absurd rfl hp
      | readLock => exact congrArg Lock.readers (hlock c)
      | writeLock => exact congrArg (fun l : Lock => if l.writer then 1 else 0) (hlock c)
  · rw [if_neg he]

/-- A change of one entry that keeps its key and its value, and lets nobody into its lock. -/
lemma Settles.modify {f : Entry K → Entry K} (hkey : ∀ c, (f c).key = c.key)
    (hvalue : ∀ c, (f c).value = c.value)
    (hle : ∀ e' p, p ≠ .owner → (t.modify e f).tally e' p ≤ t.tally e' p) :
    Settles t (t.modify e f) where
  exclusive ht := ht.of_tally (fun e' => hle e' _ nofun) fun e' => hle e' _ nofun
  value_eq e' := value_modify_eq hvalue e'
  keyOf?_eq e' _ hk := (keyOf?_modify hkey e').trans hk

/-- A change of one entry that keeps its key, its value and its lock. -/
lemma Settles.modify_share {f : Entry K → Entry K} (hkey : ∀ c, (f c).key = c.key)
    (hvalue : ∀ c, (f c).value = c.value) (hlock : ∀ c, (f c).lock = c.lock) :
    Settles t (t.modify e f) :=
  .modify hkey hvalue fun e' _ hp => le_of_eq (tally_modify_of_lock hlock hp e e')

/-- The budget does not matter. -/
lemma Settles.of_cells (h : t'.cells = t.cells) : Settles t t' where
  exclusive ht := ht.of_tally (fun e => by rw [tally, tally, h]) fun e => by rw [tally, tally, h]
  value_eq _ := value_of_cells h
  keyOf?_eq e _ hk := by rwa [keyOf?, h]

/-! ### Owners, removals and new entries -/

/-- An owner that is counted changes no value. -/
lemma settles_takeOwner (t : EntryTable K) (e : EntryId) : Settles t (t.takeOwner e) :=
  .modify_share (fun _ => rfl) (fun _ => rfl) fun _ => rfl

/-- Nor does an owner that leaves. -/
lemma settles_dropOwner (t : EntryTable K) (e : EntryId) : Settles t (t.dropOwner e) :=
  .modify_share (fun _ => rfl) (fun _ => rfl) fun _ => rfl

/-- Nor does a reader that leaves. -/
lemma settles_endRead (t : EntryTable K) (e : EntryId) : Settles t (t.endRead e) :=
  .modify (fun _ => rfl) (fun _ => rfl)
    fun e' p _ => (tally_endRead t e e' p).trans_le (Nat.sub_le _ _)

/-- Nor does a writer that leaves. -/
lemma settles_endWrite (t : EntryTable K) (e : EntryId) : Settles t (t.endWrite e) :=
  .modify (fun _ => rfl) (fun _ => rfl)
    fun e' p _ => (tally_endWrite t e e' p).trans_le (Nat.sub_le _ _)

/-- Nor does an entry that is taken out: its value stays with those who have it. -/
lemma settles_takeOut (t : EntryTable K) (e : EntryId) : Settles t (t.takeOut e) :=
  (Settles.modify_share (f := fun c => { c with stored := false }) (fun _ => rfl) (fun _ => rfl)
    fun _ => rfl).trans (.of_cells rfl)

/-- Nor does a new entry. -/
lemma settles_insertNew (t : EntryTable K) (key : K) (b : Budget) :
    Settles t (t.insertNew key b) where
  exclusive ht := ht.of_tally (fun _ => le_of_eq (tally_insertNew ..))
    fun _ => le_of_eq (tally_insertNew ..)
  value_eq e := by
    rcases Nat.lt_trichotomy e t.cells.length with h | rfl | h
    · exact value_insertNew_of_lt key b h
    · rw [value_insertNew_self, value, List.getElem?_eq_none (Nat.le_refl _)]
    · unfold value insertNew
      rw [List.getElem?_eq_none (by simp; omega), List.getElem?_eq_none (by omega)]
  keyOf?_eq e _ hk := by
    obtain ⟨c, hc, rfl⟩ := Option.map_eq_some_iff.1 hk
    have hlt := (List.getElem?_eq_some_iff.1 hc).1
    rw [keyOf?, insertNew, List.getElem?_append_left hlt, hc, Option.map_some]

section Lookup

variable [DecidableEq K] {key : K}

/-- Nor does a removal. -/
lemma settles_remove (t : EntryTable K) (key : K) : Settles t (t.remove key).2 := by
  rcases t.remove_cases key with ⟨-, h⟩ | ⟨e, -, -, h⟩ | ⟨e, -, -, h⟩
  · exact h ▸ .refl t
  · exact h ▸ .refl t
  · exact h ▸ settles_takeOut t e

/-- A borrow under a key, of an entry that was made under it. -/
lemma settles_getOrInsert (h : t.getOrInsert key = .ok (e, t')) :
    Settles t t' ∧ t'.keyOf? e = some key := by
  rcases getOrInsert_ok h with ⟨hf, rfl⟩ | ⟨-, rfl, b, -, rfl⟩
  · have settles := settles_takeOwner t e
    exact ⟨settles, settles.keyOf?_eq e key (keyOf?_of_find? hf)⟩
  · have hkey : (t.insertNew key b).keyOf? t.cells.length = some key := by
      rw [keyOf?, insertNew, List.getElem?_concat_length]
      rfl
    have settles := settles_takeOwner (t.insertNew key b) t.cells.length
    exact ⟨(settles_insertNew t key b).trans settles, settles.keyOf?_eq _ key hkey⟩

end Lookup

/-! ### Locks -/

/-- A step that changes no value and lets nobody out guards those who are inside. -/
lemma Settles.guards (h : Settles t t')
    (hle : ∀ e, t.tally e .readLock ≤ t'.tally e .readLock) : Guards t t' :=
  ⟨h.steady, hle⟩

/-- A lock that somebody enters, where it stays exclusive. -/
lemma Guards.enter (l : Lock)
    (hexclusive : t.Exclusive → (t.modify e fun d => { d with lock := l }).Exclusive)
    (hle : ∀ e', t.tally e' .readLock ≤
      (t.modify e fun d => { d with lock := l }).tally e' .readLock) :
    Guards t (t.modify e fun d => { d with lock := l }) where
  exclusive := hexclusive
  value_eq e' _ := value_modify_eq (f := fun d => { d with lock := l }) (fun _ => rfl) e'
  keyOf?_eq e' _ hk :=
    (keyOf?_modify (f := fun d => { d with lock := l }) (fun _ => rfl) e').trans hk
  readers_le := hle

/-- A reader enters a lock without a writer. -/
lemma guards_tryRead (h : t.tryRead e = some t') : Guards t t' := by
  have htally := tally_tryRead h
  obtain ⟨c, hc, hw, rfl⟩ := tryRead_eq_some h
  refine .enter _ (fun ht e' he' => ?_) fun e' => ?_
  · rw [htally, if_neg (fun h => nomatch h.2)] at he'
    have hne : e' ≠ e := by
      rintro rfl
      simp [tally, hc, Entry.tally, hw] at he'
    rw [htally, if_neg (fun h => hne h.1)]
    exact ht e' he'
  · rw [htally]
    exact Nat.le_add_right _ _

/-- A reader that enters changes no value. -/
lemma settles_tryRead (h : t.tryRead e = some t') : Settles t t' := by
  have guards := guards_tryRead h
  obtain ⟨c, -, -, rfl⟩ := tryRead_eq_some h
  exact ⟨guards.exclusive, value_modify_eq fun _ => rfl, guards.keyOf?_eq⟩

/-- A writer enters a lock with nobody inside. -/
lemma guards_tryWrite (h : t.tryWrite e = some t') : Guards t t' := by
  have htally := tally_tryWrite h
  obtain ⟨c, hc, -, hr, rfl⟩ := tryWrite_eq_some h
  refine .enter _ (fun ht e' he' => ?_) fun e' => ?_
  · rw [htally, if_neg (fun h => nomatch h.2), Nat.add_zero]
    by_cases he : e' = e
    · subst he
      rw [tally, hc]
      exact hr
    · rw [htally, if_neg (fun h => he h.1)] at he'
      exact ht e' he'
  · rw [htally]
    exact Nat.le_add_right _ _

/-! ### Changes of a value -/

/-- **A value that nobody reads may change.** -/
lemma Guards.modify {f : Entry K → Entry K} (hkey : ∀ c, (f c).key = c.key)
    (hlock : ∀ c, (f c).lock = c.lock) (hr : t.tally e .readLock = 0) :
    Guards t (t.modify e f) := by
  have htally := fun e' p hp => tally_modify_of_lock (t := t) (p := p) hlock hp e e'
  refine ⟨⟨fun ht => ht.of_tally (fun e' => le_of_eq (htally e' _ nofun))
    fun e' => le_of_eq (htally e' _ nofun), fun e' he' => value_modify_of_ne ?_,
    fun e' _ hk => (keyOf?_modify hkey e').trans hk⟩, fun e' => ge_of_eq (htally e' _ nofun)⟩
  rintro rfl
  exact Nat.lt_irrefl 0 (hr ▸ he')

/-- Readers are guarded whatever the budget becomes. -/
lemma Guards.of_budget (h : Guards t t') (b : Budget) : Guards t { t' with budget := b } :=
  have settles : Settles t' { t' with budget := b } := .of_cells rfl
  h.trans (settles.guards fun _ => le_refl _)

/-- A value that nobody reads may be set. -/
lemma guards_setValue (hr : t.tally e .readLock = 0) (b : Bytes) : Guards t (t.setValue e b) :=
  .modify (fun _ => rfl) (fun _ => rfl) hr

/-- A value that nobody reads may change its length. -/
lemma guards_resizeValue (hr : t.tally e .readLock = 0) {n : UInt64}
    (h : t.resizeValue e n = .ok t') : Guards t t' := by
  obtain ⟨b, -, rfl⟩ := resizeValue_ok h
  exact (Guards.modify (f := Entry.fitted n.toNat) (fun _ => rfl) (fun _ => rfl) hr).of_budget b

/-- A value that nobody reads may be appended to. -/
lemma guards_appendValue (hr : t.tally e .readLock = 0) {bytes : Bytes}
    (h : t.appendValue e bytes = .ok t') : Guards t t' := by
  obtain ⟨b, -, rfl⟩ := appendValue_ok h
  exact (Guards.modify (f := Entry.extended bytes) (fun _ => rfl) (fun _ => rfl) hr).of_budget b

/-! ### Opens -/

/-- A lock that its writer has just entered has no reader inside. -/
lemma readers_tryWrite (h : t.tryWrite e = some t') : t'.tally e .readLock = 0 := by
  have htally := tally_tryWrite h e .readLock
  obtain ⟨c, hc, -, hr, -⟩ := tryWrite_eq_some h
  rw [htally, if_neg (fun h => nomatch h.2), Nat.add_zero, tally, hc]
  exact hr

section Opens

variable {κ : Type} {t t' : EntryTable (Key κ)} {n : UInt64}

/-- A read-only mapping changes no value, and finds the bytes that it shows. -/
lemma settles_lockFor [ToString κ] (h : t.lockFor e n true = .ok t') :
    Settles t t' ∧ n.toNat ≤ (t'.value e).size := by
  obtain ⟨hl, hn⟩ := lockFor_readOnly h
  have settles := settles_tryRead hl
  exact ⟨settles, settles.value_eq e ▸ hn⟩

/-- A mapping that is locked guards the readers: it changes the length only where it is the only
one. -/
lemma guards_lockFor [ToString κ] {readOnly : Bool} (h : t.lockFor e n readOnly = .ok t') :
    Guards t t' := by
  cases readOnly with
  | true => exact guards_tryRead (lockFor_readOnly h).1
  | false =>
    obtain ⟨locked, hl, hr⟩ := lockFor_writable h
    exact (guards_tryWrite hl).trans (guards_resizeValue (readers_tryWrite hl) hr)

/-- A writer that is locked guards the readers: it empties the value only where it is the only
one. -/
lemma guards_lockForWriter {identifier : String} {append : Bool}
    (h : t.lockForWriter e identifier append = .ok t') : Guards t t' := by
  unfold lockForWriter at h
  split at h
  · cases h
  · next locked hl =>
    split at h
    · obtain rfl := Except.ok.inj h
      exact guards_tryWrite hl
    · exact (guards_tryWrite hl).trans (guards_resizeValue (readers_tryWrite hl) h)

variable [DecidableEq κ] {identifier : String}
  {lock : EntryTable (Key κ) → EntryId → Except ContentError (EntryTable (Key κ))}

/-- A borrow lets nobody out. -/
lemma guards_getOrInsert {key : Key κ} (h : t.getOrInsert key = .ok (e, t')) : Guards t t' := by
  refine (settles_getOrInsert h).1.guards fun e' => ?_
  rw [tally_getOrInsert h]
  exact Nat.le_add_right _ _

/-- **An open that succeeds** guards the readers, and its entry was made under the identifier. -/
lemma guards_withEntry_ok (hlock : ∀ {t t' e}, lock t e = .ok t' → Guards t t')
    (h : Store.withEntry t identifier lock = (t', .ok e)) :
    Guards t t' ∧ t'.keyOf? e = some (.text identifier) := by
  obtain ⟨b, hg, hl⟩ := withEntry_ok h
  exact ⟨(guards_getOrInsert hg).trans (hlock hl),
    (hlock hl).keyOf?_eq e _ (settles_getOrInsert hg).2⟩

/-- **An open that fails** changes no value. -/
lemma settles_withEntry_error {x : ContentError}
    (h : Store.withEntry t identifier lock = (t', .error x)) : Settles t t' := by
  rcases withEntry_error h with rfl | ⟨e, b, hg, rfl | rfl⟩
  · exact .refl _
  · exact (settles_getOrInsert hg).1.trans (settles_dropOwner b e)
  · exact ((settles_getOrInsert hg).1.trans (settles_dropOwner b e)).trans (settles_remove _ _)

end Opens

end ClaimStore.EntryTable
