import Mathlib.Algebra.Order.BigOperators.Group.List
import ClaimStore.EntryTable
import ClaimStore.Proofs.Budget

/-!
# The laws of entry tables

What every operation of an entry table does to the three things that an entry counts (its owners,
the readers and the writer inside its lock), and two properties of tables that all operations
keep. In a *regular* table the shown length of every value is its length, only stored entries
have owners, and no key is stored twice. In an *exact* table the budget has in use precisely the
bytes and the entries that are stored.

## Main definitions

* `ClaimStore.Share`, `EntryTable.tally` — what an entry counts.
* `EntryTable.storedBytes` — the bytes of all stored values.
* `EntryTable.Regular`, `EntryTable.Exact` — the two properties.

## Main results

* `EntryTable.tally_takeOwner`, `EntryTable.tally_tryRead`, `EntryTable.tally_tryWrite`,
  `EntryTable.tally_getOrInsert` — what is counted after each operation.
* `EntryTable.Regular.getOrInsert`, `EntryTable.Regular.remove` — regular tables stay regular.
* `EntryTable.Exact.getOrInsert`, `EntryTable.Exact.resizeValue`, `EntryTable.Exact.appendValue`,
  `EntryTable.Exact.remove` — exact tables stay exact.

## Design

Most operations change one entry, so the laws are stated for `EntryTable.modify` first. A sum over
all stored entries follows a change of one of them by `sum_map_modify`.
-/

set_option autoImplicit false

namespace ClaimStore

/-! ### One position of a list -/

/-- A sum over a list of which one element was changed. -/
lemma sum_map_modify {α : Type} (w : α → Nat) (f : α → α) (l : List α) (i : Nat) {a : α}
    (h : l[i]? = some a) : ((l.modify i f).map w).sum + w a = (l.map w).sum + w (f a) := by
  induction l generalizing i with
  | nil => simp at h
  | cons b l ih =>
    cases i with
    | zero =>
      obtain rfl : b = a := by simpa using h
      simp only [List.modify_zero_cons, List.map_cons, List.sum_cons]
      omega
    | succ i =>
      have hi := ih i (by simpa using h)
      simp only [List.modify_succ_cons, List.map_cons, List.sum_cons]
      omega

/-- An element of a list adds at most the whole sum. -/
lemma le_sum_map {α : Type} (w : α → Nat) {l : List α} {a : α} (h : a ∈ l) :
    w a ≤ (l.map w).sum :=
  List.le_sum_of_mem (List.mem_map_of_mem h)

/-- A change of one element that a search does not see. -/
lemma findIdx?_modify {α : Type} {p : α → Bool} {f : α → α} (hf : ∀ a, p (f a) = p a)
    (l : List α) (i : Nat) : (l.modify i f).findIdx? p = l.findIdx? p := by
  induction l generalizing i with
  | nil => rw [List.modify_nil]
  | cons a l ih =>
    cases i with
    | zero => simp only [List.modify_zero_cons, List.findIdx?_cons, hf]
    | succ i => simp only [List.modify_succ_cons, List.findIdx?_cons, ih i]

/-! ### What an entry counts -/

/-- The sorts of share in an entry that the entry counts. -/
inductive Share where
  /-- An ownership. -/
  | owner
  /-- A place as a reader inside the lock. -/
  | readLock
  /-- The place of the writer inside the lock. -/
  | writeLock
  deriving DecidableEq, Repr

/-- The shares of an entry that are given out. -/
def Entry.tally {K : Type} (c : Entry K) : Share → Nat
  | .owner => c.owners
  | .readLock => c.lock.readers
  | .writeLock => if c.lock.writer then 1 else 0

/-- The entry whose value was cut or padded to `n` bytes. -/
def Entry.fitted {K : Type} (n : Nat) (c : Entry K) : Entry K :=
  { c with value := c.value.fit n, len := n }

/-- The entry whose value was added to. -/
def Entry.extended {K : Type} (b : Bytes) (c : Entry K) : Entry K :=
  { c with value := c.value ++ b, len := (c.value ++ b).size }

namespace EntryTable

variable {K : Type}

/-- The shares of an entry that are given out, none if there is no such entry. -/
def tally (t : EntryTable K) (e : EntryId) (p : Share) : Nat :=
  match t.cells[e]? with
  | some c => c.tally p
  | none => 0

/-- The owners of an entry are its shares of that sort. -/
lemma tally_owner (t : EntryTable K) (e : EntryId) : t.tally e .owner = t.owners e := rfl

/-- The cells after a change of one of them. -/
lemma getElem?_modify (t : EntryTable K) (e e' : EntryId) (f : Entry K → Entry K) :
    (t.modify e f).cells[e']? =
      if e = e' then (t.cells[e']?).map f else t.cells[e']? := by
  rw [modify, List.getElem?_modify]
  split <;> simp

/-- A change of one entry adds none. -/
@[simp] lemma length_modify (t : EntryTable K) (e : EntryId) (f : Entry K → Entry K) :
    (t.modify e f).cells.length = t.cells.length := by
  simp [modify]

/-- The shares after a change of one entry that adds `k` shares of the sort `q`. -/
lemma tally_modify_add {t : EntryTable K} {e : EntryId} {f : Entry K → Entry K} {q : Share}
    (hf : ∀ c ∈ t.cells, ∀ p, (f c).tally p = c.tally p + if p = q then 1 else 0)
    (he : e < t.cells.length) (e' : EntryId) (p : Share) :
    (t.modify e f).tally e' p = t.tally e' p + if e' = e ∧ p = q then 1 else 0 := by
  unfold tally
  rw [getElem?_modify]
  by_cases h : e = e'
  · subst h
    rw [if_pos rfl, List.getElem?_eq_getElem he]
    simpa using hf _ (List.getElem_mem he) p
  · rw [if_neg h, if_neg (fun h' => h h'.1.symm), Nat.add_zero]

/-- The shares after a change of one entry that takes one share of the sort `q` back. -/
lemma tally_modify_sub {t : EntryTable K} {e : EntryId} {f : Entry K → Entry K} {q : Share}
    (hf : ∀ c ∈ t.cells, ∀ p, (f c).tally p = c.tally p - if p = q then 1 else 0)
    (e' : EntryId) (p : Share) :
    (t.modify e f).tally e' p = t.tally e' p - if e' = e ∧ p = q then 1 else 0 := by
  unfold tally
  rw [getElem?_modify]
  by_cases h : e = e'
  · subst h
    rw [if_pos rfl]
    cases hc : t.cells[e]? with
    | none => simp
    | some c => simpa using hf c (List.mem_of_getElem? hc) p
  · rw [if_neg h, if_neg (fun h' => h h'.1.symm), Nat.sub_zero]

/-- The shares after a change of entries that gives none out and takes none back. -/
lemma tally_modify_eq {t : EntryTable K} {e : EntryId} {f : Entry K → Entry K}
    (hf : ∀ c ∈ t.cells, ∀ p, (f c).tally p = c.tally p) (e' : EntryId) (p : Share) :
    (t.modify e f).tally e' p = t.tally e' p := by
  unfold tally
  rw [getElem?_modify]
  by_cases h : e = e'
  · subst h
    rw [if_pos rfl]
    cases hc : t.cells[e]? with
    | none => rfl
    | some c => exact hf c (List.mem_of_getElem? hc) p
  · rw [if_neg h]

/-! ### Ownership and locks -/

/-- One more owner is counted at the entry that was taken, and nothing else. -/
lemma tally_takeOwner {t : EntryTable K} {e : EntryId} (he : e < t.cells.length) (e' : EntryId)
    (p : Share) :
    (t.takeOwner e).tally e' p = t.tally e' p + if e' = e ∧ p = .owner then 1 else 0 :=
  tally_modify_add (fun _ _ p => by cases p <;> rfl) he e' p

/-- One owner less is counted at the entry that was given back, and nothing else. -/
lemma tally_dropOwner (t : EntryTable K) (e e' : EntryId) (p : Share) :
    (t.dropOwner e).tally e' p = t.tally e' p - if e' = e ∧ p = .owner then 1 else 0 :=
  tally_modify_sub (fun _ _ p => by cases p <;> rfl) e' p

/-- One reader less is counted inside the lock that a reader leaves. -/
lemma tally_endRead (t : EntryTable K) (e e' : EntryId) (p : Share) :
    (t.endRead e).tally e' p = t.tally e' p - if e' = e ∧ p = .readLock then 1 else 0 :=
  tally_modify_sub (fun _ _ p => by cases p <;> rfl) e' p

/-- The lock that its writer leaves counts no writer. -/
lemma tally_endWrite (t : EntryTable K) (e e' : EntryId) (p : Share) :
    (t.endWrite e).tally e' p = t.tally e' p - if e' = e ∧ p = .writeLock then 1 else 0 := by
  refine tally_modify_sub (fun c _ p => ?_) e' p
  cases p with
  | owner => rfl
  | readLock => rfl
  | writeLock => cases hw : c.lock.writer <;> simp [Entry.tally, Lock.endWrite, hw]

/-- What it takes to enter a lock as a reader, and the table after it. -/
lemma tryRead_eq_some {t t' : EntryTable K} {e : EntryId} (h : t.tryRead e = some t') :
    ∃ c, t.cells[e]? = some c ∧ c.lock.writer = false ∧
      t' = t.modify e fun d =>
        { d with lock := { c.lock with readers := c.lock.readers + 1 } } := by
  unfold tryRead at h
  cases hc : t.cells[e]? with
  | none => rw [hc] at h; cases h
  | some c =>
    simp only [hc, Lock.tryRead] at h
    cases hw : c.lock.writer with
    | true => simp [hw] at h
    | false =>
      refine ⟨c, rfl, hw, ?_⟩
      simpa [hw] using h.symm

/-- What it takes to enter a lock as its writer, and the table after it. -/
lemma tryWrite_eq_some {t t' : EntryTable K} {e : EntryId} (h : t.tryWrite e = some t') :
    ∃ c, t.cells[e]? = some c ∧ c.lock.writer = false ∧ c.lock.readers = 0 ∧
      t' = t.modify e fun d => { d with lock := { c.lock with writer := true } } := by
  unfold tryWrite at h
  cases hc : t.cells[e]? with
  | none => rw [hc] at h; cases h
  | some c =>
    simp only [hc, Lock.tryWrite] at h
    by_cases hw : (c.lock.writer || c.lock.readers != 0) = true
    · simp [hw] at h
    · refine ⟨c, rfl, by simp_all, by simp_all, ?_⟩
      simpa [hw] using h.symm

/-- The shares after a change of the lock of one entry alone. -/
lemma tally_modify_lock {t : EntryTable K} {e : EntryId} {c : Entry K} (hc : t.cells[e]? = some c)
    (l : Lock) (e' : EntryId) (p : Share) :
    (t.modify e fun d => { d with lock := l }).tally e' p =
      if e' = e then ({ c with lock := l } : Entry K).tally p else t.tally e' p := by
  unfold tally
  rw [getElem?_modify]
  by_cases h : e = e'
  · subst h
    rw [if_pos rfl, if_pos rfl, hc]
    cases p <;> rfl
  · rw [if_neg h, if_neg (Ne.symm h)]

/-- **A reader that enters is counted**, and nothing else changes. -/
lemma tally_tryRead {t t' : EntryTable K} {e : EntryId} (h : t.tryRead e = some t')
    (e' : EntryId) (p : Share) :
    t'.tally e' p = t.tally e' p + if e' = e ∧ p = .readLock then 1 else 0 := by
  obtain ⟨c, hc, -, rfl⟩ := tryRead_eq_some h
  rw [tally_modify_lock hc]
  by_cases he : e' = e
  · subst he
    cases p <;> simp [tally, hc, Entry.tally]
  · simp [he]

/-- **A writer that enters is counted**, and nothing else changes. -/
lemma tally_tryWrite {t t' : EntryTable K} {e : EntryId} (h : t.tryWrite e = some t')
    (e' : EntryId) (p : Share) :
    t'.tally e' p = t.tally e' p + if e' = e ∧ p = .writeLock then 1 else 0 := by
  obtain ⟨c, hc, hw, -, rfl⟩ := tryWrite_eq_some h
  rw [tally_modify_lock hc]
  by_cases he : e' = e
  · subst he
    cases p <;> simp [tally, hc, Entry.tally, hw]
  · simp [he]

/-- The bytes of a value are no share. -/
lemma tally_setValue (t : EntryTable K) (e : EntryId) (b : Bytes) (e' : EntryId) (p : Share) :
    (t.setValue e b).tally e' p = t.tally e' p :=
  tally_modify_eq (fun _ _ p => by cases p <;> rfl) e' p

/-! ### Values under the budget -/

/-- A granted change of length: the new budget, and the one entry that is changed. -/
lemma resizeValue_ok {t t' : EntryTable K} {e : EntryId} {n : UInt64}
    (h : t.resizeValue e n = .ok t') :
    ∃ b, t.budget.adjust (UInt64.ofNat (t.value e).size) n = .ok b ∧
      t' = { t.modify e (Entry.fitted n.toNat) with budget := b } := by
  unfold resizeValue at h
  cases hb : t.budget.adjust (UInt64.ofNat (t.value e).size) n with
  | error x => rw [hb] at h; cases h
  | ok b =>
    rw [hb] at h
    exact ⟨b, rfl, (Except.ok.inj h).symm⟩

/-- A granted addition: the new budget, and the one entry that is changed. -/
lemma appendValue_ok {t t' : EntryTable K} {e : EntryId} {bytes : Bytes}
    (h : t.appendValue e bytes = .ok t') :
    ∃ b, t.budget.allocate (UInt64.ofNat bytes.size) = .ok b ∧
      t' = { t.modify e (Entry.extended bytes) with budget := b } := by
  unfold appendValue at h
  cases hb : t.budget.allocate (UInt64.ofNat bytes.size) with
  | error x => rw [hb] at h; cases h
  | ok b =>
    rw [hb] at h
    exact ⟨b, rfl, (Except.ok.inj h).symm⟩

/-- A change of length gives out no share. -/
lemma tally_resizeValue {t t' : EntryTable K} {e : EntryId} {n : UInt64}
    (h : t.resizeValue e n = .ok t') (e' : EntryId) (p : Share) :
    t'.tally e' p = t.tally e' p := by
  obtain ⟨b, -, rfl⟩ := resizeValue_ok h
  exact tally_modify_eq (t := t) (fun _ _ p => by cases p <;> rfl) e' p

/-- An addition gives out no share. -/
lemma tally_appendValue {t t' : EntryTable K} {e : EntryId} {bytes : Bytes}
    (h : t.appendValue e bytes = .ok t') (e' : EntryId) (p : Share) :
    t'.tally e' p = t.tally e' p := by
  obtain ⟨b, -, rfl⟩ := appendValue_ok h
  exact tally_modify_eq (t := t) (fun _ _ p => by cases p <;> rfl) e' p

/-! ### Stored entries -/

/-- The entry is in the table. -/
def Stored (t : EntryTable K) (e : EntryId) : Prop := ∃ c, t.cells[e]? = some c ∧ c.stored = true

/-- An entry that is stored is one of the entries. -/
lemma Stored.lt {t : EntryTable K} {e : EntryId} (h : t.Stored e) : e < t.cells.length := by
  obtain ⟨c, hc, -⟩ := h
  exact (List.getElem?_eq_some_iff.1 hc).1

/-- A change that keeps the marks of all entries keeps every entry in the table. -/
lemma Stored.modify {t : EntryTable K} {e e' : EntryId} (h : t.Stored e) {f : Entry K → Entry K}
    (hf : ∀ c, (f c).stored = c.stored) : (t.modify e' f).Stored e := by
  obtain ⟨c, hc, hs⟩ := h
  by_cases he : e' = e
  · exact ⟨f c, by rw [getElem?_modify, if_pos he, hc]; rfl, by rw [hf, hs]⟩
  · exact ⟨c, by rw [getElem?_modify, if_neg he, hc], hs⟩

/-- A property of one entry, a mark, a key or a counter, over the whole table: the shown length
of every value is its length, only stored entries have owners, and no key is stored twice. -/
structure Regular (t : EntryTable K) : Prop where
  /-- The shown length of a value is its length. -/
  len_eq : ∀ c ∈ t.cells, c.len = c.value.size
  /-- Only stored entries have owners. -/
  stored_of_owned : ∀ c ∈ t.cells, 0 < c.owners → c.stored = true
  /-- No key is stored twice. -/
  key_inj : ∀ (i j : EntryId) (c d : Entry K), t.cells[i]? = some c → t.cells[j]? = some d →
    c.stored = true → d.stored = true → c.key = d.key → i = j

/-- A table without entries is regular. -/
lemma regular_new (maxBytes maxCount : UInt64) :
    (new maxBytes maxCount : EntryTable K).Regular where
  len_eq := by simp [new]
  stored_of_owned := by simp [new]
  key_inj := by simp [new]

namespace Regular

/-- An entry with an owner is stored. -/
lemma stored {t : EntryTable K} (ht : t.Regular) {e : EntryId} (h : 0 < t.owners e) :
    t.Stored e := by
  unfold owners at h
  cases hc : t.cells[e]? with
  | none => simp [hc] at h
  | some c =>
    rw [hc] at h
    exact ⟨c, hc, ht.stored_of_owned c (List.mem_of_getElem? hc) h⟩

/-- The budget plays no part in a regular table. -/
lemma of_cells {t t' : EntryTable K} (ht : t.Regular) (h : t'.cells = t.cells) : t'.Regular where
  len_eq := by rw [h]; exact ht.len_eq
  stored_of_owned := by rw [h]; exact ht.stored_of_owned
  key_inj := by rw [h]; exact ht.key_inj

/-- **A change of one entry keeps a table regular** where it keeps the key, stores nothing anew,
shows the right length and leaves owners to a stored entry only. -/
lemma modify {t : EntryTable K} (ht : t.Regular) {e : EntryId} {f : Entry K → Entry K}
    (hkey : ∀ c, (f c).key = c.key) (hstored : ∀ c, (f c).stored = true → c.stored = true)
    (hlen : ∀ c, t.cells[e]? = some c → c.len = c.value.size → (f c).len = (f c).value.size)
    (howned : ∀ c, t.cells[e]? = some c → 0 < (f c).owners → (f c).stored = true) :
    (t.modify e f).Regular := by
  -- every cell is an old one, or the changed form of the old one at `e`
  have hcell : ∀ (i : EntryId) (d : Entry K), (t.modify e f).cells[i]? = some d →
      t.cells[i]? = some d ∨ ∃ c, t.cells[e]? = some c ∧ i = e ∧ d = f c := by
    intro i d hd
    rw [getElem?_modify] at hd
    by_cases hi : e = i
    · rw [if_pos hi] at hd
      obtain ⟨c, hc, rfl⟩ := Option.map_eq_some_iff.1 hd
      exact .inr ⟨c, hi ▸ hc, hi.symm, rfl⟩
    · rw [if_neg hi] at hd
      exact .inl hd
  refine ⟨fun d hd => ?_, fun d hd => ?_, fun i j d d' hi hj hsd hsd' hk => ?_⟩
  · obtain ⟨i, hi⟩ := List.getElem?_of_mem hd
    rcases hcell i d hi with h | ⟨c, hc, -, rfl⟩
    · exact ht.len_eq d (List.mem_of_getElem? h)
    · exact hlen c hc (ht.len_eq c (List.mem_of_getElem? hc))
  · obtain ⟨i, hi⟩ := List.getElem?_of_mem hd
    rcases hcell i d hi with h | ⟨c, hc, -, rfl⟩
    · exact ht.stored_of_owned d (List.mem_of_getElem? h)
    · exact howned c hc
  · -- the key of a cell and its mark can be read off the old cell at the same place
    have hold : ∀ (i : EntryId) (d : Entry K), (t.modify e f).cells[i]? = some d →
        d.stored = true →
        ∃ c, t.cells[i]? = some c ∧ c.stored = true ∧ c.key = d.key := by
      intro i d hd hs
      rcases hcell i d hd with h | ⟨c, hc, rfl, rfl⟩
      · exact ⟨d, h, hs, rfl⟩
      · exact ⟨c, hc, hstored c hs, (hkey c).symm⟩
    obtain ⟨c, hc, hsc, hkc⟩ := hold i d hi hsd
    obtain ⟨c', hc', hsc', hkc'⟩ := hold j d' hj hsd'
    exact ht.key_inj i j c c' hc hc' hsc hsc' (by rw [hkc, hkc', hk])

/-- A stored entry may get one more owner. -/
lemma takeOwner {t : EntryTable K} (ht : t.Regular) {e : EntryId} (he : t.Stored e) :
    (t.takeOwner e).Regular := by
  obtain ⟨c, hc, hs⟩ := he
  refine ht.modify (fun _ => rfl) (fun _ h => h) (fun _ _ h => h) fun d hd _ => ?_
  obtain rfl : c = d := Option.some.inj (hc.symm.trans hd)
  exact hs

/-- An owner may go. -/
lemma dropOwner {t : EntryTable K} (ht : t.Regular) (e : EntryId) : (t.dropOwner e).Regular := by
  refine ht.modify (fun _ => rfl) (fun _ h => h) (fun _ _ h => h) fun c hc ho => ?_
  exact ht.stored_of_owned c (List.mem_of_getElem? hc) (Nat.lt_of_lt_of_le ho (Nat.sub_le _ _))

/-- The lock of an entry may change. -/
lemma modify_lock {t : EntryTable K} (ht : t.Regular) (e : EntryId) (l : Entry K → Lock) :
    (t.modify e fun c => { c with lock := l c }).Regular :=
  ht.modify (fun _ => rfl) (fun _ h => h) (fun _ _ h => h)
    fun c hc ho => ht.stored_of_owned c (List.mem_of_getElem? hc) ho

/-- A table stays regular when a reader is let in. -/
lemma tryRead {t t' : EntryTable K} (ht : t.Regular) {e : EntryId} (h : t.tryRead e = some t') :
    t'.Regular := by
  obtain ⟨c, -, -, rfl⟩ := tryRead_eq_some h
  exact ht.modify_lock e _

/-- It stays regular when a writer is let in. -/
lemma tryWrite {t t' : EntryTable K} (ht : t.Regular) {e : EntryId} (h : t.tryWrite e = some t') :
    t'.Regular := by
  obtain ⟨c, -, -, -, rfl⟩ := tryWrite_eq_some h
  exact ht.modify_lock e _

/-- A value may be replaced by one that is as long. -/
lemma setValue {t : EntryTable K} (ht : t.Regular) {e : EntryId} {b : Bytes}
    (h : b.size = (t.value e).size) : (t.setValue e b).Regular := by
  refine ht.modify (fun _ => rfl) (fun _ h => h) (fun c hc hlen => ?_)
    fun c hc ho => ht.stored_of_owned c (List.mem_of_getElem? hc) ho
  rw [value, hc] at h
  exact hlen.trans h.symm

/-- A value may be cut or padded under the budget. -/
lemma resizeValue {t t' : EntryTable K} (ht : t.Regular) {e : EntryId} {n : UInt64}
    (h : t.resizeValue e n = .ok t') : t'.Regular := by
  obtain ⟨b, -, rfl⟩ := resizeValue_ok h
  refine of_cells (t := t.modify e (Entry.fitted n.toNat))
    (ht.modify (fun _ => rfl) (fun _ h => h) (fun c _ _ => ?_)
      fun c hc ho => ht.stored_of_owned c (List.mem_of_getElem? hc) ho) rfl
  exact (Bytes.size_fit _ _).symm

/-- A value may be added to under the budget. -/
lemma appendValue {t t' : EntryTable K} (ht : t.Regular) {e : EntryId} {bytes : Bytes}
    (h : t.appendValue e bytes = .ok t') : t'.Regular := by
  obtain ⟨b, -, rfl⟩ := appendValue_ok h
  exact of_cells (t := t.modify e (Entry.extended bytes))
    (ht.modify (fun _ => rfl) (fun _ h => h) (fun _ _ _ => rfl)
      fun c hc ho => ht.stored_of_owned c (List.mem_of_getElem? hc) ho) rfl

end Regular

/-! ### Look-ups -/

section Lookup

variable [DecidableEq K]

/-- What is found under a key is stored under it. -/
lemma find?_eq_some {t : EntryTable K} {key : K} {e : EntryId} (h : t.find? key = some e) :
    ∃ c, t.cells[e]? = some c ∧ c.stored = true ∧ c.key = key := by
  obtain ⟨he, hc, -⟩ := List.findIdx?_eq_some_iff_getElem.1 h
  have hboth : (t.cells[e]).stored = true ∧ (t.cells[e]).key = key := by simpa using hc
  exact ⟨t.cells[e], List.getElem?_eq_getElem he, hboth⟩

/-- An entry that is found is stored. -/
lemma stored_of_find? {t : EntryTable K} {key : K} {e : EntryId} (h : t.find? key = some e) :
    t.Stored e := by
  obtain ⟨c, hc, hs, -⟩ := find?_eq_some h
  exact ⟨c, hc, hs⟩

/-- Nothing is found under a key exactly where nothing is stored under it. -/
lemma find?_eq_none_iff {t : EntryTable K} {key : K} :
    t.find? key = none ↔ ∀ c ∈ t.cells, c.stored = true → c.key ≠ key := by
  simp [find?, List.findIdx?_eq_none_iff]

/-- **An entry that is stored is the one found under its key.** -/
lemma Regular.find?_eq {t : EntryTable K} (ht : t.Regular) {e : EntryId} {c : Entry K}
    (hc : t.cells[e]? = some c) (hs : c.stored = true) : t.find? c.key = some e := by
  cases h : t.find? c.key with
  | none => exact absurd rfl (find?_eq_none_iff.1 h c (List.mem_of_getElem? hc) hs)
  | some e' =>
    obtain ⟨c', hc', hs', hk⟩ := find?_eq_some h
    exact congrArg some (ht.key_inj e' e c' c hc' hc hs' hs hk)

/-- A change of one entry that keeps its key and its mark changes no look-up. -/
lemma find?_modify (t : EntryTable K) (e : EntryId) {f : Entry K → Entry K}
    (hkey : ∀ c, (f c).key = c.key) (hstored : ∀ c, (f c).stored = c.stored) (key : K) :
    (t.modify e f).find? key = t.find? key := by
  refine findIdx?_modify (fun c => ?_) t.cells e
  rw [hkey, hstored]

end Lookup

/-! ### Insertion -/

/-- The table with one more entry, which nobody owns. -/
def insertNew (t : EntryTable K) (key : K) (b : Budget) : EntryTable K :=
  { cells := t.cells ++ [Entry.new key], budget := b }

/-- A new entry gives out no share. -/
@[simp] lemma tally_insertNew (t : EntryTable K) (key : K) (b : Budget) (e : EntryId) (p : Share) :
    (t.insertNew key b).tally e p = t.tally e p := by
  unfold tally insertNew
  rcases Nat.lt_trichotomy e t.cells.length with h | h | h
  · rw [List.getElem?_append_left h]
  · subst h
    simp only [List.getElem?_concat_length, List.getElem?_eq_none (Nat.le_refl _)]
    cases p <;> rfl
  · rw [List.getElem?_eq_none (by simp; omega), List.getElem?_eq_none (by omega)]

/-- The new entry is stored. -/
lemma stored_insertNew (t : EntryTable K) (key : K) (b : Budget) :
    (t.insertNew key b).Stored t.cells.length :=
  ⟨Entry.new key, List.getElem?_concat_length, rfl⟩

variable [DecidableEq K]

/-- A new entry keeps a table regular, where its key was not stored. -/
lemma Regular.insertNew {t : EntryTable K} (ht : t.Regular) {key : K} (h : t.find? key = none)
    (b : Budget) : (t.insertNew key b).Regular := by
  have hfresh := find?_eq_none_iff.1 h
  -- a cell is an old one at the same place, or the new one at the end
  have hcell : ∀ (i : EntryId) (c : Entry K), (t.insertNew key b).cells[i]? = some c →
      t.cells[i]? = some c ∨ (i = t.cells.length ∧ c = Entry.new key) := by
    intro i c hc
    rcases Nat.lt_or_ge i t.cells.length with hi | hi
    · rw [EntryTable.insertNew, List.getElem?_append_left hi] at hc
      exact .inl hc
    · rw [EntryTable.insertNew, List.getElem?_append_right hi] at hc
      rw [List.getElem?_singleton] at hc
      split at hc
      · next h0 =>
        exact .inr ⟨Nat.le_antisymm (Nat.sub_eq_zero_iff_le.1 h0) hi, (Option.some.inj hc).symm⟩
      · cases hc
  have hmem : ∀ c ∈ (t.insertNew key b).cells, c ∈ t.cells ∨ c = Entry.new key := by
    intro c hc
    simpa [EntryTable.insertNew] using hc
  refine ⟨fun c hc => ?_, fun c hc ho => ?_, fun i j c d hi hj hsc hsd hk => ?_⟩
  · rcases hmem c hc with h | rfl
    · exact ht.len_eq c h
    · rfl
  · rcases hmem c hc with h | rfl
    · exact ht.stored_of_owned c h ho
    · rfl
  · rcases hcell i c hi with hi | ⟨rfl, rfl⟩ <;> rcases hcell j d hj with hj | ⟨rfl, rfl⟩
    · exact ht.key_inj i j c d hi hj hsc hsd hk
    · exact absurd hk (hfresh c (List.mem_of_getElem? hi) hsc)
    · exact absurd hk.symm (hfresh d (List.mem_of_getElem? hj) hsd)
    · rfl

/-- A borrow under a key: the entry that is found, or a new one where none is. -/
lemma getOrInsert_ok {t t' : EntryTable K} {key : K} {e : EntryId}
    (h : t.getOrInsert key = .ok (e, t')) :
    (t.find? key = some e ∧ t' = t.takeOwner e) ∨
      (t.find? key = none ∧ e = t.cells.length ∧
        ∃ b, t.budget.admitEntry = .ok b ∧ t' = (t.insertNew key b).takeOwner e) := by
  unfold getOrInsert borrow at h
  cases hf : t.find? key with
  | some e' =>
    simp only [hf, Option.map_some, Except.ok.injEq, Prod.mk.injEq] at h
    obtain ⟨rfl, rfl⟩ := h
    exact .inl ⟨rfl, rfl⟩
  | none =>
    simp only [hf, Option.map_none] at h
    cases hb : t.budget.admitEntry with
    | error x => simp [hb] at h
    | ok b =>
      simp only [hb, Except.ok.injEq, Prod.mk.injEq] at h
      obtain ⟨rfl, rfl⟩ := h
      exact .inr ⟨rfl, rfl, b, rfl, rfl⟩

/-- What is borrowed is stored. -/
lemma stored_getOrInsert {t t' : EntryTable K} {key : K} {e : EntryId}
    (h : t.getOrInsert key = .ok (e, t')) : t'.Stored e := by
  rcases getOrInsert_ok h with ⟨hf, rfl⟩ | ⟨-, rfl, b, -, rfl⟩
  · exact (stored_of_find? hf).modify fun _ => rfl
  · exact (stored_insertNew t key b).modify fun _ => rfl

/-- **A borrow is counted**, whether its entry is new or not, and nothing else changes. -/
lemma tally_getOrInsert {t t' : EntryTable K} {key : K} {e : EntryId}
    (h : t.getOrInsert key = .ok (e, t')) (e' : EntryId) (p : Share) :
    t'.tally e' p = t.tally e' p + if e' = e ∧ p = .owner then 1 else 0 := by
  rcases getOrInsert_ok h with ⟨hf, rfl⟩ | ⟨-, rfl, b, -, rfl⟩
  · exact tally_takeOwner (stored_of_find? hf).lt e' p
  · rw [tally_takeOwner (stored_insertNew t key b).lt, tally_insertNew]

/-- A table stays regular when an entry is borrowed, which may be made. -/
lemma Regular.getOrInsert {t t' : EntryTable K} (ht : t.Regular) {key : K} {e : EntryId}
    (h : t.getOrInsert key = .ok (e, t')) : t'.Regular := by
  rcases getOrInsert_ok h with ⟨hf, rfl⟩ | ⟨hf, rfl, b, -, rfl⟩
  · exact ht.takeOwner (stored_of_find? hf)
  · exact (ht.insertNew hf b).takeOwner (stored_insertNew t key b)

/-- A borrow of a stored entry takes an ownership of it. -/
lemma borrow_eq_some {t t' : EntryTable K} {key : K} {e : EntryId}
    (h : t.borrow key = some (e, t')) : t.find? key = some e ∧ t' = t.takeOwner e := by
  unfold borrow at h
  cases hf : t.find? key with
  | none => simp [hf] at h
  | some e' =>
    simp only [hf, Option.map_some, Option.some.injEq, Prod.mk.injEq] at h
    obtain ⟨rfl, rfl⟩ := h
    exact ⟨rfl, rfl⟩

/-! ### Removal -/

/-- The table without an entry, whose bytes and place in the budget are given back. -/
def takeOut (t : EntryTable K) (e : EntryId) : EntryTable K :=
  { t.modify e (fun c => { c with stored := false }) with
    budget := (t.budget.release (UInt64.ofNat (t.len e))).retireEntry }

/-- The three outcomes of a removal. -/
lemma remove_cases (t : EntryTable K) (key : K) :
    (t.find? key = none ∧ t.remove key = (.absent, t)) ∨
      (∃ e, t.find? key = some e ∧ 0 < t.owners e ∧
        t.remove key = (.owned (t.owners e), t)) ∨
      ∃ e, t.find? key = some e ∧ t.owners e = 0 ∧ t.remove key = (.removed, t.takeOut e) := by
  unfold remove
  cases hf : t.find? key with
  | none => exact .inl ⟨rfl, rfl⟩
  | some e =>
    rcases Nat.eq_zero_or_pos (t.owners e) with ho | ho
    · refine .inr (.inr ⟨e, rfl, ho, ?_⟩)
      simp only [ho, Nat.lt_irrefl, if_false]
      rfl
    · exact .inr (.inl ⟨e, rfl, ho, by simp only [ho, if_true]⟩)

omit [DecidableEq K] in
/-- Taking an entry out of the table takes no share back. -/
@[simp] lemma tally_takeOut (t : EntryTable K) (e e' : EntryId) (p : Share) :
    (t.takeOut e).tally e' p = t.tally e' p :=
  tally_modify_eq (t := t) (f := fun c => { c with stored := false })
    (fun _ _ p => by cases p <;> rfl) e' p

omit [DecidableEq K] in
/-- An entry that nobody owns may be taken out. -/
lemma Regular.takeOut {t : EntryTable K} (ht : t.Regular) {e : EntryId} (h : t.owners e = 0) :
    (t.takeOut e).Regular := by
  refine of_cells (t := t.modify e fun c => { c with stored := false })
    (ht.modify (fun _ => rfl) (fun _ h => nomatch h) (fun _ _ h => h) fun c hc ho => ?_) rfl
  rw [owners, hc] at h
  exact absurd ho (Nat.not_lt.2 (Nat.le_of_eq h))

/-- A removal gives out no share and takes none back. -/
@[simp] lemma tally_remove (t : EntryTable K) (key : K) (e : EntryId) (p : Share) :
    (t.remove key).2.tally e p = t.tally e p := by
  rcases t.remove_cases key with ⟨-, h⟩ | ⟨e', -, -, h⟩ | ⟨e', -, -, h⟩
  · rw [h]
  · rw [h]
  · rw [h]
    exact tally_takeOut t e' e p

/-- It stays regular when an entry is taken out. -/
lemma Regular.remove {t : EntryTable K} (ht : t.Regular) (key : K) : (t.remove key).2.Regular := by
  rcases t.remove_cases key with ⟨-, h⟩ | ⟨e, -, -, h⟩ | ⟨e, -, ho, h⟩
  · rw [h]
    exact ht
  · rw [h]
    exact ht
  · rw [h]
    exact ht.takeOut ho

end EntryTable

end ClaimStore
