import ClaimStore.Proofs.EntryTable

/-!
# The bytes of entry tables

In an *exact* table the budget has in use precisely the bytes and the entries that are stored.
Every operation keeps a table exact that changes a length or the set of entries, and each moves
the counters of the budget by just what it changes.

## Main definitions

* `EntryTable.entries`, `EntryTable.storedBytes` — the stored entries and their bytes.
* `EntryTable.Exact` — the budget has in use what is stored.
* `EntryTable.Sound` — a table that is regular and exact.

## Main results

* `EntryTable.Exact.resizeValue`, `EntryTable.Exact.appendValue` — changes of a stored value.
* `EntryTable.Exact.getOrInsert`, `EntryTable.Exact.remove` — changes of the set of entries.
* `EntryTable.Exact.size_value_le`, `EntryTable.Exact.entries_pos` — what can be given back is in
  use.
-/

set_option autoImplicit false

namespace ClaimStore

/-- The bytes of an entry that count for its table. -/
def Entry.storedSize {K : Type} (c : Entry K) : Nat := if c.stored then c.value.size else 0

/-- One for an entry that counts for its table. -/
def Entry.storedCount {K : Type} (c : Entry K) : Nat := if c.stored then 1 else 0

namespace EntryTable

variable {K : Type}

/-- The entries in a table. -/
def entries (t : EntryTable K) : List (Entry K) := t.cells.filter (·.stored)

/-- The bytes of all values in a table. -/
def storedBytes (t : EntryTable K) : Nat := (t.entries.map (·.value.size)).sum

/-- The stored bytes as a sum over all entries ever made. -/
lemma storedBytes_eq_sum (t : EntryTable K) :
    t.storedBytes = (t.cells.map Entry.storedSize).sum := by
  unfold storedBytes entries
  induction t.cells with
  | nil => rfl
  | cons c l ih =>
    cases hs : c.stored with
    | true => simp [hs, ih, Entry.storedSize]
    | false => simp [hs, ih, Entry.storedSize]

/-- The number of entries as a sum over all entries ever made. -/
lemma size_eq_sum (t : EntryTable K) : t.size = (t.cells.map Entry.storedCount).sum := by
  unfold size
  induction t.cells with
  | nil => rfl
  | cons c l ih =>
    cases hs : c.stored with
    | true => simp [hs, ih, Entry.storedCount, Nat.add_comm]
    | false => simp [hs, ih, Entry.storedCount]

/-- A change of one entry that keeps a weight keeps the sum of it. -/
lemma sum_map_modify_eq (w : Entry K → Nat) (t : EntryTable K) (e : EntryId)
    (f : Entry K → Entry K) (hf : ∀ c, t.cells[e]? = some c → w (f c) = w c) :
    ((t.modify e f).cells.map w).sum = (t.cells.map w).sum := by
  cases hc : t.cells[e]? with
  | none =>
    have hlen : t.cells.length ≤ e := List.getElem?_eq_none_iff.1 hc
    rw [modify, List.modify_eq_self hlen]
  | some c =>
    have hsum := sum_map_modify w f t.cells e hc
    rw [hf c hc] at hsum
    exact Nat.add_right_cancel hsum

/-- The budget has in use precisely what is stored, and that is within its limits. -/
structure Exact (t : EntryTable K) : Prop where
  /-- What is in use is at most what the limits allow. -/
  within : t.budget.Within
  /-- The bytes in use are the bytes that are stored. -/
  bytes_eq : t.budget.bytesUsed.toNat = t.storedBytes
  /-- The entries in use are the entries that are stored. -/
  entries_eq : t.budget.entries.toNat = t.size

/-- A table without entries is exact. -/
lemma exact_new (maxBytes maxCount : UInt64) : (new maxBytes maxCount : EntryTable K).Exact :=
  ⟨Budget.within_new maxBytes maxCount, rfl, rfl⟩

namespace Exact

/-! ### What is in use -/

/-- The bytes of a stored value are in use. -/
lemma size_value_le {t : EntryTable K} (ht : t.Exact) {e : EntryId} (he : t.Stored e) :
    (t.value e).size ≤ t.budget.bytesUsed.toNat := by
  obtain ⟨c, hc, hs⟩ := he
  have hw : c.storedSize = (t.value e).size := by
    rw [Entry.storedSize, if_pos hs, value, hc]
  rw [ht.bytes_eq, storedBytes_eq_sum, ← hw]
  exact le_sum_map Entry.storedSize (List.mem_of_getElem? hc)

/-- A stored value is no longer than a word can say. -/
lemma size_value_lt {t : EntryTable K} (ht : t.Exact) {e : EntryId} (he : t.Stored e) :
    (t.value e).size < 2 ^ 64 :=
  Nat.lt_of_le_of_lt (ht.size_value_le he) t.budget.bytesUsed.toNat_lt

/-- While an entry is stored, some entry is in use. -/
lemma entries_pos {t : EntryTable K} (ht : t.Exact) {e : EntryId} (he : t.Stored e) :
    1 ≤ t.budget.entries.toNat := by
  obtain ⟨c, hc, hs⟩ := he
  have hw : c.storedCount = 1 := by rw [Entry.storedCount, if_pos hs]
  rw [ht.entries_eq, size_eq_sum, ← hw]
  exact le_sum_map Entry.storedCount (List.mem_of_getElem? hc)

/-! ### Changes of one entry -/

/-- **A change of one entry keeps a table exact** where it changes no length and no mark. -/
lemma modify {t : EntryTable K} (ht : t.Exact) {e : EntryId} {f : Entry K → Entry K}
    (hstored : ∀ c, (f c).stored = c.stored)
    (hsize : ∀ c, t.cells[e]? = some c → (f c).value.size = c.value.size) :
    (t.modify e f).Exact := by
  refine ⟨ht.within, ?_, ?_⟩
  · have hsum := sum_map_modify_eq Entry.storedSize t e f fun c hc => by
      simp only [Entry.storedSize, hstored, hsize c hc]
    rw [storedBytes_eq_sum, hsum, ← storedBytes_eq_sum]
    exact ht.bytes_eq
  · have hsum := sum_map_modify_eq Entry.storedCount t e f fun c _ => by
      simp only [Entry.storedCount, hstored]
    rw [size_eq_sum, hsum, ← size_eq_sum]
    exact ht.entries_eq

/-- An owner that is counted changes no bytes. -/
lemma takeOwner {t : EntryTable K} (ht : t.Exact) (e : EntryId) : (t.takeOwner e).Exact :=
  ht.modify (fun _ => rfl) fun _ _ => rfl

/-- Nor does an owner that leaves. -/
lemma dropOwner {t : EntryTable K} (ht : t.Exact) (e : EntryId) : (t.dropOwner e).Exact :=
  ht.modify (fun _ => rfl) fun _ _ => rfl

/-- The lock of an entry may change. -/
lemma modify_lock {t : EntryTable K} (ht : t.Exact) (e : EntryId) (l : Entry K → Lock) :
    (t.modify e fun c => { c with lock := l c }).Exact :=
  ht.modify (fun _ => rfl) fun _ _ => rfl

/-- Nor does a reader. -/
lemma tryRead {t t' : EntryTable K} (ht : t.Exact) {e : EntryId} (h : t.tryRead e = some t') :
    t'.Exact := by
  obtain ⟨c, -, -, rfl⟩ := tryRead_eq_some h
  exact ht.modify_lock e _

/-- Nor does a writer that is let in. -/
lemma tryWrite {t t' : EntryTable K} (ht : t.Exact) {e : EntryId} (h : t.tryWrite e = some t') :
    t'.Exact := by
  obtain ⟨c, -, -, -, rfl⟩ := tryWrite_eq_some h
  exact ht.modify_lock e _

/-- A value may be replaced by one that is as long. -/
lemma setValue {t : EntryTable K} (ht : t.Exact) {e : EntryId} {b : Bytes}
    (h : b.size = (t.value e).size) : (t.setValue e b).Exact := by
  refine ht.modify (fun _ => rfl) fun c hc => ?_
  rw [value, hc] at h
  exact h

/-! ### Changes of a length -/

/-- The stored bytes after a stored value was replaced. -/
lemma storedBytes_modify {t : EntryTable K} {e : EntryId} {f : Entry K → Entry K}
    (he : t.Stored e) (hstored : ∀ c, (f c).stored = c.stored) :
    (t.modify e f).storedBytes + (t.value e).size =
      t.storedBytes + ((t.modify e f).value e).size := by
  obtain ⟨c, hc, hs⟩ := he
  have hsum := sum_map_modify Entry.storedSize f t.cells e hc
  have hnew : (t.modify e f).cells[e]? = some (f c) := by rw [getElem?_modify, if_pos rfl, hc]; rfl
  simp only [Entry.storedSize, hstored, hs, if_true] at hsum
  rw [storedBytes_eq_sum, storedBytes_eq_sum, value, value, hc, hnew]
  exact hsum

/-- The budget may move with the bytes of one stored value. -/
lemma modify_budget {t : EntryTable K} (ht : t.Exact) {e : EntryId} (he : t.Stored e)
    {f : Entry K → Entry K} (hstored : ∀ c, (f c).stored = c.stored) {b : Budget}
    (hb : b.Within) (hentries : b.entries = t.budget.entries)
    (hbytes : b.bytesUsed.toNat + (t.value e).size =
      t.budget.bytesUsed.toNat + ((t.modify e f).value e).size) :
    ({ t.modify e f with budget := b } : EntryTable K).Exact := by
  refine ⟨hb, ?_, ?_⟩
  · have hsum := storedBytes_modify he hstored
    have hold := ht.bytes_eq
    show b.bytesUsed.toNat = (t.modify e f).storedBytes
    omega
  · have hsum := sum_map_modify_eq Entry.storedCount t e f fun c _ => by
      simp only [Entry.storedCount, hstored]
    show b.entries.toNat = (t.modify e f).size
    rw [size_eq_sum, hsum, ← size_eq_sum, hentries]
    exact ht.entries_eq

/-- **A stored value may be cut or padded under the budget.** -/
lemma resizeValue {t t' : EntryTable K} (ht : t.Exact) {e : EntryId} (he : t.Stored e)
    {n : UInt64} (h : t.resizeValue e n = .ok t') : t'.Exact := by
  obtain ⟨b, hb, rfl⟩ := resizeValue_ok h
  have hword : (UInt64.ofNat (t.value e).size).toNat = (t.value e).size :=
    UInt64.toNat_ofNat_of_lt' (ht.size_value_lt he)
  obtain ⟨hbytes, hentries, -, hwithin⟩ :=
    Budget.adjust_ok ht.within (hword.symm ▸ ht.size_value_le he) hb
  refine ht.modify_budget (f := Entry.fitted n.toNat) he (fun _ => rfl) hwithin hentries ?_
  obtain ⟨c, hc, -⟩ := he
  rw [hword] at hbytes
  rw [hbytes, value, getElem?_modify, if_pos rfl, hc]
  simp [Entry.fitted]

/-- **A stored value may be added to under the budget.** -/
lemma appendValue {t t' : EntryTable K} (ht : t.Exact) {e : EntryId} (he : t.Stored e)
    {bytes : Bytes} (hlt : bytes.size < 2 ^ 64) (h : t.appendValue e bytes = .ok t') :
    t'.Exact := by
  obtain ⟨b, hb, rfl⟩ := appendValue_ok h
  obtain ⟨hbytes, hentries, -, hwithin⟩ := Budget.allocate_ok ht.within hb
  rw [UInt64.toNat_ofNat_of_lt' hlt] at hbytes
  refine ht.modify_budget (f := Entry.extended bytes) he (fun _ => rfl) hwithin hentries ?_
  obtain ⟨c, hc, -⟩ := he
  rw [hbytes, value, value, getElem?_modify, if_pos rfl, hc]
  simp only [Option.map_some, Entry.extended, Bytes.size_append]
  omega

/-! ### Changes of the set of entries -/

/-- **A new entry is counted once**, and has no bytes. -/
lemma insertNew {t : EntryTable K} (ht : t.Exact) {b : Budget} (h : t.budget.admitEntry = .ok b)
    (key : K) : (t.insertNew key b).Exact := by
  obtain ⟨hentries, hbytes, -, hwithin⟩ := Budget.admitEntry_ok ht.within h
  refine ⟨hwithin, ?_, ?_⟩
  · have hsum : (t.insertNew key b).storedBytes = t.storedBytes := by
      simp [storedBytes_eq_sum, EntryTable.insertNew, Entry.storedSize, Entry.new]
    rw [hsum, ← ht.bytes_eq]
    exact congrArg UInt64.toNat hbytes
  · have hsum : (t.insertNew key b).size = t.size + 1 := by
      simp [size_eq_sum, EntryTable.insertNew, Entry.storedCount, Entry.new]
    rw [hsum, ← ht.entries_eq]
    exact hentries

/-- **What a removal gives back is what the entry had in use.** -/
lemma takeOut {t : EntryTable K} (ht : t.Exact) (hr : t.Regular) {e : EntryId}
    (he : t.Stored e) : (t.takeOut e).Exact := by
  have hlt := ht.size_value_lt he
  have hle := ht.size_value_le he
  have hpos := ht.entries_pos he
  obtain ⟨c, hc, hs⟩ := he
  have hvalue : t.value e = c.value := by rw [value, hc]
  have hlen : t.len e = c.value.size := by
    rw [len, hc]
    exact hr.len_eq c (List.mem_of_getElem? hc)
  have hbytes := sum_map_modify Entry.storedSize (fun c => { c with stored := false }) t.cells e hc
  have hcount := sum_map_modify Entry.storedCount (fun c => { c with stored := false }) t.cells e hc
  simp only [Entry.storedSize, Entry.storedCount, hs, if_true, Bool.false_eq_true, if_false,
    Nat.add_zero] at hbytes hcount
  refine ⟨(ht.within.release _).retireEntry, ?_, ?_⟩
  · show (t.budget.release (UInt64.ofNat (t.len e))).bytesUsed.toNat = _
    rw [Budget.release_bytes, hlen, UInt64.toNat_ofNat_of_lt' (hvalue ▸ hlt), ht.bytes_eq,
      storedBytes_eq_sum, storedBytes_eq_sum]
    exact Nat.sub_eq_of_eq_add hbytes.symm
  · show ((t.budget.release (UInt64.ofNat (t.len e))).retireEntry).entries.toNat = _
    rw [Budget.retireEntry_entries, Budget.release_entries, ht.entries_eq, size_eq_sum,
      size_eq_sum]
    exact Nat.sub_eq_of_eq_add hcount.symm

variable [DecidableEq K]

/-- An entry that is made is empty. -/
lemma getOrInsert {t t' : EntryTable K} (ht : t.Exact) {key : K} {e : EntryId}
    (h : t.getOrInsert key = .ok (e, t')) : t'.Exact := by
  rcases getOrInsert_ok h with ⟨-, rfl⟩ | ⟨-, rfl, b, hb, rfl⟩
  · exact ht.takeOwner e
  · exact (ht.insertNew hb key).takeOwner _

/-- An entry that is taken out gives its bytes back to the budget. -/
lemma remove {t : EntryTable K} (ht : t.Exact) (hr : t.Regular) (key : K) :
    (t.remove key).2.Exact := by
  rcases t.remove_cases key with ⟨-, h⟩ | ⟨e, -, -, h⟩ | ⟨e, hf, -, h⟩
  · rw [h]
    exact ht
  · rw [h]
    exact ht
  · rw [h]
    exact ht.takeOut hr (stored_of_find? hf)

end Exact

/-! ### Sound tables -/

/-- A table that is regular and exact. -/
structure Sound (t : EntryTable K) : Prop extends t.Regular, t.Exact

/-- A table without entries is sound. -/
lemma sound_new (maxBytes maxCount : UInt64) : (new maxBytes maxCount : EntryTable K).Sound :=
  ⟨regular_new maxBytes maxCount, exact_new maxBytes maxCount⟩

end EntryTable

end ClaimStore
