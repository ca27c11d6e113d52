import ClaimStore.Proofs.Shelf
import ClaimStore.Proofs.EntryOpen

/-!
# The contents of an entry table

An entry table holds under each identifier the value of the entry that is found under it. Owners and
locks do not matter for that; a change of one value changes the bytes under one identifier, and so
do an entry that is made and one that is taken out.

## Main definitions

* `EntryTable.Holds` — the contents of a table.

## Main results

* `Holds.share` — a change of owners and locks.
* `Holds.revalue` — a change of one value.
* `Holds.insertNew`, `Holds.takeOut` — an entry that is made and one that is taken out.
-/

set_option autoImplicit false

namespace ClaimStore

namespace EntryTable

/-! ### Values -/

section Values

variable {K : Type} {t t' : EntryTable K} {e e' : EntryId} {f : Entry K → Entry K}

/-- A change that keeps all values. -/
lemma value_modify_eq (hf : ∀ c, (f c).value = c.value) (e' : EntryId) :
    (t.modify e f).value e' = t.value e' := by
  unfold value
  rw [getElem?_modify]
  by_cases h : e = e'
  · rw [if_pos h]
    cases t.cells[e']? with
    | none => rfl
    | some c => exact hf c
  · rw [if_neg h]

/-- A change of another entry. -/
lemma value_modify_of_ne (h : e' ≠ e) : (t.modify e f).value e' = t.value e' := by
  unfold value
  rw [getElem?_modify, if_neg h.symm]

/-- A change of the entry. -/
lemma value_modify_self {c : Entry K} (hc : t.cells[e]? = some c) :
    (t.modify e f).value e = (f c).value := by
  unfold value
  rw [getElem?_modify, if_pos rfl, hc]
  rfl

/-- The value of an entry does not depend on the budget. -/
lemma value_of_cells (h : t'.cells = t.cells) : t'.value e = t.value e := by
  rw [value, value, h]

/-- Nor does what is found under a key. -/
lemma find?_of_cells [DecidableEq K] (h : t'.cells = t.cells) (key : K) :
    t'.find? key = t.find? key := by
  rw [find?, find?, h]

/-- The value of a new entry. -/
lemma value_insertNew_self (t : EntryTable K) (key : K) (b : Budget) :
    (t.insertNew key b).value t.cells.length = .empty := by
  unfold value insertNew
  simp only [List.getElem?_concat_length]
  rfl

/-- The values of the old entries. -/
lemma value_insertNew_of_lt (key : K) (b : Budget) (h : e < t.cells.length) :
    (t.insertNew key b).value e = t.value e := by
  unfold value insertNew
  simp only [List.getElem?_append_left h]

end Values

/-! ### Free locks -/

section Locks

variable {K : Type} {t : EntryTable K} {e : EntryId}

/-- A reader enters a lock without a writer. -/
lemma exists_tryRead (he : e < t.cells.length) (hw : t.tally e .writeLock = 0) :
    ∃ t', t.tryRead e = some t' := by
  unfold tally at hw
  unfold tryRead
  rw [List.getElem?_eq_getElem he] at hw ⊢
  have hwriter : (t.cells[e]).lock.writer = false := by
    cases h : (t.cells[e]).lock.writer with
    | false => rfl
    | true => simp [Entry.tally, h] at hw
  simp only [Lock.tryRead, hwriter]
  exact ⟨_, rfl⟩

/-- A writer enters a lock with nobody inside. -/
lemma exists_tryWrite (he : e < t.cells.length) (hr : t.tally e .readLock = 0)
    (hw : t.tally e .writeLock = 0) : ∃ t', t.tryWrite e = some t' := by
  unfold tally at hr hw
  unfold tryWrite
  rw [List.getElem?_eq_getElem he] at hr hw ⊢
  have hwriter : (t.cells[e]).lock.writer = false := by
    cases h : (t.cells[e]).lock.writer with
    | false => rfl
    | true => simp [Entry.tally, h] at hw
  have hreaders : (t.cells[e]).lock.readers = 0 := hr
  simp only [Lock.tryWrite, hwriter, hreaders]
  exact ⟨_, rfl⟩

/-- An ownership that is taken and given back. -/
lemma dropOwner_takeOwner (t : EntryTable K) (e : EntryId) : (t.takeOwner e).dropOwner e = t := by
  unfold takeOwner dropOwner modify
  dsimp only
  rw [List.modify_modify_eq]
  have hid : ((fun c : Entry K => { c with owners := c.owners - 1 }) ∘
      fun c : Entry K => { c with owners := c.owners + 1 }) = id := rfl
  rw [hid, List.modify_id]

end Locks

/-! ### Contents -/

variable {κ : Type} [DecidableEq κ] {t t' : EntryTable (Key κ)} {C : String → Option Bytes}
  {x y : String} {e : EntryId} {f : Entry (Key κ) → Entry (Key κ)}

/-- An owner more changes no look-up. -/
lemma find?_takeOwner (t : EntryTable (Key κ)) (e : EntryId) (key : Key κ) :
    (t.takeOwner e).find? key = t.find? key :=
  find?_modify (f := fun c => { c with owners := c.owners + 1 }) t e (fun _ => rfl)
    (fun _ => rfl) key

/-- The value under an identifier. -/
def content (t : EntryTable (Key κ)) (x : String) : Option Bytes := (t.find? (.text x)).map t.value

/-- **The contents of a table.** -/
structure Holds (t : EntryTable (Key κ)) (C : String → Option Bytes) : Prop where
  /-- The table is regular. -/
  regular : t.Regular
  /-- The values are these. -/
  content_eq : ∀ x, t.content x = C x

/-- Another identifier has another entry. -/
lemma ne_of_find? (hx : t.find? (.text x) = some e) (hy : y ≠ x) {e' : EntryId}
    (h : t.find? (.text y) = some e') : e' ≠ e := by
  intro heq
  subst heq
  obtain ⟨c, hc, -, hkey⟩ := find?_eq_some hx
  obtain ⟨c', hc', -, hkey'⟩ := find?_eq_some h
  obtain rfl : c = c' := Option.some.inj (hc.symm.trans hc')
  exact hy (Key.text.inj (hkey'.symm.trans hkey))

namespace Holds

/-- The value of the entry that is found. -/
lemma value_eq (h : Holds t C) (hx : t.find? (.text x) = some e) : C x = some (t.value e) := by
  rw [← h.content_eq, content, hx]
  rfl

/-- Where there are no bytes no entry is found. -/
lemma find?_eq_none (h : Holds t C) (hx : C x = none) : t.find? (.text x) = none := by
  rw [← h.content_eq, content] at hx
  exact Option.map_eq_none_iff.1 hx

/-- Where there are bytes an entry is found. -/
lemma find?_eq_some (h : Holds t C) {v : Bytes} (hx : C x = some v) :
    ∃ e, t.find? (.text x) = some e ∧ t.value e = v := by
  rw [← h.content_eq, content] at hx
  exact Option.map_eq_some_iff.1 hx

/-- The length that is shown of the bytes under an identifier. -/
lemma valueLen?_eq (h : Holds t C) (x : String) : t.valueLen? (.text x) = (C x).map Bytes.size := by
  rw [← h.content_eq, content, valueLen?, Option.map_map]
  cases hx : t.find? (.text x) with
  | none => rfl
  | some e =>
    obtain ⟨c, hc, -, -⟩ := EntryTable.find?_eq_some hx
    simp only [Option.map_some, len, value, Function.comp_apply, hc,
      h.regular.len_eq c (List.mem_of_getElem? hc)]

/-- The budget does not matter. -/
lemma of_cells (h : Holds t C) (hcells : t'.cells = t.cells) : Holds t' C where
  regular := h.regular.of_cells hcells
  content_eq x := by
    rw [content, find?_of_cells hcells, ← h.content_eq, content]
    congr 1
    exact funext fun e => value_of_cells hcells

/-- **A change of owners and locks** leaves the contents as they are. -/
lemma share (h : Holds t C) (hkey : ∀ c, (f c).key = c.key)
    (hstored : ∀ c, (f c).stored = c.stored) (hvalue : ∀ c, (f c).value = c.value)
    (hregular : (t.modify e f).Regular) : Holds (t.modify e f) C where
  regular := hregular
  content_eq x := by
    rw [content, find?_modify t e hkey hstored, ← h.content_eq, content]
    congr 1
    exact funext fun e' => value_modify_eq hvalue e'

/-- An owner that is counted leaves the contents. -/
lemma takeOwner (h : Holds t C) (hx : t.find? (.text x) = some e) : Holds (t.takeOwner e) C :=
  h.share (fun _ => rfl) (fun _ => rfl) (fun _ => rfl)
    (h.regular.takeOwner (stored_of_find? hx))

/-- So does an owner that leaves. -/
lemma dropOwner (h : Holds t C) (e : EntryId) : Holds (t.dropOwner e) C :=
  h.share (fun _ => rfl) (fun _ => rfl) (fun _ => rfl) (h.regular.dropOwner e)

/-- A change of the lock of an entry. -/
lemma modify_lock (h : Holds t C) (e : EntryId) (l : Entry (Key κ) → Lock) :
    Holds (t.modify e fun c => { c with lock := l c }) C :=
  h.share (fun _ => rfl) (fun _ => rfl) (fun _ => rfl) (h.regular.modify_lock e l)

/-- A reader that enters a lock. -/
lemma tryRead (h : Holds t C) (hlock : t.tryRead e = some t') :
    Holds t' C ∧ t'.value = t.value ∧ ∀ key, t'.find? key = t.find? key := by
  obtain ⟨c, -, -, rfl⟩ := tryRead_eq_some hlock
  exact ⟨h.modify_lock e _, funext (value_modify_eq fun _ => rfl),
    find?_modify t e (fun _ => rfl) (fun _ => rfl)⟩

/-- A writer that enters a lock. -/
lemma tryWrite (h : Holds t C) (hlock : t.tryWrite e = some t') :
    Holds t' C ∧ t'.value = t.value ∧ ∀ key, t'.find? key = t.find? key := by
  obtain ⟨c, -, -, -, rfl⟩ := tryWrite_eq_some hlock
  exact ⟨h.modify_lock e _, funext (value_modify_eq fun _ => rfl),
    find?_modify t e (fun _ => rfl) (fun _ => rfl)⟩

/-- **A change of one value.** -/
lemma revalue (h : Holds t C) (hx : t.find? (.text x) = some e) (hkey : ∀ c, (f c).key = c.key)
    (hstored : ∀ c, (f c).stored = c.stored) {v : Bytes}
    (hvalue : ∀ c, t.cells[e]? = some c → (f c).value = v) (hregular : (t.modify e f).Regular) :
    Holds (t.modify e f) (Shelf.update C x (some v)) where
  regular := hregular
  content_eq y := by
    rw [content, find?_modify t e hkey hstored, Shelf.update]
    by_cases hy : y = x
    · obtain ⟨c, hc, -, -⟩ := EntryTable.find?_eq_some hx
      rw [hy, hx, if_pos rfl, Option.map_some, value_modify_self hc, hvalue c hc]
    · rw [if_neg hy, ← h.content_eq, content]
      cases hfind : t.find? (.text y) with
      | none => rfl
      | some e' => exact congrArg some (value_modify_of_ne (ne_of_find? hx hy hfind))

/-- Other bytes of the same length. -/
lemma setValue (h : Holds t C) (hx : t.find? (.text x) = some e) {v : Bytes}
    (hsize : v.size = (t.value e).size) : Holds (t.setValue e v) (Shelf.update C x (some v)) :=
  h.revalue (f := fun c => { c with value := v }) hx (fun _ => rfl) (fun _ => rfl)
    (fun _ _ => rfl) (h.regular.setValue hsize)

/-- A value that is cut or padded. -/
lemma resizeValue (h : Holds t C) (hx : t.find? (.text x) = some e) {n : UInt64}
    (hok : t.resizeValue e n = .ok t') :
    Holds t' (Shelf.update C x (some ((t.value e).fit n.toNat))) ∧
      t'.value e = (t.value e).fit n.toNat ∧ t'.find? (.text x) = some e := by
  have hregular := h.regular.resizeValue hok
  obtain ⟨b, -, rfl⟩ := resizeValue_ok hok
  obtain ⟨c, hc, -, -⟩ := EntryTable.find?_eq_some hx
  have hvalue : t.value e = c.value := by rw [value, hc]
  have hcells : (t.modify e (Entry.fitted n.toNat)).Regular := hregular.of_cells rfl
  refine ⟨?_, ?_, ?_⟩
  · refine of_cells (t := t.modify e (Entry.fitted n.toNat)) ?_ rfl
    refine h.revalue (f := Entry.fitted n.toNat) hx (fun _ => rfl) (fun _ => rfl)
      (fun d hd => ?_) hcells
    obtain rfl : c = d := Option.some.inj (hc.symm.trans hd)
    rw [hvalue]
    rfl
  · show (t.modify e (Entry.fitted n.toNat)).value e = _
    rw [value_modify_self hc, hvalue]
    rfl
  · show (t.modify e (Entry.fitted n.toNat)).find? (.text x) = some e
    rw [find?_modify (f := Entry.fitted n.toNat) t e (fun _ => rfl) (fun _ => rfl), hx]

/-- A value that is added to. -/
lemma appendValue (h : Holds t C) (hx : t.find? (.text x) = some e) {p : Bytes}
    (hok : t.appendValue e p = .ok t') :
    Holds t' (Shelf.update C x (some (t.value e ++ p))) ∧ t'.find? (.text x) = some e := by
  have hregular := h.regular.appendValue hok
  obtain ⟨b, -, rfl⟩ := appendValue_ok hok
  obtain ⟨c, hc, -, -⟩ := EntryTable.find?_eq_some hx
  have hvalue : t.value e = c.value := by rw [value, hc]
  have hcells : (t.modify e (Entry.extended p)).Regular := hregular.of_cells rfl
  refine ⟨?_, ?_⟩
  · refine of_cells (t := t.modify e (Entry.extended p)) ?_ rfl
    refine h.revalue (f := Entry.extended p) hx (fun _ => rfl) (fun _ => rfl) (fun d hd => ?_)
      hcells
    obtain rfl : c = d := Option.some.inj (hc.symm.trans hd)
    rw [hvalue]
    rfl
  · show (t.modify e (Entry.extended p)).find? (.text x) = some e
    rw [find?_modify (f := Entry.extended p) t e (fun _ => rfl) (fun _ => rfl), hx]

end Holds

/-! ### Entries that are made and taken out -/

/-- The new entry is found under its key, and the others are found as before. -/
lemma Holds.find?_insertNew (h : Holds t C) (hx : t.find? (.text x) = none) (b : Budget)
    (y : String) : (t.insertNew (.text x) b).find? (.text y) =
      if y = x then some t.cells.length else t.find? (.text y) := by
  have hregular := h.regular.insertNew hx b
  by_cases hy : y = x
  · rw [if_pos hy, hy]
    exact hregular.find?_eq (c := Entry.new (.text x)) List.getElem?_concat_length rfl
  · rw [if_neg hy]
    cases hfind : t.find? (.text y) with
    | some e =>
      obtain ⟨c, hc, hs, hkey⟩ := EntryTable.find?_eq_some hfind
      have hc' : (t.insertNew (.text x) b).cells[e]? = some c := by
        rw [insertNew, List.getElem?_append_left (List.getElem?_eq_some_iff.1 hc).1, hc]
      exact hkey ▸ hregular.find?_eq hc' hs
    | none =>
      refine find?_eq_none_iff.2 fun c hc hs => ?_
      rcases List.mem_append.1 hc with hc | hc
      · exact find?_eq_none_iff.1 hfind c hc hs
      · rw [List.mem_singleton.1 hc]
        exact fun heq => hy (Key.text.inj heq).symm

/-- **An entry that is made** is empty. -/
lemma Holds.insertNew (h : Holds t C) (hx : t.find? (.text x) = none) (b : Budget) :
    Holds (t.insertNew (.text x) b) (Shelf.update C x (some .empty)) where
  regular := h.regular.insertNew hx b
  content_eq y := by
    rw [content, h.find?_insertNew hx, Shelf.update]
    by_cases hy : y = x
    · rw [if_pos hy, if_pos hy, Option.map_some, value_insertNew_self]
    · rw [if_neg hy, if_neg hy, ← h.content_eq, content]
      cases hfind : t.find? (.text y) with
      | none => rfl
      | some e => exact congrArg some (value_insertNew_of_lt _ b (stored_of_find? hfind).lt)

/-- **An entry that is taken out** is found no more.

**Proof sketch.** An entry that is stored afterwards was stored before and is another one. So the
key of the entry that was taken out is free, and the others are found where they were. -/
lemma Holds.takeOut (h : Holds t C) (hx : t.find? (.text x) = some e) (ho : t.owners e = 0) :
    Holds (t.takeOut e) (Shelf.update C x none) where
  regular := h.regular.takeOut ho
  content_eq y := by
    have hregular := h.regular.takeOut ho
    have hcell : ∀ {i : EntryId} {c : Entry (Key κ)}, (t.takeOut e).cells[i]? = some c →
        c.stored = true → t.cells[i]? = some c ∧ i ≠ e := by
      intro i c hc hs
      change (t.modify e fun c => { c with stored := false }).cells[i]? = some c at hc
      rw [getElem?_modify] at hc
      split at hc
      · obtain ⟨d, -, rfl⟩ := Option.map_eq_some_iff.1 hc
        cases hs
      · next hne => exact ⟨hc, fun heq => hne heq.symm⟩
    rw [content, Shelf.update]
    by_cases hy : y = x
    · rw [if_pos hy, hy]
      have hnone : (t.takeOut e).find? (.text x) = none := by
        refine find?_eq_none_iff.2 fun c hc hs hkey => ?_
        obtain ⟨i, hi⟩ := List.getElem?_of_mem hc
        obtain ⟨hold, hne⟩ := hcell hi hs
        have hfind := h.regular.find?_eq hold hs
        rw [hkey, hx] at hfind
        exact hne (Option.some.inj hfind).symm
      rw [hnone]
      rfl
    · rw [if_neg hy, ← h.content_eq, content]
      cases hfind : t.find? (.text y) with
      | none =>
        have hnone : (t.takeOut e).find? (.text y) = none := by
          refine find?_eq_none_iff.2 fun c hc hs hkey => ?_
          obtain ⟨i, hi⟩ := List.getElem?_of_mem hc
          exact find?_eq_none_iff.1 hfind c (List.mem_of_getElem? (hcell hi hs).1) hs hkey
        rw [hnone]
        rfl
      | some e' =>
        have hne := ne_of_find? hx hy hfind
        obtain ⟨c, hc, hs, hkey⟩ := EntryTable.find?_eq_some hfind
        have hc' : (t.takeOut e).cells[e']? = some c := by
          change (t.modify e fun c => { c with stored := false }).cells[e']? = some c
          rw [getElem?_modify, if_neg hne.symm, hc]
        rw [← hkey, hregular.find?_eq hc' hs, Option.map_some, Option.map_some]
        exact congrArg some (value_modify_of_ne hne)

end EntryTable

end ClaimStore
