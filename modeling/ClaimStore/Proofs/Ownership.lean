import ClaimStore.Proofs.HandleEnds
import ClaimStore.Proofs.SoundSteps

/-!
# Ownership of entries

The owners that an entry counts are the live handles that own it: borrows, and the mappings,
readers and writers that were opened on it and not yet dropped. So what is owned is never taken
out of its table, and what no handle owns can be.

## Main definitions

* `Store.ownersOf`, `Store.ownersIn` — the live handles that own an entry, and those that own any
  entry of a table.
* `Store.Ownership` — what the owners of a table mean.

## Main results

* `Store.Sound.ownership` — in sound states, owners are handles.
* `Store.ownership_run` — so they are after every run from an empty store.
-/

set_option autoImplicit false

namespace ClaimStore

/-! ### Removal of one key -/

namespace EntryTable

variable {K : Type} [DecidableEq K]

/-- **Taking an entry out frees its key** and no other one. -/
lemma find?_takeOut {t : EntryTable K} (ht : t.Regular) {key : K} {e : EntryId}
    (hf : t.find? key = some e) (ho : t.owners e = 0) (key' : K) :
    (t.takeOut e).find? key' = if key' = key then none else t.find? key' := by
  have hcells : ∀ i, (t.takeOut e).cells[i]? =
      if e = i then (t.cells[i]?).map (fun c => { c with stored := false }) else t.cells[i]? :=
    fun i => getElem?_modify t e i _
  obtain ⟨d, hd, hds, hdk⟩ := find?_eq_some hf
  by_cases hk : key' = key
  · rw [if_pos hk]
    refine find?_eq_none_iff.2 fun c hc hs hck => ?_
    obtain ⟨i, hi⟩ := List.getElem?_of_mem hc
    rw [hcells] at hi
    split at hi
    · obtain ⟨c', -, rfl⟩ := Option.map_eq_some_iff.1 hi
      cases hs
    · next hne => exact hne (ht.key_inj e i d c hd hi hds hs (by rw [hdk, hck, hk]))
  · rw [if_neg hk]
    cases hf' : t.find? key' with
    | none =>
      refine find?_eq_none_iff.2 fun c hc hs => ?_
      obtain ⟨i, hi⟩ := List.getElem?_of_mem hc
      rw [hcells] at hi
      split at hi
      · obtain ⟨c', -, rfl⟩ := Option.map_eq_some_iff.1 hi
        cases hs
      · exact find?_eq_none_iff.1 hf' c (List.mem_of_getElem? hi) hs
    | some i =>
      obtain ⟨c, hc, hs, rfl⟩ := find?_eq_some hf'
      have hne : e ≠ i := by
        rintro rfl
        obtain rfl := Option.some.inj (hd.symm.trans hc)
        exact hk hdk
      have hc' : (t.takeOut e).cells[i]? = some c := by rw [hcells, if_neg hne, hc]
      exact (ht.takeOut ho).find?_eq hc' hs

omit [DecidableEq K] in
/-- In a regular table all owners are owners of stored entries. -/
lemma Regular.totalOwners_eq {t : EntryTable K} (ht : t.Regular) :
    t.totalOwners = ((List.range t.cells.length).map t.owners).sum := by
  have hsum : ∀ l : List (Entry K), (∀ c ∈ l, 0 < c.owners → c.stored = true) →
      l.foldr (fun c n => if c.stored then c.owners + n else n) 0 = (l.map (·.owners)).sum := by
    intro l
    induction l with
    | nil => exact fun _ => rfl
    | cons c l ih =>
      intro hl
      have hrest := ih fun c' hc' => hl c' (List.mem_cons_of_mem _ hc')
      simp only [List.foldr_cons, List.map_cons, List.sum_cons, hrest]
      split
      · rfl
      · next hs =>
        have hzero : c.owners = 0 :=
          Nat.eq_zero_of_not_pos fun h => hs (hl c List.mem_cons_self h)
        rw [hzero, Nat.zero_add]
  have howners : (List.range t.cells.length).map t.owners = t.cells.map (·.owners) := by
    refine List.ext_getElem (by simp) fun i h h' => ?_
    have hi : i < t.cells.length := by simpa using h
    simp [owners, List.getElem?_eq_getElem hi]
  rw [totalOwners, hsum t.cells ht.stored_of_owned, howners]

end EntryTable

/-! ### Counting handles -/

/-- The occurrences of one number, one by one. -/
lemma sum_map_eq_count (l : List Nat) (i : Nat) :
    (l.map fun j => if some i == some j then 1 else 0).sum = l.count i := by
  induction l with
  | nil => rfl
  | cons j l ih =>
    rw [List.map_cons, List.sum_cons, ih, List.count_cons, Nat.add_comm]
    by_cases hj : j = i
    · simp [hj]
    · simp [hj, Ne.symm hj]

/-- Elements counted name by name, where all their names are small. -/
lemma sum_countP_eq {α : Type} (name : α → Option Nat) (n : Nat) (l : List α)
    (h : ∀ a ∈ l, ∀ i, name a = some i → i < n) :
    ((List.range n).map fun i => l.countP fun a => name a == some i).sum =
      l.countP fun a => (name a).isSome := by
  induction l with
  | nil => simp
  | cons a l ih =>
    have hrest := ih fun b hb => h b (List.mem_cons_of_mem _ hb)
    simp only [List.countP_cons, List.sum_map_add, hrest]
    congr 1
    cases ha : name a with
    | none => simp
    | some i =>
      have hi : i ∈ List.range n := List.mem_range.2 (h a List.mem_cons_self i ha)
      rw [sum_map_eq_count, List.nodup_range.count, if_pos hi]
      rfl

namespace Store

variable {κ : Type}

/-- The number of live handles that own an entry. -/
def ownersOf (s : Store κ) (t : TableId) (e : EntryId) : Nat :=
  s.handles.countP fun x => x.bind Handle.owned? == some (t, e)

/-- The number of live handles that own an entry of a table. -/
def ownersIn (s : Store κ) (t : TableId) : Nat :=
  s.handles.countP fun x => (x.bind Handle.owned?).any fun p => p.1 == t

/-- A hook holds no entry. -/
lemma count_owner_hook (h : Hook) (t : TableId) (e : EntryId) :
    h.resources.count (.owner t e) = 0 := by
  rcases h with ⟨d, key⟩ | ⟨c, _ | l⟩ | _ <;> simp [Hook.resources]

/-- What a handle owns is the one ownership among its resources. -/
lemma count_owner (x : Handle) (t : TableId) (e : EntryId) :
    x.resources.count (.owner t e) = if x.owned? = some (t, e) then 1 else 0 := by
  rcases x with ⟨backing, readOnly, hooks⟩ | ⟨c, source, p⟩ | ⟨c, sink, n, l⟩ | c | l | ⟨t', e'⟩ |
    ⟨t', e', writing⟩
  · have hhooks : hooks.resources.count (.owner t e) = 0 := by
      rw [UnmapHooks.resources, List.count_flatMap]
      simp [Function.comp_def, count_owner_hook]
    simp only [Handle.resources, Mapping.resources, List.count_append, hhooks, Handle.owned?]
    cases backing with
    | file b => simp [Backing.viewResources, Backing.keptResources]
    | entry b =>
      rcases b with ⟨_ | ⟨t', e'⟩, size, _ | _ | _⟩ <;>
        simp [Backing.viewResources, Backing.keptResources, EntryBacking.viewResources,
          EntryBacking.keptResources, List.count_cons]
    | buffer b => simp [Backing.viewResources, Backing.keptResources]
  · cases source <;>
      simp [Handle.resources, Reader.resources, Source.resources, Handle.owned?, List.count_cons]
  · cases sink <;> cases l <;>
      simp [Handle.resources, Writer.resources, Writer.openResources, Writer.keptResources,
        Handle.owned?, List.count_cons]
  · simp [Handle.resources, Handle.owned?]
  · simp [Handle.resources, Handle.owned?]
  · simp [Handle.resources, Handle.owned?, List.count_cons]
  · cases writing <;> simp [Handle.resources, Handle.owned?]

/-- The handles that own an entry are those that hold an ownership of it. -/
lemma held_owner (s : Store κ) (t : TableId) (e : EntryId) :
    s.held (.owner t e) = s.ownersOf t e := by
  unfold held ownersOf
  induction s.handles with
  | nil => rfl
  | cons x l ih =>
    rw [List.map_cons, List.sum_cons, ih, List.countP_cons, Nat.add_comm]
    congr 1
    cases x with
    | none => rfl
    | some x => simp [heldBy, count_owner]

/-- What owners mean in a table, with respect to the handles of the store. -/
structure Ownership [DecidableEq κ] (s : Store κ) (t : TableId) : Prop where
  /-- The owners of an entry are the live handles that own it. -/
  owners_eq : ∀ e, (s.table t).owners e = s.ownersOf t e
  /-- The owners of all entries are the live handles that own any. -/
  totalOwners_eq : (s.table t).totalOwners = s.ownersIn t
  /-- What a live handle owns is the entry that is found under its key. -/
  current : ∀ h x e, s.handle? h = some x → x.owned? = some (t, e) →
    ∃ c, (s.table t).cells[e]? = some c ∧ (s.table t).find? c.key = some e
  /-- A removal finds nothing exactly where the key is not in the table. -/
  absent_iff : ∀ key, ((s.table t).remove key).1 = .absent ↔ (s.table t).find? key = none
  /-- A removal is refused exactly where live handles own the entry, and answers with their
  number. -/
  owned_iff : ∀ key n, ((s.table t).remove key).1 = .owned n ↔
    0 < n ∧ ∃ e, (s.table t).find? key = some e ∧ s.ownersOf t e = n
  /-- A removal takes the entry out exactly where no live handle owns it. -/
  removed_iff : ∀ key, ((s.table t).remove key).1 = .removed ↔
    ∃ e, (s.table t).find? key = some e ∧ s.ownersOf t e = 0
  /-- Where the entry is taken out, its key and no other one leaves the table. -/
  find?_removed : ∀ key key', ((s.table t).remove key).1 = .removed →
    ((s.table t).remove key).2.find? key' = if key' = key then none else (s.table t).find? key'
  /-- All other entries stay as they are. -/
  cells_removed : ∀ key e, (s.table t).find? key ≠ some e →
    ((s.table t).remove key).2.cells[e]? = (s.table t).cells[e]?
  /-- Where it is not, the table stays as it is. -/
  kept : ∀ key, ((s.table t).remove key).1 ≠ .removed → ((s.table t).remove key).2 = s.table t
  /-- The drop of a handle that owns an entry counts down from a positive number. -/
  owners_drop : ∀ h x e, s.handle? h = some x → x.owned? = some (t, e) →
    ((s.drop h).table t).owners e + 1 = (s.table t).owners e

/-! ### Owners are handles -/

/-- The owners of an entry are the handles that own it. -/
lemma Sound.owners_eq {s : Store κ} (hs : s.Sound) (t : TableId) (e : EntryId) :
    (s.table t).owners e = s.ownersOf t e :=
  (hs.balanced (.owner t e) rfl).trans (s.held_owner t e)

/-- What a live handle owns is stored. -/
lemma Sound.stored_of_owned {s : Store κ} (hs : s.Sound) {h : HandleId} {x : Handle}
    (hx : s.handle? h = some x) {t : TableId} {e : EntryId} (ho : x.owned? = some (t, e)) :
    (s.table t).Stored e := by
  refine hs.stored hx (List.count_pos_iff.1 ?_)
  rw [count_owner, if_pos ho]
  exact Nat.one_pos

/-- The owners of a table are the handles that own an entry of it. -/
lemma Sound.totalOwners_eq {s : Store κ} (hs : s.Sound) (t : TableId) :
    (s.table t).totalOwners = s.ownersIn t := by
  -- the name of a handle is the entry of the table that it owns
  let name : Option Handle → Option EntryId := fun x =>
    (x.bind Handle.owned?).bind fun p => if p.1 = t then some p.2 else none
  have hname : ∀ x e, name x = some e ↔ x.bind Handle.owned? = some (t, e) := by
    intro x e
    cases hx : x.bind Handle.owned? with
    | none => simp [name, hx]
    | some p =>
      obtain ⟨t', e'⟩ := p
      by_cases ht : t' = t <;> simp [name, hx, ht]
  have hsmall : ∀ x ∈ s.handles, ∀ e, name x = some e → e < (s.table t).cells.length := by
    intro x hx e he
    obtain ⟨y, rfl, ho⟩ := Option.bind_eq_some_iff.1 ((hname x e).1 he)
    obtain ⟨h, hh⟩ := List.getElem?_of_mem hx
    exact (hs.stored_of_owned (handle?_eq_some.2 hh) ho).lt
  have hcount := sum_countP_eq name (s.table t).cells.length s.handles hsmall
  rw [(hs.tables_sound t).toRegular.totalOwners_eq]
  have howners : (s.table t).owners = fun e => s.handles.countP fun x => name x == some e := by
    funext e
    rw [hs.owners_eq, ownersOf]
    refine List.countP_congr fun x _ => ?_
    simp only [beq_iff_eq, hname]
  rw [howners, hcount, ownersIn]
  refine List.countP_congr fun x _ => ?_
  cases hx : x.bind Handle.owned? with
  | none => simp [name, hx]
  | some p => by_cases ht : p.1 = t <;> simp [name, hx, ht]

variable [DecidableEq κ]

/-- The handles after one was dropped: its place is empty. -/
lemma handles_drop {s : Store κ} {h : HandleId} {x : Handle} (hx : s.handle? h = some x) :
    (s.drop h).handles = s.handles.set h none :=
  (ended_drop hx).handles_eq

/-- **In sound states, owners are handles.**

**Proof sketch.** The counts of owners are those of handles, as the state is sound. What a removal
answers is read off its three cases: nothing under the key, an owner, or no owner. A drop empties
the place of one handle, which owned what it owned. -/
lemma Sound.ownership {s : Store κ} (hs : s.Sound) (t : TableId) : s.Ownership t := by
  have hreg := (hs.tables_sound t).toRegular
  refine ⟨hs.owners_eq t, hs.totalOwners_eq t, fun h x e hx ho => ?_, fun key => ?_,
    fun key n => ?_, fun key => ?_, fun key key' hr => ?_, fun key e hne => ?_, fun key hr => ?_,
    fun h x e hx ho => ?_⟩
  · obtain ⟨c, hc, hstored⟩ := hs.stored_of_owned hx ho
    exact ⟨c, hc, hreg.find?_eq hc hstored⟩
  · rcases (s.table t).remove_cases key with ⟨hf, h⟩ | ⟨e, hf, -, h⟩ | ⟨e, hf, -, h⟩ <;>
      simp [h, hf]
  · rcases (s.table t).remove_cases key with ⟨hf, h⟩ | ⟨e, hf, hpos, h⟩ | ⟨e, hf, hzero, h⟩
    · simp [h, hf]
    · rw [hs.owners_eq] at hpos h
      simp only [h, hf, Removal.owned.injEq, Option.some.injEq, exists_eq_left']
      exact ⟨fun hn => ⟨hn ▸ hpos, hn⟩, fun hn => hn.2⟩
    · rw [hs.owners_eq] at hzero
      simp only [h, hf, reduceCtorEq, Option.some.injEq, exists_eq_left', false_iff, hzero]
      omega
  · rcases (s.table t).remove_cases key with ⟨hf, h⟩ | ⟨e, hf, hpos, h⟩ | ⟨e, hf, hzero, h⟩
    · simp [h, hf]
    · rw [hs.owners_eq] at hpos
      simp only [h, hf, reduceCtorEq, Option.some.injEq, exists_eq_left', false_iff]
      omega
    · rw [hs.owners_eq] at hzero
      simp [h, hf, hzero]
  · rcases (s.table t).remove_cases key with ⟨hf, h⟩ | ⟨e, hf, hpos, h⟩ | ⟨e, hf, hzero, h⟩
    · simp [h] at hr
    · simp [h] at hr
    · rw [h]
      exact EntryTable.find?_takeOut hreg hf hzero key'
  · rcases (s.table t).remove_cases key with ⟨-, h⟩ | ⟨e', -, -, h⟩ | ⟨e', hf, -, h⟩
    · rw [h]
    · rw [h]
    · have hne' : e' ≠ e := fun he => hne (he ▸ hf)
      rw [h, EntryTable.takeOut, EntryTable.getElem?_modify, if_neg hne']
  · rcases (s.table t).remove_cases key with ⟨hf, h⟩ | ⟨e, hf, hpos, h⟩ | ⟨e, hf, hzero, h⟩
    · rw [h]
    · rw [h]
    · simp [h] at hr
  · have hlt : h < s.handles.length := (List.getElem?_eq_some_iff.1 (handle?_eq_some.1 hx)).1
    have hget : s.handles[h] = some x :=
      (List.getElem?_eq_some_iff.1 (handle?_eq_some.1 hx)).2
    have hpos : 0 < s.ownersOf t e :=
      List.countP_pos_iff.2 ⟨some x, List.mem_of_getElem? (handle?_eq_some.1 hx), by simp [ho]⟩
    rw [(hs.drop h).sound.owners_eq, hs.owners_eq]
    unfold ownersOf at hpos ⊢
    rw [handles_drop hx, List.countP_set hlt, hget]
    simp only [Option.bind_some, ho, beq_self_eq_true, if_true, Option.bind_none]
    have hnone : (none == some (t, e)) = false := rfl
    simp only [hnone, Bool.false_eq_true, if_false, Nat.add_zero]
    exact Nat.sub_add_cancel hpos

variable [ToString κ]

/-- **Ownership in every reachable state.** After every run, for keys of every type and in every
table, the owners of entries are the live handles that own them, with all that follows for
removals and drops; and a handle owns the same entry for as long as it lives. -/
theorem ownership_run (name : String) (ops : List (Operation κ)) :
    (∀ t, ((onDirectory name).run ops).Ownership t) ∧
      ∀ op, Lasts ((onDirectory name).run ops) (((onDirectory name).run ops).step op) :=
  have hs := sound_run name ops
  ⟨hs.ownership, fun op => (hs.step op).lasts⟩

end Store

end ClaimStore
