import ClaimStore.Store.Tables
import ClaimStore.Proofs.EntryOpen
import ClaimStore.Proofs.Lease

/-!
# What is given out and what is held

Every resource is counted twice: by the object that gives it out, and by the handles that hold
it. This module defines the two counts and says how the elementary steps of the store move them.

## Main definitions

* `Resource.isCounted` — the resources that are counted.
* `Store.counted` — how often a resource is given out.
* `Store.held` — how often a resource is held.

## Main results

* `Store.counted_release`, `Store.counted_setTable_sub` — giving resources back.
* `Store.counted_takeReference`, `Store.counted_takeWriteLease`, `Store.counted_takeReadLease`,
  `Store.counted_setTable_add` — taking resources.
* `Store.held_addHandle`, `Store.held_set` — new handles and changed ones.
-/

set_option autoImplicit false

namespace ClaimStore

/-- The resource is counted where it is given out. A use of a database is not: it only shows in
the handles. -/
def Resource.isCounted : Resource → Bool
  | .database _ => false
  | .reference _ | .lease _ | .owner .. | .readLock .. | .writeLock .. => true

/-- A share in an entry as a resource. -/
def Share.resource (t : TableId) (e : EntryId) : Share → Resource
  | .owner => .owner t e
  | .readLock => .readLock t e
  | .writeLock => .writeLock t e

namespace Store

variable {κ : Type}

/-- How often a resource is given out, by the object that gives it out. -/
def counted (s : Store κ) : Resource → Nat
  | .reference c => s.references c
  | .lease (.write g x) => ((s.writerRegistry g).isWriting x).toNat
  | .lease (.read g x) => (s.readerRegistry g).readers x
  | .owner t e => (s.table t).tally e .owner
  | .readLock t e => (s.table t).tally e .readLock
  | .writeLock t e => (s.table t).tally e .writeLock
  | .database _ => 0

/-- How often a handle holds a resource; an empty place holds nothing. -/
def heldBy (r : Resource) : Option Handle → Nat
  | some x => x.resources.count r
  | none => 0

/-- How often a resource is held, by all handles together. -/
def held (s : Store κ) (r : Resource) : Nat := (s.handles.map (heldBy r)).sum

/-- What is counted does not depend on the other parts of the state. -/
lemma counted_congr {s s' : Store κ} (hc : s'.claims = s.claims)
    (hw : s'.writerRegistries = s.writerRegistries)
    (hr : s'.readerRegistries = s.readerRegistries) (ht : s'.tables = s.tables) (r : Resource) :
    s'.counted r = s.counted r := by
  cases r with
  | reference c => simp only [counted, references, hc]
  | lease l =>
    cases l with
    | write g x => simp only [counted, writerRegistry, hw]
    | read g x => simp only [counted, readerRegistry, hr]
  | owner t e => simp only [counted, table, ht]
  | readLock t e => simp only [counted, table, ht]
  | writeLock t e => simp only [counted, table, ht]
  | database d => rfl

/-! ### Handles -/

/-- A new handle holds its resources on top of what is held. -/
lemma held_addHandle (s : Store κ) (x : Handle) (r : Resource) :
    (s.addHandle x).1.held r = s.held r + x.resources.count r := by
  simp [held, addHandle, heldBy]

/-- A live handle is in its place. -/
lemma handle?_eq_some {s : Store κ} {h : HandleId} {x : Handle} :
    s.handle? h = some x ↔ s.handles[h]? = some (some x) := by
  unfold handle?
  cases hx : s.handles[h]? with
  | none => simp
  | some o => cases o <;> simp

/-- What is held after a handle was replaced or taken away. -/
lemma held_set {s : Store κ} {h : HandleId} {x : Handle} (hx : s.handle? h = some x)
    (x' : Option Handle) (r : Resource) :
    ({ s with handles := s.handles.set h x' } : Store κ).held r + x.resources.count r =
      s.held r + heldBy r x' := by
  have hsum := sum_map_modify (heldBy r) (fun _ => x') s.handles h (handle?_eq_some.1 hx)
  rw [← List.set_eq_modify] at hsum
  exact hsum

/-- What a live handle holds is part of what is held. -/
lemma count_le_held {s : Store κ} {h : HandleId} {x : Handle} (hx : s.handle? h = some x)
    (r : Resource) : x.resources.count r ≤ s.held r :=
  le_sum_map (heldBy r) (List.mem_of_getElem? (handle?_eq_some.1 hx))

/-! ### Tables -/

/-- A table after one was replaced. -/
lemma table_setTable (s : Store κ) (t t' : TableId) (x : EntryTable (Key κ)) :
    (s.setTable t x).table t' = if t' = t ∧ t < s.tables.length then x else s.table t' := by
  unfold table setTable
  by_cases h : t' = t
  · subst h
    by_cases hlt : t' < s.tables.length
    · simp [hlt]
    · simp [hlt]
  · simp [h, Ne.symm h, List.getElem?_set_ne]

/-- A table that was replaced. -/
lemma table_setTable_self {s : Store κ} {t : TableId} (ht : t < s.tables.length)
    (x : EntryTable (Key κ)) : (s.setTable t x).table t = x := by
  rw [table_setTable, if_pos ⟨rfl, ht⟩]

/-- The shares of an entry are what is counted of the resources in it. -/
lemma counted_resource (s : Store κ) (t : TableId) (e : EntryId) (p : Share) :
    s.counted (p.resource t e) = (s.table t).tally e p := by
  cases p <;> rfl

/-- The sorts of share are told apart by their resources. -/
lemma resource_inj {t t' : TableId} {e e' : EntryId} {p p' : Share} :
    p.resource t e = p'.resource t' e' ↔ t = t' ∧ e = e' ∧ p = p' := by
  cases p <;> cases p' <;> simp [Share.resource]

/-- The shares of a list that are shares of this sort in this entry. -/
lemma count_map_resource (ps : List Share) (t t' : TableId) (e e' : EntryId) (q : Share) :
    (ps.map (Share.resource t e)).count (q.resource t' e') =
      if t' = t ∧ e' = e then ps.count q else 0 := by
  induction ps with
  | nil => simp
  | cons p ps ih =>
    simp only [List.map_cons, List.count_cons, ih, beq_iff_eq, resource_inj]
    by_cases h : t' = t ∧ e' = e
    · simp [h]
    · have h' : ¬ (t = t' ∧ e = e' ∧ p = q) := fun hp => h ⟨hp.1.symm, hp.2.1.symm⟩
      simp [h, h']

/-- What is no share in an entry is not counted by tables. -/
lemma counted_setTable_of_ne {r : Resource} (h : ∀ t e (p : Share), r ≠ p.resource t e)
    (s : Store κ) (t : TableId) (x : EntryTable (Key κ)) :
    (s.setTable t x).counted r = s.counted r := by
  rcases r with c | (⟨g, y⟩ | ⟨g, y⟩) | ⟨t', e⟩ | ⟨t', e⟩ | ⟨t', e⟩ | d
  · rfl
  · rfl
  · rfl
  · exact absurd rfl (h t' e .owner)
  · exact absurd rfl (h t' e .readLock)
  · exact absurd rfl (h t' e .writeLock)
  · rfl

/-- What is no share in an entry is not among the shares of an entry. -/
lemma count_map_resource_of_ne {r : Resource} (h : ∀ t e (p : Share), r ≠ p.resource t e)
    (ps : List Share) (t : TableId) (e : EntryId) :
    (ps.map (Share.resource t e)).count r = 0 := by
  refine List.count_eq_zero.2 fun hmem => ?_
  obtain ⟨p, -, hp⟩ := List.mem_map.1 hmem
  exact h t e p hp.symm

/-- **What a table gives out of one of its entries is counted**, where the table gives out the
shares `ps` of the entry `e` on top of what it gave out before. -/
lemma counted_setTable_add {s : Store κ} {t : TableId} (ht : t < s.tables.length) {e : EntryId}
    {x : EntryTable (Key κ)} {ps : List Share}
    (h : ∀ e' q, x.tally e' q = (s.table t).tally e' q + if e' = e then ps.count q else 0)
    (r : Resource) :
    (s.setTable t x).counted r = s.counted r + (ps.map (Share.resource t e)).count r := by
  by_cases hr : ∃ t' e' q, r = Share.resource t' e' q
  · obtain ⟨t', e', q, rfl⟩ := hr
    rw [counted_resource, counted_resource, table_setTable, count_map_resource]
    by_cases ht' : t' = t
    · subst ht'
      simp [ht, h]
    · simp [ht']
  · have hne : ∀ t' e' (q : Share), r ≠ q.resource t' e' := fun t' e' q hq => hr ⟨t', e', q, hq⟩
    rw [counted_setTable_of_ne hne, count_map_resource_of_ne hne, Nat.add_zero]

/-- **What a table takes back of one of its entries is counted no more.** -/
lemma counted_setTable_sub {s : Store κ} {t : TableId} {e : EntryId} {x : EntryTable (Key κ)}
    {p : Share}
    (h : ∀ e' q, x.tally e' q = (s.table t).tally e' q - if e' = e ∧ q = p then 1 else 0)
    (r : Resource) :
    (s.setTable t x).counted r = s.counted r - [p.resource t e].count r := by
  by_cases hr : ∃ t' e' q, r = Share.resource t' e' q
  · obtain ⟨t', e', q, rfl⟩ := hr
    have hcount : [p.resource t e].count (q.resource t' e') =
        if t' = t ∧ e' = e ∧ q = p then 1 else 0 := by
      by_cases h : t' = t ∧ e' = e ∧ q = p
      · obtain ⟨rfl, rfl, rfl⟩ := h
        simp
      · have hne : ¬ p.resource t e = q.resource t' e' := fun hp =>
          have hp := resource_inj.1 hp
          h ⟨hp.1.symm, hp.2.1.symm, hp.2.2.symm⟩
        simp [h, hne]
    rw [counted_resource, counted_resource, table_setTable, hcount]
    by_cases ht' : t' = t
    · subst ht'
      by_cases hlt : t' < s.tables.length
      · simp [hlt, h]
      · simp [hlt, table, EntryTable.tally, EntryTable.new]
    · simp [ht']
  · have hne : ∀ t' e' (q : Share), r ≠ q.resource t' e' := fun t' e' q hq => hr ⟨t', e', q, hq⟩
    have hzero := count_map_resource_of_ne hne [p] t e
    rw [List.map_singleton] at hzero
    rw [counted_setTable_of_ne hne, hzero, Nat.sub_zero]

/-- A change of one table is a replacement of it. -/
lemma modify_tables_eq (s : Store κ) (t : TableId)
    (f : EntryTable (Key κ) → EntryTable (Key κ)) :
    ({ s with tables := s.tables.modify t f } : Store κ) = s.setTable t (f (s.table t)) := by
  unfold setTable table
  cases hx : s.tables[t]? with
  | none =>
    have hlen : s.tables.length ≤ t := List.getElem?_eq_none_iff.1 hx
    rw [List.modify_eq_self hlen, List.set_eq_of_length_le hlen]
  | some x => rw [List.modify_eq_set_getElem?, hx]; rfl

/-! ### References and leases -/

/-- A reference that is taken is counted. -/
lemma counted_takeReference {s : Store κ} {c : ClaimId} (hc : c < s.claims.length)
    (r : Resource) :
    (s.takeReference c).counted r = s.counted r + [Resource.reference c].count r := by
  by_cases hr : r = .reference c
  · subst hr
    simp [counted, references, takeReference, List.getElem?_eq_getElem hc]
  · have hzero : [Resource.reference c].count r = 0 := by
      simp [Ne.symm hr]
    rw [hzero, Nat.add_zero]
    cases r with
    | reference c' =>
      have hne : c ≠ c' := fun h => hr (by rw [h])
      simp [counted, references, takeReference, hne]
    | lease l => cases l <;> rfl
    | owner t e => rfl
    | readLock t e => rfl
    | writeLock t e => rfl
    | database d => rfl

/-- A registry after one was replaced. -/
lemma writerRegistry_set {s : Store κ} {g : RegistryId} (hg : g < s.writerRegistries.length)
    (g' : RegistryId) (r : WriterRegistry) :
    ({ s with writerRegistries := s.writerRegistries.set g r } : Store κ).writerRegistry g' =
      if g' = g then r else s.writerRegistry g' := by
  unfold writerRegistry
  by_cases h : g' = g
  · subst h
    simp [hg]
  · simp [h, Ne.symm h, List.getElem?_set_ne]

/-- What it takes to take a write lease, and the state after it. -/
lemma takeWriteLease_ok {s s' : Store κ} {g : RegistryId} {x : String}
    (h : s.takeWriteLease g x = .ok s') :
    ∃ r, (s.writerRegistry g).acquire x = .ok r ∧
      s' = { s with writerRegistries := s.writerRegistries.set g r } := by
  unfold takeWriteLease at h
  cases hr : (s.writerRegistry g).acquire x with
  | error e => simp [hr] at h
  | ok r =>
    simp only [hr, Except.ok.injEq] at h
    exact ⟨r, rfl, h.symm⟩

/-- **A write lease that is taken is counted**, and it was free. -/
lemma counted_takeWriteLease {s s' : Store κ} {g : RegistryId}
    (hg : g < s.writerRegistries.length) {x : String} (h : s.takeWriteLease g x = .ok s')
    (r : Resource) :
    s'.counted r = s.counted r + [Resource.lease (.write g x)].count r := by
  obtain ⟨reg, hreg, rfl⟩ := takeWriteLease_ok h
  obtain ⟨hfree, hafter⟩ := WriterRegistry.acquire_ok hreg
  by_cases hr : r = .lease (.write g x)
  · subst hr
    simp [counted, writerRegistry_set hg, hafter, hfree]
  · have hzero : [Resource.lease (.write g x)].count r = 0 := by
      simp [Ne.symm hr]
    rw [hzero, Nat.add_zero]
    cases r with
    | reference c => rfl
    | lease l =>
      cases l with
      | write g' y =>
        simp only [counted, writerRegistry_set hg]
        by_cases hg' : g' = g
        · subst hg'
          have hy : (y == x) = false := beq_eq_false_iff_ne.2 fun h => hr (by rw [h])
          simp [hafter, hy]
        · simp [hg']
      | read g' y => rfl
    | owner t e => rfl
    | readLock t e => rfl
    | writeLock t e => rfl
    | database d => rfl

/-- A read lease that is taken is counted. -/
lemma counted_takeReadLease {s : Store κ} {g : RegistryId}
    (hg : g < s.readerRegistries.length) (x : String) (r : Resource) :
    (s.takeReadLease g x).counted r = s.counted r + [Resource.lease (.read g x)].count r := by
  by_cases hr : r = .lease (.read g x)
  · subst hr
    simp [counted, readerRegistry, takeReadLease, List.getElem?_eq_getElem hg,
      ReaderRegistry.readers_acquire]
  · have hzero : [Resource.lease (.read g x)].count r = 0 := by
      simp [Ne.symm hr]
    rw [hzero, Nat.add_zero]
    cases r with
    | reference c => rfl
    | lease l =>
      cases l with
      | write g' y => rfl
      | read g' y =>
        simp only [counted, readerRegistry, takeReadLease]
        by_cases hg' : g = g'
        · subst hg'
          have hy : y ≠ x := fun h => hr (by rw [h])
          simp [List.getElem?_eq_getElem hg, ReaderRegistry.readers_acquire, hy]
        · simp [hg']
    | owner t e => rfl
    | readLock t e => rfl
    | writeLock t e => rfl
    | database d => rfl

/-! ### Giving back -/

/-- The handles stay when a resource is given back. -/
@[simp] lemma handles_release (s : Store κ) (r : Resource) : (s.release r).handles = s.handles := by
  rcases r with c | (⟨g, x⟩ | ⟨g, x⟩) | ⟨t, e⟩ | ⟨t, e⟩ | ⟨t, e⟩ | d <;> rfl

/-- A share in an entry that is given back goes back to its table. -/
lemma release_resource (s : Store κ) (t : TableId) (e : EntryId) (p : Share) :
    s.release (p.resource t e) = s.setTable t
      (match p with
        | .owner => (s.table t).dropOwner e
        | .readLock => (s.table t).endRead e
        | .writeLock => (s.table t).endWrite e) := by
  cases p with
  | owner => exact s.modify_tables_eq t (·.dropOwner e)
  | readLock => exact s.modify_tables_eq t (·.endRead e)
  | writeLock => exact s.modify_tables_eq t (·.endWrite e)

/-- **A resource that is given back is counted no more**, if it was.

**Proof sketch.** A share changes its own tally only. For the other resources, by the pair of the
one that is given back and the one that is counted: the same claim, or the same identifier in the
same registry, loses one, and all others stay. -/
lemma counted_release (s : Store κ) (r r' : Resource) :
    (s.release r).counted r' = s.counted r' - [r].count r' := by
  have share : ∀ (t : TableId) (e : EntryId) (p : Share),
      (s.release (p.resource t e)).counted r' = s.counted r' - [p.resource t e].count r' := by
    intro t e p
    rw [release_resource]
    refine counted_setTable_sub (fun e' q => ?_) r'
    cases p with
    | owner => exact EntryTable.tally_dropOwner _ _ _ _
    | readLock => exact EntryTable.tally_endRead _ _ _ _
    | writeLock => exact EntryTable.tally_endWrite _ _ _ _
  rcases r with c | (⟨g, x⟩ | ⟨g, x⟩) | ⟨t, e⟩ | ⟨t, e⟩ | ⟨t, e⟩ | d
  · rcases r' with c' | (⟨g', y⟩ | ⟨g', y⟩) | _ | _ | _ | _
    · by_cases hc : c = c'
      · subst hc
        cases hx : s.claims[c]? <;> simp [counted, references, release, hx]
      · simp [counted, references, release, hc]
    all_goals simp [counted, release, writerRegistry, readerRegistry, table]
  · rcases r' with c' | (⟨g', y⟩ | ⟨g', y⟩) | _ | _ | _ | _
    · simp [counted, release, references]
    · by_cases hg : g = g'
      · subst hg
        cases hx : s.writerRegistries[g]? with
        | none => simp [counted, writerRegistry, release, hx]
        | some reg =>
          by_cases hy : y = x
          · subst hy
            cases hw : reg.isWriting y <;>
              simp [counted, writerRegistry, release, hx, WriterRegistry.isWriting_release, hw]
          · have hne : (y == x) = false := beq_eq_false_iff_ne.2 hy
            simp [counted, writerRegistry, release, hx, WriterRegistry.isWriting_release, bne, hne,
              Ne.symm hy]
      · simp [counted, writerRegistry, release, hg]
    all_goals simp [counted, release, readerRegistry, table]
  · rcases r' with c' | (⟨g', y⟩ | ⟨g', y⟩) | _ | _ | _ | _
    · simp [counted, release, references]
    · simp [counted, release, writerRegistry]
    · by_cases hg : g = g'
      · subst hg
        cases hx : s.readerRegistries[g]? with
        | none => simp [counted, readerRegistry, release, hx]
        | some reg =>
          by_cases hy : y = x
          · subst hy
            simp [counted, readerRegistry, release, hx, ReaderRegistry.readers_release]
          · simp [counted, readerRegistry, release, hx, ReaderRegistry.readers_release, hy,
              Ne.symm hy]
      · simp [counted, readerRegistry, release, hg]
    all_goals simp [counted, release, table]
  · exact share t e .owner
  · exact share t e .readLock
  · exact share t e .writeLock
  · cases r' <;> simp [counted, release]

/-- The handles stay when resources are given back. -/
@[simp] lemma handles_releaseAll (s : Store κ) (rs : List Resource) :
    (s.releaseAll rs).handles = s.handles := by
  induction rs generalizing s with
  | nil => rfl
  | cons r rs ih =>
    rw [releaseAll, List.foldl_cons, ← releaseAll, ih, handles_release]

end Store

end ClaimStore
