import ClaimStore.Store.Drop
import ClaimStore.Proofs.Counting

/-!
# Sound states

A state is *sound* if every counter agrees with the handles, its tables are sound, and its
repositories and handles are of the form that the operations make. This module says how sound
states are left and reached: by steps that take resources and put them into one new handle, and
by steps that give resources back and leave the rest of a handle behind.

## Main definitions

* `Store.Sound` — counters agree with handles, and tables are sound.
* `Handle.owned?` — the entry that a handle owns.
* `Store.Leads` — a step to a sound state, in which handles own what they owned.
* `Store.Took`, `Store.Gave` — steps that take and give back resources.
* `Store.Opens` — steps that make at most one handle, which holds all that they take.

## Main results

* `Store.Sound.opens` — a step that opens a handle leads to a sound state.
* `Store.Sound.exchange` — so does a step that gives back what a handle held.
* `Store.Sound.stored` — what a live handle owns is stored.
-/

set_option autoImplicit false

namespace ClaimStore

/-- Bytes of an entry can be changed only through a mapping that shows all of them. -/
def Mapping.IsWhole (m : Mapping) : Prop :=
  ∀ b, m.backing = .entry b → b.view = .read → m.readOnly = true

/-- A handle that is no mapping, or one that shows all bytes that can be changed through it. -/
def Handle.IsWhole : Handle → Prop
  | .mapping m => m.IsWhole
  | _ => True

/-- The entry that a handle owns, if it owns one. A mapping, a reader or a writer owns its entry
whether it is still mapped, or open, or not. -/
def Handle.owned? : Handle → Option (TableId × EntryId)
  | .mapping m =>
    match m.backing with
    | .entry b => b.borrow
    | .file _ | .buffer _ => none
  | .reader r =>
    match r.source with
    | .entry t e => some (t, e)
    | .file .. | .bytes _ => none
  | .writer w =>
    match w.sink with
    | .entry t e => some (t, e)
    | .file .. | .row .. => none
  | .borrow t e => some (t, e)
  | .reference _ | .lease _ | .guard .. => none

namespace Store

variable {κ : Type}

/-- The parts that a backend works with are there. -/
def Knows (s : Store κ) : Backend → Prop
  | .files _ w r => w < s.writerRegistries.length ∧ r < s.readerRegistries.length
  | .volatile t w => t < s.tables.length ∧ w < s.writerRegistries.length
  | .database _ _ w => w < s.writerRegistries.length

/-- What is there stays there while nothing is taken out of the lists. -/
lemma Knows.mono {s s' : Store κ} (ht : s.tables.length ≤ s'.tables.length)
    (hw : s.writerRegistries.length ≤ s'.writerRegistries.length)
    (hr : s.readerRegistries.length ≤ s'.readerRegistries.length) {b : Backend}
    (h : s.Knows b) : s'.Knows b := by
  cases b with
  | files directory w r => exact ⟨Nat.lt_of_lt_of_le h.1 hw, Nat.lt_of_lt_of_le h.2 hr⟩
  | volatile t w => exact ⟨Nat.lt_of_lt_of_le h.1 ht, Nat.lt_of_lt_of_le h.2 hw⟩
  | database d p w => exact Nat.lt_of_lt_of_le h hw

/-- Every counter agrees with the handles, and the parts of the state have the form that the
operations give them. -/
structure Sound (s : Store κ) : Prop where
  /-- What is given out is what is held. -/
  balanced : ∀ r : Resource, r.isCounted = true → s.counted r = s.held r
  /-- All tables are sound. -/
  tables_sound : ∀ t, (s.table t).Sound
  /-- The parts that the repositories work with are there. -/
  backends_known : ∀ x ∈ s.repositories, s.Knows x.backend
  /-- Mappings show all bytes that can be changed through them. -/
  handles_whole : ∀ h x, s.handle? h = some x → x.IsWhole

/-! ### What lasts -/

/-- Handles are never taken up again, and each owns the same for as long as it lives. -/
structure Lasts (s s' : Store κ) : Prop where
  /-- No number is used twice. -/
  length_le : s.handles.length ≤ s'.handles.length
  /-- A handle that is live was live, and owned the same. -/
  owned_eq : ∀ i x', i < s.handles.length → s'.handle? i = some x' →
    ∃ x, s.handle? i = some x ∧ x'.owned? = x.owned?

/-- Handles own what they own. -/
lemma Lasts.refl (s : Store κ) : Lasts s s := ⟨Nat.le_refl _, fun _ x' _ h => ⟨x', h, rfl⟩⟩

/-- They own it step after step. -/
lemma Lasts.trans {s s' s'' : Store κ} (h : Lasts s s') (h' : Lasts s' s'') : Lasts s s'' := by
  refine ⟨Nat.le_trans h.length_le h'.length_le, fun i x'' hi hx'' => ?_⟩
  obtain ⟨x', hx', ho'⟩ := h'.owned_eq i x'' (Nat.lt_of_lt_of_le hi h.length_le) hx''
  obtain ⟨x, hx, ho⟩ := h.owned_eq i x' hi hx'
  exact ⟨x, hx, ho'.trans ho⟩

/-- A step leads to a sound state in which handles own what they owned. -/
structure Leads (s s' : Store κ) : Prop where
  /-- The state is sound. -/
  sound : s'.Sound
  /-- Handles own what they owned. -/
  lasts : Lasts s s'

/-- A sound state leads to itself. -/
lemma Leads.refl {s : Store κ} (hs : s.Sound) : Leads s s := ⟨hs, .refl s⟩

/-- Steps that lead to sound states compose. -/
lemma Leads.trans {s s' s'' : Store κ} (h : Leads s s') (h' : Leads s' s'') : Leads s s'' :=
  ⟨h'.sound, h.lasts.trans h'.lasts⟩

/-! ### Taking -/

/-- A step that changes no handle and takes the resources `rs`. -/
structure Took (s s' : Store κ) (rs : List Resource) : Prop where
  /-- The handles stay. -/
  handles_eq : s'.handles = s.handles
  /-- What is taken is counted. -/
  counted_eq : ∀ r, s'.counted r = s.counted r + rs.count r
  /-- Sound tables stay sound. -/
  tables_sound : (∀ t, (s.table t).Sound) → ∀ t, (s'.table t).Sound
  /-- The parts that repositories work with stay. -/
  backends_known : (∀ x ∈ s.repositories, s.Knows x.backend) →
    ∀ x ∈ s'.repositories, s'.Knows x.backend

namespace Took

/-- Nothing is taken by a step outside all that is counted. -/
lemma of_eq {s s' : Store κ} (hh : s'.handles = s.handles) (hc : s'.claims = s.claims)
    (hw : s'.writerRegistries = s.writerRegistries)
    (hr : s'.readerRegistries = s.readerRegistries) (ht : s'.tables = s.tables)
    (hrep : s'.repositories = s.repositories) : Took s s' [] where
  handles_eq := hh
  counted_eq r := counted_congr hc hw hr ht r
  tables_sound h t := by
    rw [table, ht]
    exact h t
  backends_known h x hx := by
    rw [hrep] at hx
    exact (h x hx).mono (by rw [ht]) (by rw [hw]) (by rw [hr])

/-- Nothing at all takes nothing. -/
lemma refl (s : Store κ) : Took s s [] := of_eq rfl rfl rfl rfl rfl rfl

/-- Two steps take what both take. -/
lemma trans {s s' s'' : Store κ} {rs rs' : List Resource} (h : Took s s' rs)
    (h' : Took s' s'' rs') : Took s s'' (rs ++ rs') where
  handles_eq := h'.handles_eq.trans h.handles_eq
  counted_eq r := by rw [h'.counted_eq, h.counted_eq, List.count_append, Nat.add_assoc]
  tables_sound ht := h'.tables_sound (h.tables_sound ht)
  backends_known hb := h'.backends_known (h.backends_known hb)

/-- A reference is taken of a claim that is there. -/
lemma takeReference {s : Store κ} {c : ClaimId} (hc : c < s.claims.length) :
    Took s (s.takeReference c) [.reference c] where
  handles_eq := rfl
  counted_eq := counted_takeReference hc
  tables_sound h := h
  backends_known h := h

/-- A write lease is taken from a registry that is there. -/
lemma takeWriteLease {s s' : Store κ} {g : RegistryId} (hg : g < s.writerRegistries.length)
    {x : String} (h : s.takeWriteLease g x = .ok s') : Took s s' [.lease (.write g x)] := by
  refine ⟨?_, counted_takeWriteLease hg h, ?_, ?_⟩ <;> obtain ⟨r, -, rfl⟩ := takeWriteLease_ok h
  · rfl
  · exact fun ht => ht
  · exact fun hb y hy => (hb y hy).mono (by simp) (by simp) (by simp)

/-- A read lease is taken from a registry that is there. -/
lemma takeReadLease {s : Store κ} {g : RegistryId} (hg : g < s.readerRegistries.length)
    (x : String) : Took s (s.takeReadLease g x) [.lease (.read g x)] where
  handles_eq := rfl
  counted_eq := counted_takeReadLease hg x
  tables_sound h := h
  backends_known h y hy := (h y hy).mono (by simp [Store.takeReadLease])
    (by simp [Store.takeReadLease]) (by simp [Store.takeReadLease])

/-- All tables stay sound when a sound one is put in the place of one of them. -/
lemma tables_setTable {s : Store κ} {t : TableId} {x : EntryTable (Key κ)} (hx : x.Sound)
    (h : ∀ t', (s.table t').Sound) (t' : TableId) : ((s.setTable t x).table t').Sound := by
  rw [table_setTable]
  split
  · exact hx
  · exact h t'

/-- A table that gives out shares of one entry. -/
lemma setTable {s : Store κ} {t : TableId} (ps : List Share) (ht : t < s.tables.length)
    {e : EntryId} {x : EntryTable (Key κ)}
    (hx : ∀ e' q, x.tally e' q = (s.table t).tally e' q + if e' = e then ps.count q else 0)
    (hsound : (s.table t).Sound → x.Sound) :
    Took s (s.setTable t x) (ps.map (Share.resource t e)) where
  handles_eq := rfl
  counted_eq := counted_setTable_add ht hx
  tables_sound h := tables_setTable (hsound (h t)) h
  backends_known h y hy := (h y hy).mono (by simp [Store.setTable]) (by simp [Store.setTable])
    (by simp [Store.setTable])

/-- A table that gives out nothing. -/
lemma setTable_same {s : Store κ} {t : TableId} (ht : t < s.tables.length)
    {x : EntryTable (Key κ)} (hx : ∀ e q, x.tally e q = (s.table t).tally e q)
    (hsound : (s.table t).Sound → x.Sound) : Took s (s.setTable t x) [] :=
  setTable (e := 0) [] ht (fun e q => by simp [hx]) hsound

end Took

/-! ### New handles -/

/-- A step that makes at most one handle. The handle holds all that was taken; without one nothing
was taken. -/
inductive Opens (s s' : Store κ) : Prop
  /-- A new handle. -/
  | made (s₁ : Store κ) (x : Handle) (rs : List Resource) (took : Took s s₁ rs)
      (count_eq : ∀ r : Resource, r.isCounted = true → rs.count r = x.resources.count r)
      (whole : x.IsWhole) (eq : s' = (s₁.addHandle x).1)
  /-- No new handle. -/
  | nothing (took : Took s s' [])

/-- A live handle after one was added is that one or an old one. -/
lemma handle?_addHandle {s : Store κ} {x y : Handle} {h : HandleId}
    (hy : (s.addHandle x).1.handle? h = some y) :
    (h = s.handles.length ∧ y = x) ∨ s.handle? h = some y := by
  rw [handle?_eq_some] at hy
  rcases Nat.lt_or_ge h s.handles.length with hlt | hge
  · rw [addHandle, List.getElem?_append_left hlt] at hy
    exact .inr (handle?_eq_some.2 hy)
  · rw [addHandle, List.getElem?_append_right hge, List.getElem?_singleton] at hy
    split at hy
    · next h0 =>
      exact .inl ⟨Nat.le_antisymm (Nat.sub_eq_zero_iff_le.1 h0) hge,
        (Option.some.inj (Option.some.inj hy)).symm⟩
    · cases hy

/-- What a step that takes nothing leaves of a handle. -/
lemma Took.handle? {s s' : Store κ} {rs : List Resource} (h : Took s s' rs) (i : HandleId) :
    s'.handle? i = s.handle? i := by
  rw [Store.handle?, Store.handle?, h.handles_eq]

/-- What is taken is not held by a handle yet. -/
lemma Took.held {s s' : Store κ} {rs : List Resource} (h : Took s s' rs) (r : Resource) :
    s'.held r = s.held r := by
  rw [Store.held, Store.held, h.handles_eq]

/-- **A step that opens a handle leads from a sound state to a sound one.** -/
lemma Sound.opens {s s' : Store κ} (hs : s.Sound) (h : Opens s s') : Leads s s' := by
  cases h with
  | made s₁ x rs took count_eq whole eq =>
    subst eq
    refine ⟨⟨fun r hr => ?_, ?_, ?_, fun i y hy => ?_⟩, ?_, fun i y hi hy => ?_⟩
    · have hcounted := took.counted_eq r
      have hsum : (s₁.addHandle x).1.counted r = s₁.counted r := counted_congr rfl rfl rfl rfl r
      rw [hsum, held_addHandle, took.held, hcounted, count_eq r hr, hs.balanced r hr]
    · exact took.tables_sound hs.tables_sound
    · exact took.backends_known hs.backends_known
    · rcases handle?_addHandle hy with ⟨-, rfl⟩ | hy
      · exact whole
      · exact hs.handles_whole i y (took.handle? i ▸ hy)
    · simp [addHandle, took.handles_eq]
    · rcases handle?_addHandle hy with ⟨rfl, -⟩ | hy
      · exact absurd hi (by simp [took.handles_eq])
      · exact ⟨y, took.handle? i ▸ hy, rfl⟩
  | nothing took =>
    refine ⟨⟨fun r hr => ?_, ?_, ?_, fun i y hy => ?_⟩, ?_, fun i y _ hy => ?_⟩
    · rw [took.counted_eq, took.held, hs.balanced r hr, List.count_nil, Nat.add_zero]
    · exact took.tables_sound hs.tables_sound
    · exact took.backends_known hs.backends_known
    · exact hs.handles_whole i y (took.handle? i ▸ hy)
    · exact Nat.le_of_eq (congrArg List.length took.handles_eq.symm)
    · exact ⟨y, took.handle? i ▸ hy, rfl⟩

/-! ### Giving back -/

/-- A step that changes no handle and gives the resources `rs` back. -/
structure Gave (s s' : Store κ) (rs : List Resource) : Prop where
  /-- The handles stay. -/
  handles_eq : s'.handles = s.handles
  /-- What is given back is counted no more. -/
  counted_eq : ∀ r, s'.counted r = s.counted r - rs.count r
  /-- Sound tables stay sound. -/
  tables_sound : (∀ t, (s.table t).Sound) → ∀ t, (s'.table t).Sound
  /-- The parts that repositories work with stay. -/
  backends_known : (∀ x ∈ s.repositories, s.Knows x.backend) →
    ∀ x ∈ s'.repositories, s'.Knows x.backend

namespace Gave

/-- A step that takes nothing gives nothing back. -/
lemma of_took {s s' : Store κ} (h : Took s s' []) : Gave s s' [] :=
  ⟨h.handles_eq, h.counted_eq, h.tables_sound, h.backends_known⟩

/-- Two steps give back what both give back. -/
lemma trans {s s' s'' : Store κ} {rs rs' : List Resource} (h : Gave s s' rs)
    (h' : Gave s' s'' rs') : Gave s s'' (rs ++ rs') where
  handles_eq := h'.handles_eq.trans h.handles_eq
  counted_eq r := by rw [h'.counted_eq, h.counted_eq, List.count_append, Nat.sub_sub]
  tables_sound ht := h'.tables_sound (h.tables_sound ht)
  backends_known hb := h'.backends_known (h.backends_known hb)

/-- A resource is given back. -/
lemma release (s : Store κ) (r : Resource) : Gave s (s.release r) [r] := by
  refine ⟨handles_release s r, counted_release s r, fun ht => ?_, fun hb => ?_⟩
  · rcases r with c | (⟨g, x⟩ | ⟨g, x⟩) | ⟨t, e⟩ | ⟨t, e⟩ | ⟨t, e⟩ | d
    · exact ht
    · exact ht
    · exact ht
    · exact s.release_resource t e .owner ▸ Took.tables_setTable ((ht t).dropOwner e) ht
    · exact s.release_resource t e .readLock ▸ Took.tables_setTable ((ht t).endRead e) ht
    · exact s.release_resource t e .writeLock ▸ Took.tables_setTable ((ht t).endWrite e) ht
    · exact ht
  · rcases r with c | (⟨g, x⟩ | ⟨g, x⟩) | ⟨t, e⟩ | ⟨t, e⟩ | ⟨t, e⟩ | d <;>
      exact fun y hy => (hb y hy).mono (by simp [Store.release]) (by simp [Store.release])
        (by simp [Store.release])

/-- Resources are given back, one after the other. -/
lemma releaseAll (s : Store κ) (rs : List Resource) : Gave s (s.releaseAll rs) rs := by
  induction rs generalizing s with
  | nil => exact of_took (.refl s)
  | cons r rs ih => exact (release s r).trans (ih (s.release r))

end Gave

/-- A live handle after one was replaced or taken away. -/
lemma handle?_set {s : Store κ} {h i : HandleId} {x' : Option Handle} {y : Handle}
    (hy : ({ s with handles := s.handles.set h x' } : Store κ).handle? i = some y) :
    (i = h ∧ x' = some y) ∨ s.handle? i = some y := by
  rw [handle?_eq_some] at hy
  by_cases hi : h = i
  · subst hi
    rw [List.getElem?_set_self'] at hy
    obtain ⟨_, -, hx⟩ := Option.map_eq_some_iff.1 hy
    exact .inl ⟨rfl, hx⟩
  · rw [List.getElem?_set_ne hi] at hy
    exact .inr (handle?_eq_some.2 hy)

/-- **A step that gives back what a handle held**, and leaves the rest of the handle behind or
takes it away, leads from a sound state to a sound one. -/
lemma Sound.exchange {s s₁ : Store κ} (hs : s.Sound) {h : HandleId} {x : Handle}
    (hx : s.handle? h = some x) {rs : List Resource} (gave : Gave s s₁ rs) {x' : Option Handle}
    (hcount : ∀ r : Resource, r.isCounted = true →
      x.resources.count r = rs.count r + heldBy r x')
    (hrest : ∀ y, x' = some y → y.IsWhole ∧ y.owned? = x.owned?) :
    Leads s { s₁ with handles := s₁.handles.set h x' } := by
  have hkeep : ∀ i, s₁.handle? i = s.handle? i := fun i => by
    rw [Store.handle?, Store.handle?, gave.handles_eq]
  have hx₁ : s₁.handle? h = some x := (hkeep h).trans hx
  refine ⟨⟨fun r hr => ?_, ?_, ?_, fun i y hy => ?_⟩, ?_, fun i y _ hy => ?_⟩
  · have hsame : ({ s₁ with handles := s₁.handles.set h x' } : Store κ).counted r =
        s₁.counted r := counted_congr rfl rfl rfl rfl r
    have hheld := held_set hx₁ x' r
    have hle := count_le_held hx r
    have hsum : s₁.held r = s.held r := by rw [held, held, gave.handles_eq]
    rw [hsame, gave.counted_eq, hs.balanced r hr]
    rw [hcount r hr, hsum] at hheld
    rw [hcount r hr] at hle
    omega
  · exact gave.tables_sound hs.tables_sound
  · exact gave.backends_known hs.backends_known
  · rcases handle?_set hy with ⟨-, hy⟩ | hy
    · exact (hrest y hy).1
    · exact hs.handles_whole i y (hkeep i ▸ hy)
  · simp [gave.handles_eq]
  · rcases handle?_set hy with ⟨rfl, hy'⟩ | hy'
    · exact ⟨x, hx, (hrest y hy').2⟩
    · exact ⟨y, hkeep i ▸ hy', rfl⟩

/-! ### What handles own -/

/-- A table that stores an entry is there. -/
lemma lt_of_stored {s : Store κ} {t : TableId} {e : EntryId} (h : (s.table t).Stored e) :
    t < s.tables.length := by
  by_contra hlt
  have hlen := h.lt
  simp [table, List.getElem?_eq_none (Nat.le_of_not_lt hlt), EntryTable.new] at hlen

/-- **What a live handle owns is stored.** -/
lemma Sound.stored {s : Store κ} (hs : s.Sound) {h : HandleId} {x : Handle}
    (hx : s.handle? h = some x) {t : TableId} {e : EntryId} (hmem : .owner t e ∈ x.resources) :
    (s.table t).Stored e := by
  refine (hs.tables_sound t).toRegular.stored ?_
  have hheld := count_le_held hx (.owner t e)
  have hbal : (s.table t).owners e = s.held (.owner t e) := hs.balanced (.owner t e) rfl
  rw [hbal]
  exact Nat.lt_of_lt_of_le (List.count_pos_iff.2 hmem) hheld

/-- The state in which nothing was made, on any disk. -/
def onDisk (d : Disk) : Store κ := { onDirectory "" with disk := d }

/-- The state in which nothing was made is sound, on any disk. -/
lemma sound_onDisk (d : Disk) : (onDisk d : Store κ).Sound where
  balanced r _ := by
    rcases r with c | (⟨g, x⟩ | ⟨g, x⟩) | ⟨t, e⟩ | ⟨t, e⟩ | ⟨t, e⟩ | d <;> rfl
  tables_sound _ := EntryTable.sound_new 0 0
  backends_known := by simp [onDisk, onDirectory]
  handles_whole := by simp [onDisk, onDirectory, handle?]

/-- An empty store is sound. -/
lemma sound_onDirectory (name : String) : (onDirectory name : Store κ).Sound :=
  sound_onDisk (.withDirectory name)

end Store

end ClaimStore
