import ClaimStore.Proofs.EntryFrames
import ClaimStore.Proofs.LedgerCounts

/-!
# Who is inside the lock of a value

The readers and the writer that a lock counts are live handles: read-only mappings, readers and
guards inside as readers, and writable mappings, open writers and guards inside as the writer. So
where the lock is exclusive, a handle that writes a value is the only one that reads or writes it.

## Main definitions

* `Handle.reads?`, `Handle.writes?` — the value that a handle reads or writes.
* `Store.readsValue`, `Store.writesValue` — a live handle reads or writes a value.

## Main results

* `Store.Sound.readLock_pos_iff`, `Store.Sound.writeLock_pos_iff` — locks count handles.
* `Store.Sound.writer_alone` — a writer is alone inside an exclusive lock.
-/

set_option autoImplicit false

namespace ClaimStore

/-- The value that a handle reads: that of a read-only mapping until it is unmapped, of a reader and
of a guard that does not write. -/
def Handle.reads? : Handle → Option (TableId × EntryId)
  | .mapping m =>
    match m.backing with
    | .entry b => if b.view = .read then b.borrow else none
    | .file _ | .buffer _ => none
  | .reader r =>
    match r.source with
    | .entry t e => some (t, e)
    | .file .. | .bytes _ => none
  | .guard t e false => some (t, e)
  | .guard _ _ true | .writer _ | .reference _ | .lease _ | .borrow .. => none

/-- The value that a handle writes: that of a writable mapping until it is unmapped, of a writer
until it is closed, and of a guard that writes. -/
def Handle.writes? : Handle → Option (TableId × EntryId)
  | .mapping m =>
    match m.backing with
    | .entry b => if b.view = .write then b.borrow else none
    | .file _ | .buffer _ => none
  | .writer w =>
    match w.lease, w.sink with
    | some _, .entry t e => some (t, e)
    | _, _ => none
  | .guard t e true => some (t, e)
  | .guard _ _ false | .reader _ | .reference _ | .lease _ | .borrow .. => none

namespace Store

variable {κ : Type} {s : Store κ} {t : TableId} {e : EntryId}

/-! ### Handles inside a lock -/

/-- A hook holds no share of an entry. -/
lemma count_share_hook (k : Hook) (t : TableId) (e : EntryId) (p : Share) :
    k.resources.count (p.resource t e) = 0 := by
  rcases k with ⟨d, key⟩ | ⟨c, _ | l⟩ | _ <;> cases p <;> simp [Hook.resources, Share.resource]

/-- No share of an entry is held by a hook. -/
lemma count_share_hooks (u : UnmapHooks) (t : TableId) (e : EntryId) (p : Share) :
    u.resources.count (p.resource t e) = 0 := by
  rw [UnmapHooks.resources, List.count_flatMap]
  simp [Function.comp_def, count_share_hook]

/-- A handle is inside a lock as a reader exactly if it reads the value. -/
lemma count_readLock (x : Handle) (t : TableId) (e : EntryId) :
    x.resources.count (.readLock t e) = if x.reads? = some (t, e) then 1 else 0 := by
  rcases x with ⟨backing, readOnly, hooks⟩ | ⟨c, source, p⟩ | ⟨c, sink, n, l⟩ | c | l | ⟨t', e'⟩ |
    ⟨t', e', writing⟩
  · have hhooks := count_share_hooks hooks t e .readLock
    simp only [Share.resource] at hhooks
    simp only [Handle.resources, Mapping.resources, List.count_append, hhooks, Handle.reads?]
    cases backing with
    | file b => simp [Backing.viewResources, Backing.keptResources]
    | entry b =>
      rcases b with ⟨_ | ⟨t', e'⟩, size, _ | _ | _⟩ <;>
        simp [Backing.viewResources, Backing.keptResources, EntryBacking.viewResources,
          EntryBacking.keptResources, List.count_cons]
    | buffer b => simp [Backing.viewResources, Backing.keptResources]
  · cases source <;>
      simp [Handle.resources, Reader.resources, Source.resources, Handle.reads?, List.count_cons]
  · cases sink <;> cases l <;>
      simp [Handle.resources, Writer.resources, Writer.openResources, Writer.keptResources,
        Handle.reads?]
  · simp [Handle.resources, Handle.reads?]
  · simp [Handle.resources, Handle.reads?]
  · simp [Handle.resources, Handle.reads?]
  · cases writing <;> simp [Handle.resources, Handle.reads?, List.count_cons]

/-- A handle is inside a lock as its writer exactly if it writes the value. -/
lemma count_writeLock (x : Handle) (t : TableId) (e : EntryId) :
    x.resources.count (.writeLock t e) = if x.writes? = some (t, e) then 1 else 0 := by
  rcases x with ⟨backing, readOnly, hooks⟩ | ⟨c, source, p⟩ | ⟨c, sink, n, l⟩ | c | l | ⟨t', e'⟩ |
    ⟨t', e', writing⟩
  · have hhooks := count_share_hooks hooks t e .writeLock
    simp only [Share.resource] at hhooks
    simp only [Handle.resources, Mapping.resources, List.count_append, hhooks, Handle.writes?]
    cases backing with
    | file b => simp [Backing.viewResources, Backing.keptResources]
    | entry b =>
      rcases b with ⟨_ | ⟨t', e'⟩, size, _ | _ | _⟩ <;>
        simp [Backing.viewResources, Backing.keptResources, EntryBacking.viewResources,
          EntryBacking.keptResources, List.count_cons]
    | buffer b => simp [Backing.viewResources, Backing.keptResources]
  · cases source <;>
      simp [Handle.resources, Reader.resources, Source.resources, Handle.writes?]
  · cases sink <;> cases l <;>
      simp [Handle.resources, Writer.resources, Writer.openResources, Writer.keptResources,
        Handle.writes?, List.count_cons]
  · simp [Handle.resources, Handle.writes?]
  · simp [Handle.resources, Handle.writes?]
  · simp [Handle.resources, Handle.writes?]
  · cases writing <;> simp [Handle.resources, Handle.writes?, List.count_cons]

/-! ### Locks count handles -/

/-- A live handle reads a value. -/
def readsValue (s : Store κ) (t : TableId) (e : EntryId) (h : HandleId) : Bool :=
  (s.handle? h).any fun x => x.reads? == some (t, e)

/-- A live handle writes a value. -/
def writesValue (s : Store κ) (t : TableId) (e : EntryId) (h : HandleId) : Bool :=
  (s.handle? h).any fun x => x.writes? == some (t, e)

/-- A handle reads a value where it holds the read lock. -/
lemma readsValue_iff {h : HandleId} : s.readsValue t e h = true ↔
    ∃ x, s.handle? h = some x ∧ x.reads? = some (t, e) := by
  simp [readsValue, Option.any_eq_true]

/-- A handle writes to a value where it holds the write lock. -/
lemma writesValue_iff {h : HandleId} : s.writesValue t e h = true ↔
    ∃ x, s.handle? h = some x ∧ x.writes? = some (t, e) := by
  simp [writesValue, Option.any_eq_true]

/-- A lock counts the handles that are inside. -/
lemma Sound.tally_eq (hs : s.Sound) {q : HandleId → Bool} {p : Share} (hp : p ≠ .owner)
    (hq : ∀ h x, s.handle? h = some x →
      x.resources.count (p.resource t e) = if q h = true then 1 else 0)
    (hnone : ∀ h, s.handle? h = none → q h = false) :
    (s.table t).tally e p =
      ((Finset.range s.handles.length).filter fun h => q h = true).card := by
  rw [← held_eq_card hq hnone]
  cases p with
  | owner => exact absurd rfl hp
  | readLock => exact hs.balanced (.readLock t e) rfl
  | writeLock => exact hs.balanced (.writeLock t e) rfl

/-- **The readers of a lock are the handles that read the value.** -/
lemma Sound.tally_readLock (hs : s.Sound) (t : TableId) (e : EntryId) :
    (s.table t).tally e .readLock =
      ((Finset.range s.handles.length).filter fun h => s.readsValue t e h = true).card := by
  refine hs.tally_eq nofun (fun h x hx => ?_) fun h hn => by simp [readsValue, hn]
  simp [Share.resource, count_readLock, readsValue, hx]

/-- **The writer of a lock is the handle that writes the value.** -/
lemma Sound.tally_writeLock (hs : s.Sound) (t : TableId) (e : EntryId) :
    (s.table t).tally e .writeLock =
      ((Finset.range s.handles.length).filter fun h => s.writesValue t e h = true).card := by
  refine hs.tally_eq nofun (fun h x hx => ?_) fun h hn => by simp [writesValue, hn]
  simp [Share.resource, count_writeLock, writesValue, hx]

/-- A handle that is found in a state has a number in use. -/
lemma mem_range_of_any {q : Handle → Bool} {h : HandleId} (hq : (s.handle? h).any q = true) :
    h ∈ Finset.range s.handles.length := by
  obtain ⟨x, hx, -⟩ := Option.any_eq_true .. |>.1 hq
  exact Finset.mem_range.2 (lt_of_handle? hx)

/-- A value is locked for reading exactly where a handle reads it. -/
lemma Sound.readLock_pos_iff (hs : s.Sound) :
    0 < (s.table t).tally e .readLock ↔ ∃ h, s.readsValue t e h = true := by
  rw [hs.tally_readLock, Finset.card_pos]
  exact ⟨fun ⟨h, hmem⟩ => ⟨h, (Finset.mem_filter.1 hmem).2⟩,
    fun ⟨h, hr⟩ => ⟨h, Finset.mem_filter.2 ⟨mem_range_of_any hr, hr⟩⟩⟩

/-- A value is locked for writing exactly where a handle writes to it. -/
lemma Sound.writeLock_pos_iff (hs : s.Sound) :
    0 < (s.table t).tally e .writeLock ↔ ∃ h, s.writesValue t e h = true := by
  rw [hs.tally_writeLock, Finset.card_pos]
  exact ⟨fun ⟨h, hmem⟩ => ⟨h, (Finset.mem_filter.1 hmem).2⟩,
    fun ⟨h, hw⟩ => ⟨h, Finset.mem_filter.2 ⟨mem_range_of_any hw, hw⟩⟩⟩

/-- A lock has room for one writer. -/
lemma tally_writeLock_le {K : Type} (t : EntryTable K) (e : EntryId) :
    t.tally e .writeLock ≤ 1 := by
  unfold EntryTable.tally Entry.tally
  split
  · dsimp only
    split <;> omega
  · exact Nat.zero_le 1

/-- **A writer is alone inside an exclusive lock.** -/
lemma Sound.writer_alone (hs : s.Sound) (hexclusive : (s.table t).Exclusive) {h h' : HandleId}
    (hw : s.writesValue t e h = true)
    (hi : s.readsValue t e h' = true ∨ s.writesValue t e h' = true) : h' = h := by
  rcases hi with hr | hw'
  · have hzero := hexclusive e (hs.writeLock_pos_iff.2 ⟨h, hw⟩)
    exact absurd (hs.readLock_pos_iff.2 ⟨h', hr⟩) (by simp [hzero])
  · have hle := tally_writeLock_le (s.table t) e
    rw [hs.tally_writeLock] at hle
    exact Finset.card_le_one.1 hle h' (Finset.mem_filter.2 ⟨mem_range_of_any hw', hw'⟩) h
      (Finset.mem_filter.2 ⟨mem_range_of_any hw, hw⟩)

/-- While a handle writes a value, nobody reads it. -/
lemma Sound.readers_eq_zero (hs : s.Sound) (hexclusive : (s.table t).Exclusive) {h : HandleId}
    (hw : s.writesValue t e h = true) : (s.table t).tally e .readLock = 0 :=
  hexclusive e (hs.writeLock_pos_iff.2 ⟨h, hw⟩)

end Store

end ClaimStore
