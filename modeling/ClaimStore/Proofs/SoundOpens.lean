import ClaimStore.Proofs.Sound

/-!
# Opens keep states sound

Every operation that opens a mapping, a reader or a writer either puts all that it takes into the
new handle, or fails and has taken nothing. This is shown for each backend, and from there for
whole repositories.

## Main results

* `Store.opens_mapInFiles`, `Store.opens_writeInFiles`, `Store.opens_readInFiles` — files.
* `Store.opens_mapInTable`, `Store.opens_writeInTable`, `Store.opens_readInTable` — entries.
* `Store.opens_mapInRows`, `Store.opens_writeInRows`, `Store.opens_readInRows` — rows.
* `Store.opens_mapIn`, `Store.opens_writeIn`, `Store.opens_readIn`, `Store.took_removeIn` — any
  backend.
-/

set_option autoImplicit false

namespace ClaimStore

/-! ### What new handles hold -/

/-- The resource of a lease, if there is one. -/
def leaseResources : Option Lease → List Resource
  | none => []
  | some l => [.lease l]

/-- What a mapping holds after one more hook was registered. -/
lemma count_resources_push (m : Mapping) (h : Hook) (r : Resource) :
    (Mapping.resources { m with hooks := m.hooks.push h }).count r =
      m.resources.count r + h.resources.count r := by
  simp only [Mapping.resources, UnmapHooks.resources, UnmapHooks.push, List.flatMap_append,
    List.flatMap_singleton, List.count_append]
  omega

/-- What the hook of a held mapping holds. -/
lemma count_resources_hold (c : ClaimId) (l : Option Lease) (r : Resource) :
    (Hook.hold c l).resources.count r =
      (leaseResources l).count r + [Resource.reference c].count r := by
  cases l with
  | none => simp [Hook.resources, leaseResources]
  | some l =>
    show ([Resource.lease l] ++ [Resource.reference c]).count r = _
    exact List.count_append

/-- The place in the lock of an entry that a mapping needs. -/
def lockShare (readOnly : Bool) : Share := if readOnly then .readLock else .writeLock

/-- What a mapping of an entry holds. -/
lemma resources_entryMapping (t : TableId) (e : EntryId) (n : UInt64) (readOnly : Bool) :
    (Store.entryMapping t e n readOnly).resources =
      [(lockShare readOnly).resource t e, .owner t e] := by
  cases readOnly <;> rfl

/-- A mapping of an entry through which bytes can be changed shows all of them. -/
lemma isWhole_entryMapping (t : TableId) (e : EntryId) (n : UInt64) (readOnly : Bool) :
    (Store.entryMapping t e n readOnly).IsWhole := by
  intro b hb hv
  cases readOnly with
  | true => rfl
  | false =>
    obtain rfl := Backing.entry.inj hb
    cases hv

/-- Two shares of one entry, as a list. -/
lemma count_pair (e e' : EntryId) (p p' q : Share) :
    (if e' = e ∧ q = p then 1 else 0) + (if e' = e ∧ q = p' then 1 else 0) =
      if e' = e then [p, p'].count q else 0 := by
  by_cases he : e' = e
  · simp only [he, true_and, if_true, List.count_cons, List.count_nil, beq_iff_eq, Nat.zero_add,
      eq_comm (a := q)]
    exact Nat.add_comm _ _
  · simp [he]

namespace Store

variable {κ : Type}

/-- A new mapping that holds a claim, after a step that took what else it holds. -/
lemma opens_addHeldMapping {s s₁ : Store κ} {rs : List Resource} (took : Took s s₁ rs)
    {c : ClaimId} (hc : c < s₁.claims.length) {m : Mapping} {l : Option Lease}
    (hcount : ∀ r : Resource, r.isCounted = true →
      rs.count r = m.resources.count r + (leaseResources l).count r)
    (hwhole : m.IsWhole) : Opens s (s₁.addHeldMapping m c l).1 := by
  refine .made _ (.mapping { m with hooks := m.hooks.push (.hold c l) }) _
    (took.trans (.takeReference hc)) (fun r hr => ?_) hwhole rfl
  show _ = (Mapping.resources { m with hooks := m.hooks.push (.hold c l) }).count r
  rw [count_resources_push, count_resources_hold, List.count_append, hcount r hr, Nat.add_assoc]

/-- A new reader, after a step that took what its source holds. -/
lemma opens_addReader {s s₁ : Store κ} {rs : List Resource} (took : Took s s₁ rs) {c : ClaimId}
    (hc : c < s₁.claims.length) {source : Source}
    (hcount : ∀ r, rs.count r = source.resources.count r) :
    Opens s (s₁.addReader c source).1 := by
  refine .made _ (.reader { claim := c, source, position := 0 }) _
    (took.trans (.takeReference hc)) (fun r _ => ?_) trivial rfl
  show _ = (Reader.resources { claim := c, source, position := 0 }).count r
  rw [Reader.resources, List.count_append, List.count_append, hcount]

/-- What a new writer holds besides its claim and its lease. -/
def sinkResources : Sink → List Resource
  | .entry t e => [.writeLock t e, .owner t e]
  | .file .. | .row .. => []

/-- A new writer, after a step that took its lease and what its sink holds. -/
lemma opens_addWriter {s s₁ : Store κ} {rs : List Resource} (took : Took s s₁ rs) {c : ClaimId}
    (hc : c < s₁.claims.length) {sink : Sink} {l : Lease}
    (hcount : ∀ r, rs.count r = [Resource.lease l].count r + (sinkResources sink).count r) :
    Opens s (s₁.addWriter c sink l).1 := by
  refine .made _ (.writer { claim := c, sink, written := 0, lease := some l }) _
    (took.trans (.takeReference hc)) (fun r hr => ?_) trivial rfl
  show _ = (Writer.resources { claim := c, sink, written := 0, lease := some l }).count r
  rw [List.count_append, hcount]
  cases sink with
  | file id offset =>
    simp [Writer.resources, Writer.openResources, Writer.keptResources, sinkResources,
      List.count_cons]
    omega
  | entry t e =>
    simp [Writer.resources, Writer.openResources, Writer.keptResources, sinkResources,
      List.count_cons]
    omega
  | row d key b =>
    have hd : Resource.database d ≠ r := by
      rintro rfl
      cases hr
    simp [Writer.resources, Writer.openResources, Writer.keptResources, sinkResources,
      List.count_cons, hd]
    omega

/-! ### Files -/

section Files

variable {s : Store κ} {directory : Path} {w r : RegistryId} {c : ClaimId}

/-- A change of the disk alone takes nothing. -/
lemma took_disk (s : Store κ) (d : Disk) : Took s { s with disk := d } [] :=
  .of_eq rfl rfl rfl rfl rfl rfl

/-- A file backing holds nothing. -/
lemma count_resources_file (b : FileBacking) (readOnly : Bool) (r : Resource) :
    (Mapping.resources { backing := .file b, readOnly, hooks := .empty }).count r = 0 := rfl

/-- A mapping of a file has no entry. -/
lemma isWhole_file (b : FileBacking) (readOnly : Bool) (hooks : UnmapHooks) :
    Mapping.IsWhole { backing := .file b, readOnly, hooks } := by
  intro b' hb
  cases hb

/-- A mapping of a file holds the reference, and the lease of its sort. -/
lemma opens_mapInFiles (hw : w < s.writerRegistries.length) (hr : r < s.readerRegistries.length)
    (hc : c < s.claims.length) (n : UInt64) (readOnly : Bool) :
    Opens s (s.mapInFiles directory w r c n readOnly).1 := by
  unfold mapInFiles
  cases readOnly with
  | true =>
    simp only [if_true]
    split
    · exact .nothing (.refl s)
    · exact .nothing (.refl s)
    · split
      · exact .nothing (.refl s)
      · exact opens_addHeldMapping (.takeReadLease hr _) hc
          (fun r' _ => (Nat.zero_add _).symm) (isWhole_file _ _ _)
  | false =>
    simp only [Bool.false_eq_true, if_false]
    split
    · exact .nothing (.refl s)
    · next leased hl =>
      have took := Took.takeWriteLease hw hl
      obtain ⟨reg, -, rfl⟩ := takeWriteLease_ok hl
      split
      · exact .nothing (took_disk s _)
      · next d b hb =>
        refine opens_addHeldMapping (took.trans (took_disk _ d)) hc (fun r' _ => ?_)
          (isWhole_file _ _ _)
        rw [count_resources_file, List.append_nil, Nat.zero_add]
        rfl

/-- A reader of a file holds the reference. -/
lemma opens_readInFiles (hc : c < s.claims.length) : Opens s (s.readInFiles directory c).1 := by
  unfold readInFiles
  dsimp only
  split
  · exact .nothing (.refl s)
  · exact .nothing (.refl s)
  · exact opens_addReader (.refl s) hc fun r => rfl

/-- A writer to a file holds the reference and the write lease. -/
lemma opens_writeInFiles (hw : w < s.writerRegistries.length) (hc : c < s.claims.length)
    (append : Bool) : Opens s (s.writeInFiles directory w r c append).1 := by
  unfold writeInFiles
  dsimp only
  split
  · exact .nothing (.refl s)
  · next leased hl =>
    have took := Took.takeWriteLease hw hl
    obtain ⟨reg, -, rfl⟩ := takeWriteLease_ok hl
    have opened : ∀ (d : Disk) (id : FileId) (offset : Option Nat),
        Opens s (addWriter { s with writerRegistries := s.writerRegistries.set w reg, disk := d } c
          (.file id offset) (.write w (s.identifier c))).1 := by
      intro d id offset
      refine opens_addWriter (took.trans (took_disk _ d)) hc fun r' => ?_
      rw [List.append_nil]
      rfl
    split
    · exact .nothing (took_disk s _)
    · split
      · exact .nothing (took_disk s _)
      · split
        · exact opened _ _ _
        · split
          · exact .nothing (took_disk s _)
          · exact opened _ _ _

/-- A file that is unlinked takes nothing. -/
lemma took_removeInFiles (s : Store κ) (directory : Path) (identifier : String) :
    Took s (s.removeInFiles directory identifier).1 [] := by
  unfold removeInFiles
  dsimp only
  split
  · exact took_disk s _
  · exact .refl s
  · exact .refl s

end Files

/-! ### Entries -/

section Entries

variable {s : Store κ} {t : TableId} {w : RegistryId} {c : ClaimId}

/-- An entry that is borrowed and locked for a mapping. -/
lemma took_lockFor [ToString κ] (ht : t < s.tables.length) {e : EntryId}
    (he : (s.table t).Stored e) {n : UInt64} {readOnly : Bool} {x : EntryTable (Key κ)}
    (h : ((s.table t).takeOwner e).lockFor e n readOnly = .ok x) :
    Took s (s.setTable t x) [.owner t e, (lockShare readOnly).resource t e] := by
  have hlock := @EntryTable.locks_lockFor κ _ n readOnly
  refine Took.setTable [.owner, lockShare readOnly] ht (fun e' q => ?_) fun hs => ?_
  · rw [hlock.tally_eq h, EntryTable.tally_takeOwner he.lt, Nat.add_assoc]
    exact congrArg _ (count_pair e e' .owner (lockShare readOnly) q)
  · exact hlock.sound h (hs.takeOwner he) (he.modify fun _ => rfl)

/-- A borrow that is given back at once. -/
lemma took_dropOwner (ht : t < s.tables.length) {e : EntryId} (he : (s.table t).Stored e) :
    Took s (s.setTable t (((s.table t).takeOwner e).dropOwner e)) [] := by
  refine Took.setTable_same ht (fun e' q => ?_) fun hs => (hs.takeOwner he).dropOwner e
  rw [EntryTable.tally_dropOwner, EntryTable.tally_takeOwner he.lt, Nat.add_sub_cancel]

/-- An entry that is borrowed and read-locked for a reader. -/
lemma took_tryRead (ht : t < s.tables.length) {e : EntryId} (he : (s.table t).Stored e)
    {x : EntryTable (Key κ)} (h : ((s.table t).takeOwner e).tryRead e = some x) :
    Took s (s.setTable t x) [.owner t e, .readLock t e] := by
  refine Took.setTable [.owner, .readLock] ht (fun e' q => ?_)
    fun hs => (hs.takeOwner he).tryRead h
  rw [EntryTable.tally_tryRead h, EntryTable.tally_takeOwner he.lt, Nat.add_assoc]
  exact congrArg _ (count_pair e e' .owner .readLock q)

/-- An open that succeeds borrows its entry and takes a place in its lock. -/
lemma took_withEntry [DecidableEq κ] (ht : t < s.tables.length) {identifier : String}
    {lock : EntryTable (Key κ) → EntryId → Except ContentError (EntryTable (Key κ))} {p : Share}
    (hlock : EntryTable.Locks lock p) {e : EntryId} {x : EntryTable (Key κ)}
    (h : withEntry (s.table t) identifier lock = (x, .ok e)) :
    Took s (s.setTable t x) [.owner t e, p.resource t e] := by
  refine Took.setTable [.owner, p] ht (fun e' q => ?_) fun hs => hs.withEntry hlock h
  rw [EntryTable.tally_withEntry_ok hlock h, Nat.add_assoc]
  exact congrArg _ (count_pair e e' .owner p q)

/-- An open that fails takes nothing. -/
lemma took_withEntry_error [DecidableEq κ] (ht : t < s.tables.length) {identifier : String}
    {lock : EntryTable (Key κ) → EntryId → Except ContentError (EntryTable (Key κ))} {p : Share}
    (hlock : EntryTable.Locks lock p) {x : EntryTable (Key κ)} {y : ContentError}
    (h : withEntry (s.table t) identifier lock = (x, .error y)) : Took s (s.setTable t x) [] :=
  .setTable_same ht (EntryTable.tally_withEntry_error h) fun hs => hs.withEntry hlock h

variable [DecidableEq κ]

/-- A mapping of an entry holds the reference, a share of the entry and its lock, and the write
lease if it is writable. -/
lemma opens_mapInTable [ToString κ] (ht : t < s.tables.length) (hw : w < s.writerRegistries.length)
    (hc : c < s.claims.length) (n : UInt64) (readOnly : Bool) :
    Opens s (s.mapInTable t w c n readOnly).1 := by
  unfold mapInTable
  cases readOnly with
  | true =>
    simp only [if_true]
    split
    · exact .nothing (.refl s)
    · next e borrowed hb =>
      obtain ⟨hf, rfl⟩ := EntryTable.borrow_eq_some hb
      have he := EntryTable.stored_of_find? hf
      split
      · exact .nothing (took_dropOwner ht he)
      · next locked hl =>
        refine opens_addHeldMapping (took_lockFor ht he hl) hc (fun r _ => ?_)
          (isWhole_entryMapping t e n true)
        rw [resources_entryMapping]
        simp [leaseResources, List.count_cons, Nat.add_comm]
  | false =>
    simp only [Bool.false_eq_true, if_false]
    split
    · exact .nothing (.refl s)
    · next leased hl =>
      have took := Took.takeWriteLease hw hl
      obtain ⟨reg, -, rfl⟩ := takeWriteLease_ok hl
      have hlock := @EntryTable.locks_lockFor κ _ n false
      split
      · next table x hx => exact .nothing (took_withEntry_error ht hlock hx)
      · next table e hx =>
        refine opens_addHeldMapping (took.trans (took_withEntry (s := { s with
          writerRegistries := s.writerRegistries.set w reg }) ht hlock hx)) hc (fun r _ => ?_)
          (isWhole_entryMapping t e n false)
        rw [resources_entryMapping]
        simp only [leaseResources, lockShare, Bool.false_eq_true, if_false, List.count_append,
          List.count_cons, List.count_nil, Share.resource]
        omega

/-- A reader of an entry holds the reference, a share of the entry and its read lock. -/
lemma opens_readInTable (ht : t < s.tables.length) (hc : c < s.claims.length) :
    Opens s (s.readInTable t c).1 := by
  unfold readInTable
  dsimp only
  split
  · exact .nothing (.refl s)
  · next e borrowed hb =>
    obtain ⟨hf, rfl⟩ := EntryTable.borrow_eq_some hb
    have he := EntryTable.stored_of_find? hf
    split
    · exact .nothing (took_dropOwner ht he)
    · next locked hl =>
      refine opens_addReader (took_tryRead ht he hl) hc fun r => ?_
      simp [Source.resources, List.count_cons, Nat.add_comm]

/-- A writer to an entry holds the reference, the write lease, a share of the entry and its write
lock. -/
lemma opens_writeInTable (ht : t < s.tables.length) (hw : w < s.writerRegistries.length)
    (hc : c < s.claims.length) (append : Bool) : Opens s (s.writeInTable t w c append).1 := by
  unfold writeInTable
  dsimp only
  split
  · exact .nothing (.refl s)
  · next leased hl =>
    have took := Took.takeWriteLease hw hl
    obtain ⟨reg, -, rfl⟩ := takeWriteLease_ok hl
    have hlock := @EntryTable.locks_lockForWriter κ (s.identifier c) append
    split
    · next table x hx => exact .nothing (took_withEntry_error ht hlock hx)
    · next table e hx =>
      refine opens_addWriter (took.trans (took_withEntry (s := { s with
        writerRegistries := s.writerRegistries.set w reg }) ht hlock hx)) hc fun r => ?_
      simp only [sinkResources, List.count_append, List.count_cons, List.count_nil,
        Share.resource]
      omega

/-- An entry that is erased takes nothing. -/
lemma took_removeInTable (ht : t < s.tables.length) (identifier : String) :
    Took s (s.removeInTable t identifier).1 [] := by
  have took : Took s (s.setTable t ((s.table t).remove (.text identifier)).2) [] :=
    .setTable_same ht (fun e q => EntryTable.tally_remove _ _ e q) fun hs => hs.remove _
  unfold removeInTable
  split <;> next h => rw [h] at took; exact took

end Entries

/-! ### Rows -/

section Rows

variable {s : Store κ} {d : DatabaseId} {w : RegistryId} {c : ClaimId}

/-- A mapping of a buffer has no entry. -/
lemma isWhole_buffer (b : BufferBacking) (readOnly : Bool) (hooks : UnmapHooks) :
    Mapping.IsWhole { backing := .buffer b, readOnly, hooks } := by
  intro b' hb
  cases hb

/-- A mapping of a row holds the reference, and the write lease if it is writable. -/
lemma opens_mapInRows (hw : w < s.writerRegistries.length) (hc : c < s.claims.length) (n : UInt64)
    (readOnly : Bool) : Opens s (s.mapInRows d w c n readOnly).1 := by
  unfold mapInRows
  cases readOnly with
  | true =>
    simp only [if_true]
    split
    · exact .nothing (.refl s)
    · split
      · exact .nothing (.refl s)
      · exact opens_addHeldMapping (.refl s) hc (fun r _ => rfl) (isWhole_buffer _ _ _)
  | false =>
    simp only [Bool.false_eq_true, if_false]
    split
    · exact .nothing (.refl s)
    · next leased hl =>
      have took := Took.takeWriteLease hw hl
      obtain ⟨reg, -, rfl⟩ := takeWriteLease_ok hl
      refine opens_addHeldMapping took hc (fun r hr => ?_) (isWhole_buffer _ _ _)
      -- the hook that stores the row uses the database, which is not counted
      have hd : Resource.database d ≠ r := by
        rintro rfl
        cases hr
      simp [Mapping.resources, UnmapHooks.push, UnmapHooks.empty, UnmapHooks.resources,
        Hook.resources, Backing.viewResources, Backing.keptResources, leaseResources, hd]

/-- A reader of a row holds the reference. -/
lemma opens_readInRows (hc : c < s.claims.length) : Opens s (s.readInRows d c).1 := by
  unfold readInRows
  split
  · exact .nothing (.refl s)
  · exact opens_addReader (.refl s) hc fun r => rfl

/-- A writer to a row holds the reference and the write lease. -/
lemma opens_writeInRows (hw : w < s.writerRegistries.length) (hc : c < s.claims.length)
    (append : Bool) : Opens s (s.writeInRows d w c append).1 := by
  unfold writeInRows
  dsimp only
  split
  · exact .nothing (.refl s)
  · next leased hl =>
    have took := Took.takeWriteLease hw hl
    obtain ⟨reg, -, rfl⟩ := takeWriteLease_ok hl
    exact opens_addWriter took hc fun r => rfl

end Rows

/-! ### Any backend -/

section Backends

variable {s : Store κ} {b : Backend} {c : ClaimId}

/-- The parts of an open repository are there. -/
lemma Sound.knows (hs : s.Sound) {r : RepositoryId} (h : s.backend? r = some b) : s.Knows b := by
  unfold backend? at h
  cases hx : s.repositories[r]? with
  | none => simp [hx] at h
  | some x =>
    simp only [hx] at h
    split at h
    · obtain rfl := Option.some.inj h
      exact hs.backends_known x (List.mem_of_getElem? hx)
    · cases h

/-- The repository of a claim is open. -/
lemma backend?_of_repositoryOf {r : RepositoryId} (h : s.repositoryOf c = some (r, b)) :
    s.backend? r = some b := by
  unfold repositoryOf at h
  split at h
  · cases h
  · split at h
    · cases h
    · obtain ⟨b', hb', heq⟩ := Option.map_eq_some_iff.1 h
      obtain ⟨rfl, rfl⟩ := Prod.mk.inj heq
      exact hb'

/-- What opens in every backend keeps states sound in a repository. -/
lemma Sound.inRepository {α : Type} (hs : s.Sound) {r : RepositoryId}
    {act : Store κ → Backend → Store κ × Except Failure α}
    (h : ∀ b, s.Knows b → Opens s (act s b).1) : Leads s (s.inRepository r c act).1 := by
  unfold Store.inRepository
  split
  · next b hb => exact hs.opens (h b (hs.knows hb))
  · exact .refl hs

/-- What opens in every backend keeps states sound in the repository of a claim. -/
lemma Sound.routed {α : Type} (hs : s.Sound)
    {act : Store κ → Backend → Store κ × Except Failure α}
    (h : ∀ b, s.Knows b → Opens s (act s b).1) : Leads s (s.routed c act).1 := by
  unfold Store.routed
  split
  · next r b hb => exact hs.opens (h b (hs.knows (backend?_of_repositoryOf hb)))
  · exact .refl hs

variable [DecidableEq κ]

/-- An erase takes nothing. -/
lemma took_eraseIn (hb : s.Knows b) : Took s (s.eraseIn b c).1 [] := by
  cases b with
  | files directory w r =>
    rw [eraseIn]
    exact took_removeInFiles s directory _
  | volatile t w =>
    rw [eraseIn]
    exact took_removeInTable hb.1 _
  | database d p w => exact .of_eq rfl rfl rfl rfl rfl rfl

/-- A removal takes nothing. -/
lemma took_removeIn (hb : s.Knows b) : Took s (s.removeIn b c).1 [] := by
  rcases s.removeIn_cases b c with ⟨f, heq⟩ | ⟨-, heq⟩ <;> rw [heq]
  · exact .refl s
  · exact took_eraseIn hb

/-- A reader holds all that was taken for it, whatever the backend. -/
lemma opens_readIn (hb : s.Knows b) (hc : c < s.claims.length) : Opens s (s.readIn b c).1 := by
  cases b with
  | files directory w r =>
    rw [readIn]
    exact opens_readInFiles hc
  | volatile t w =>
    rw [readIn]
    exact opens_readInTable hb.1 hc
  | database d p w =>
    rw [readIn]
    exact opens_readInRows hc

/-- So does a writer. -/
lemma opens_writeIn (hb : s.Knows b) (hc : c < s.claims.length) (append : Bool) :
    Opens s (s.writeIn b c append).1 := by
  cases b with
  | files directory w r =>
    rw [writeIn]
    exact opens_writeInFiles hb.1 hc append
  | volatile t w =>
    rw [writeIn]
    exact opens_writeInTable hb.1 hb.2 hc append
  | database d p w =>
    rw [writeIn]
    exact opens_writeInRows hb hc append

/-- So does a mapping. -/
lemma opens_mapIn [ToString κ] (hb : s.Knows b) (hc : c < s.claims.length) (n : UInt64)
    (readOnly : Bool) : Opens s (s.mapIn b c n readOnly).1 := by
  cases b with
  | files directory w r =>
    rw [mapIn]
    exact opens_mapInFiles hb.1 hb.2 hc n readOnly
  | volatile t w =>
    rw [mapIn]
    exact opens_mapInTable hb.1 hb.2 hc n readOnly
  | database d p w =>
    rw [mapIn]
    exact opens_mapInRows hb hc n readOnly

end Backends

end Store

end ClaimStore
