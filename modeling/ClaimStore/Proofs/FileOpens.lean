import ClaimStore.Proofs.FileKeeps

/-!
# Opens in a file repository

A mapping that is opened has its file open under its name, and the file is long enough for it; a
writer that replaces what a file holds cuts the file only where nothing shows it.

## Main results

* `FileBacking.openWritable_spec` — a file that is opened for mapping.
* `Store.Tidy.adds_mapInFiles` — a mapping in a file repository.
* `Store.Tidy.keeps_writeInFiles` — a writer in a file repository.
-/

set_option autoImplicit false

namespace ClaimStore

/-! ### Opening files -/

section Opening

variable {d d' : Disk} {D : Path} {id : FileId} {x : String} {n : UInt64} {b : FileBacking}

/-- A file that is opened for writing has the name under which it was opened. -/
lemma Plain.found_of_openCreating (hx : Plain x) (hd : d.Sound)
    (h : d.openCreating (contentPath D x) = .ok (id, d')) :
    ∃ i, (d'.entries i).lookup x = some (.file id) := by
  obtain ⟨i, hi, ⟨rfl, hl⟩ | ⟨rfl, rfl, hl⟩⟩ := hx.lookup_of_openCreating h
  · exact ⟨i, hl⟩
  · refine ⟨i, ?_⟩
    rw [Disk.entries_addFile, if_pos ⟨rfl, Disk.walk_lt hd hd.root_lt hi⟩, List.lookup_cons_self]

/-- Opening a file for writing makes no file shorter. -/
lemma Disk.grows_openCreating {p : Path} (h : d.openCreating p = .ok (id, d')) : d.Grows d' := by
  intro id' hid'
  rw [(Disk.extends_openCreating h).2 id' hid']

/-- Making the parent of a path extends a disk and makes no file shorter. -/
lemma Disk.extends_makeParent_eq (hd : d.Sound) {p : Path} {r : Except Failure Unit}
    (h : d.makeParent p = (d', r)) : d.Extends d' ∧ d.Grows d' := by
  obtain ⟨hext, hcon⟩ := Disk.extends_makeParent hd p
  rw [h] at hext hcon
  exact ⟨hext, .of_contents hcon⟩

namespace FileBacking

/-- What a view of an open file has open, and how long it is. -/
lemma ofOpened_ok {p : Path} {k : Nat} (h : ofOpened p (.file id) k = .ok b) :
    b.opened = some (.file id) ∧ b.length = k := by
  unfold ofOpened at h
  split at h
  · next hk =>
    obtain rfl := Except.ok.inj h
    exact ⟨rfl, hk.symm⟩
  · obtain rfl := Except.ok.inj h
    exact ⟨rfl, rfl⟩

/-- A file that is opened for mapping read-only is long enough. -/
lemma openReadOnly_ok {p : Path} (hp : d.resolve p = .ok (.file id))
    (h : openReadOnly d p n = .ok b) :
    b.opened = some (.file id) ∧ b.length ≤ (d.bytes id).size := by
  unfold openReadOnly at h
  simp only [hp] at h
  split at h
  · cases h
  · next hlt =>
    obtain ⟨ho, hlen⟩ := ofOpened_ok h
    exact ⟨ho, hlen ▸ Nat.le_of_not_lt hlt⟩

/-- **A file that is opened for mapping writable** has its name and is long enough; no file
becomes shorter, also where the open fails.

**Proof sketch.** Step by step: directories are made, the file is opened or made under its plain
name, and extended where it is too short. No step takes a name away or cuts a file, also not the
step that fails. -/
lemma openWritable_spec (hd : d.Sound) (hx : Plain x) {r : Except Failure FileBacking}
    (h : openWritable d (contentPath D x) n = (d', r)) : d.Extends d' ∧ d.Grows d' ∧
      ∀ b, r = .ok b → ∃ id, b.opened = some (.file id) ∧ b.length ≤ (d'.bytes id).size ∧
        ∃ i, (d'.entries i).lookup x = some (.file id) := by
  unfold openWritable at h
  split at h
  · next d₁ f hmake =>
    obtain ⟨hext, hgrow⟩ := Disk.extends_makeParent_eq hd hmake
    obtain ⟨rfl, rfl⟩ := Prod.mk.inj h
    exact ⟨hext, hgrow, fun b hb => nomatch hb⟩
  · next d₁ hmake =>
    obtain ⟨hext, hgrow⟩ := Disk.extends_makeParent_eq hd hmake
    split at h
    · obtain ⟨rfl, rfl⟩ := Prod.mk.inj h
      exact ⟨hext, hgrow, fun b hb => nomatch hb⟩
    · next id d₂ hopen =>
      have hext₂ := hext.trans (Disk.extends_openCreating hopen).1
      have hgrow₂ := hgrow.trans hext.contents_le (Disk.grows_openCreating hopen)
      obtain ⟨i, hi⟩ := hx.found_of_openCreating (hext.sound hd) hopen
      have hid : id < d₂.contents.size := (hext₂.sound hd).file_lt i x id hi
      split at h
      · next hlt =>
        split at h
        · obtain ⟨rfl, rfl⟩ := Prod.mk.inj h
          exact ⟨hext₂, hgrow₂, fun b hb => nomatch hb⟩
        · next d₃ hset =>
          obtain ⟨-, hext₃, hsize⟩ := Disk.setLength_ok hset
          obtain ⟨rfl, rfl⟩ := Prod.mk.inj h
          refine ⟨hext₂.trans hext₃, hgrow₂.trans hext₂.contents_le fun id' hid' => ?_,
            fun b hb => ?_⟩
          · rw [hsize id' hid']
            split
            · next heq => exact heq ▸ Nat.le_of_lt hlt
            · exact Nat.le_refl _
          · obtain ⟨ho, hlen⟩ := ofOpened_ok hb
            refine ⟨id, ho, ?_, i, ?_⟩
            · rw [hsize id hid, if_pos rfl, hlen]
            · rw [Disk.entries_setLength hset]
              exact hi
      · next hlt =>
        obtain ⟨rfl, rfl⟩ := Prod.mk.inj h
        refine ⟨hext₂, hgrow₂, fun b hb => ?_⟩
        obtain ⟨ho, hlen⟩ := ofOpened_ok hb
        exact ⟨id, ho, hlen ▸ Nat.le_of_not_lt hlt, i, hi⟩

end FileBacking

end Opening

namespace Store

variable {κ : Type} {D : Path} {w g : RegistryId} {s s' : Store κ} {c : ClaimId}

/-- The identifier of a claim is a plain name. -/
lemma Tidy.plain_identifier (ht : Tidy D w g s) (hc : c < s.claims.length) :
    Plain (s.identifier c) := by
  rw [identifier, List.getElem?_eq_getElem hc]
  exact ht.plain _ (List.getElem_mem hc)

/-! ### Opens -/

/-- A new mapping that holds a claim and a lease is under the identifier of the lease. -/
lemma adds_addHeldMapping {s₁ : Store κ} (hk : Keeps s s₁) {b : FileBacking} (readOnly : Bool)
    {id : FileId} {x : String} {l : Lease}
    (hl : l = if readOnly then .read g x else .write w x) (ho : b.opened = some (.file id))
    (hg : readOnly = false → b.gate = some (.readers g x))
    (hfound : ∃ i, (s₁.disk.entries i).lookup x = some (.file id))
    (hlen : b.length ≤ (s₁.disk.bytes id).size) :
    Adds w g s (s₁.addHeldMapping { backing := .file b, readOnly, hooks := .empty } c
      (some l)).1 := by
  refine .made (s₁.takeReference c)
    { backing := .file b, readOnly, hooks := UnmapHooks.empty.push (.hold c (some l)) } b id x
    (hk.trans (keeps_takeReference s₁ c)) rfl ⟨?_, ?_, hg⟩ (fun y hy => ?_) hfound hlen rfl
  · show b.openFile? = some id
    rw [FileBacking.openFile?, ho]
  · show Resource.lease (if readOnly then .read g x else .write w x) ∈ _
    rw [← hl]
    exact List.mem_cons_self
  · have hmem : Resource.lease (if readOnly then .read g y else .write w y) ∈
        [Resource.lease l, .reference c] := hy.lease_mem
    rw [hl] at hmem
    cases readOnly <;> simpa using hmem

/-- **A mapping that is opened in a file repository** lies inside its file.

**Proof sketch.** A read-only mapping is as long as was asked for, and the file at least as long; a
writable one extends its file first. Both are under the plain name of the claim, and hold the lease
of their sort. -/
lemma Tidy.adds_mapInFiles (ht : Tidy D w g s) (hc : c < s.claims.length) (n : UInt64)
    (readOnly : Bool) : Adds w g s (s.mapInFiles D w g c n readOnly).1 := by
  have hx := ht.plain_identifier hc
  unfold mapInFiles
  cases readOnly with
  | true =>
    simp only [if_true]
    split
    · exact .nothing (.refl s)
    · exact .nothing (.refl s)
    · next len hlen =>
      split
      · exact .nothing (.refl s)
      · next b hb =>
        obtain ⟨id, hid⟩ : ∃ id, s.disk.resolve (contentPath D (s.identifier c)) =
            .ok (.file id) := by
          unfold Disk.storedLength at hlen
          split at hlen
          · next id hid => exact ⟨id, hid⟩
          all_goals cases hlen
        obtain ⟨i, -, hi⟩ := hx.lookup_of_resolve hid
        obtain ⟨ho, hle⟩ := FileBacking.openReadOnly_ok hid hb
        have hk : Keeps s (s.takeReadLease g (s.identifier c)) := .of_eq rfl rfl rfl rfl
        exact adds_addHeldMapping hk true rfl ho (fun h => by cases h) ⟨i, hi⟩ hle
  | false =>
    simp only [Bool.false_eq_true, if_false]
    split
    · exact .nothing (.refl s)
    · next leased hl =>
      obtain ⟨reg, -, rfl⟩ := takeWriteLease_ok hl
      split
      · next d f h =>
        obtain ⟨hext, hgrow, -⟩ := FileBacking.openWritable_spec ht.disk_sound hx h
        exact .nothing (keeps_disk s hext hgrow)
      · next d b h =>
        obtain ⟨hext, hgrow, hok⟩ := FileBacking.openWritable_spec ht.disk_sound hx h
        obtain ⟨id, ho, hle, hfound⟩ := hok b rfl
        have hk : Keeps s { s with
            writerRegistries := s.writerRegistries.set w reg, disk := d } :=
          (keeps_disk s hext hgrow).trans (.of_eq rfl rfl rfl rfl)
        exact adds_addHeldMapping hk false rfl ho (fun _ => rfl) hfound hle

/-- A reader that is opened leaves the mappings alone. -/
lemma keeps_readInFiles (s : Store κ) (D : Path) (c : ClaimId) :
    Keeps s (s.readInFiles D c).1 := by
  unfold readInFiles
  dsimp only
  split
  · exact .refl s
  · exact .refl s
  · exact (keeps_takeReference s c).trans (keeps_addHandle _ fun _ h => nomatch h)

/-- **A writer that is opened in a file repository** makes no file shorter that is mapped: it cuts
its file only where all leases of the identifier are free.

**Proof sketch.** Directories are added and the file is opened or made, which cuts no file. The file
is emptied only if the identifier has no read lease, and it has no other writer. A mapping of the
file would be under the same identifier, so there is none, and any other file keeps its length. -/
lemma Tidy.keeps_writeInFiles (ht : Tidy D w g s) (hc : c < s.claims.length) (append : Bool) :
    Keeps s (s.writeInFiles D w g c append).1 := by
  have hx := ht.plain_identifier hc
  unfold writeInFiles
  dsimp only
  split
  · exact .refl s
  · next leased hl =>
    obtain ⟨reg, hreg, rfl⟩ := takeWriteLease_ok hl
    have hfree := (WriterRegistry.acquire_ok hreg).1
    -- the writer itself is no mapping
    have hadd : ∀ (d : Disk) (sink : Sink), Keeps s { s with disk := d } →
        Keeps s (addWriter { s with writerRegistries := s.writerRegistries.set w reg, disk := d } c
          sink (.write w (s.identifier c))).1 := by
      intro d sink hk
      have hleased : Keeps s { s with
          writerRegistries := s.writerRegistries.set w reg, disk := d } :=
        hk.trans (.of_eq rfl rfl rfl rfl)
      exact (hleased.trans (keeps_takeReference _ c)).trans
        (keeps_addHandle _ fun _ h => by cases h)
    split
    · next d f hmake =>
      obtain ⟨hext, hgrow⟩ := Disk.extends_makeParent_eq ht.disk_sound hmake
      exact keeps_disk s hext hgrow
    · next d hmake =>
      obtain ⟨hext, hgrow⟩ := Disk.extends_makeParent_eq ht.disk_sound hmake
      split
      · exact keeps_disk s hext hgrow
      · next id d₂ hopen =>
        have hext₂ := hext.trans (Disk.extends_openCreating hopen).1
        have hgrow₂ := hgrow.trans hext.contents_le (Disk.grows_openCreating hopen)
        have hk₂ := keeps_disk s hext₂ hgrow₂
        split
        · exact hadd d₂ _ hk₂
        · unfold ReaderRegistry.exclusive emptyFile
          by_cases hr : 0 < (s.readerRegistry g).readers (s.identifier c)
          · simp only [if_pos hr]
            exact hk₂
          · simp only [if_neg hr]
            cases hset : d₂.setLength id 0 with
            | error e => exact hk₂
            | ok d₃ =>
              obtain ⟨-, hext₃, hsize⟩ := Disk.setLength_ok hset
              refine hadd d₃ _ ⟨hext₂.trans hext₃, fun _ _ h => h, fun h => h,
                fun _ m h => ⟨m, h, .refl m⟩, fun i m id' hm ho => ?_⟩
              obtain ⟨y, hmaps⟩ := (ht.formed i m hm).maps id' ho
              obtain ⟨hlt, hname⟩ := ht.placed_of_extends hext₂ hm hmaps
              -- a mapping of the file that is cut would be under the identifier
              have hne : id' ≠ id := by
                rintro rfl
                obtain ⟨j, hj⟩ := hx.found_of_openCreating (hext.sound ht.disk_sound) hopen
                obtain rfl := hname j _ hj
                exact ht.not_maps hfree (Nat.eq_zero_of_not_pos hr) hm hmaps
              rw [hsize id' hlt, if_neg hne]
              exact size_le_of_grows hgrow₂ id'

/-- A name that is removed makes no file shorter. -/
lemma keeps_removeInFiles (s : Store κ) (D : Path) (x : String) :
    Keeps s (s.removeInFiles D x).1 := by
  unfold removeInFiles
  dsimp only
  split
  · next d h =>
    obtain ⟨hext, hcon⟩ := Disk.extends_unlink h
    exact keeps_disk s hext (.of_contents hcon)
  · exact .refl s
  · exact .refl s

/-- Runs of the backend of an open repository are runs of the file repository. -/
lemma Tidy.inRepository {α : Type} (ht : Tidy D w g s) {r : RepositoryId}
    {act : Store κ → Backend → Store κ × Except Failure α}
    (h : Adds w g s (act s (.files D w g)).1) : Adds w g s (s.inRepository r c act).1 := by
  unfold Store.inRepository
  split
  · next b hb =>
    obtain rfl := ht.backend_eq r b hb
    exact h
  · exact .nothing (.refl s)

/-- What holds for the only repository holds for an operation through a claim. -/
lemma Tidy.routed [DecidableEq κ] {α : Type} (ht : Tidy D w g s)
    {act : Store κ → Backend → Store κ × Except Failure α}
    (h : Adds w g s (act s (.files D w g)).1) : Adds w g s (s.routed c act).1 := by
  unfold Store.routed
  split
  · next r b hb =>
    obtain rfl := ht.backend_eq r b (backend?_of_repositoryOf hb)
    exact h
  · exact .nothing (.refl s)

end Store

end ClaimStore
