import ClaimStore.Proofs.DiskSteps
import ClaimStore.Proofs.FileOpens

/-!
# What opens change on the disk

Content that is opened for writing has its file at the end of its path afterwards; on the way there
directories may be made, and nothing else changes. Content that is read, or kept elsewhere than in
files, leaves the disk as it is.

## Main definitions

* `Disk.Ends` — the file at the end of a path.
* `Store.OpensAt` — a step that opens the file of a path for writing, at most.

## Main results

* `FileBacking.changes_openWritable` — a file that is opened for mapping.
* `Store.opensAt_mapInFiles`, `Store.opensAt_writeInFiles` — content that is opened for writing.
* `Store.changes_removeInFiles` — content that is removed.
* `Store.changes_openDatabase` — a database that is opened.
-/

set_option autoImplicit false

namespace ClaimStore

open Disk (Changes Making Opening)

/-! ### Files that are opened -/

section Opening

variable {d d' : Disk} {p : Path} {id : FileId}

/-- The file of a path is at its end. -/
def Disk.Ends (d : Disk) (p : Path) (id : FileId) : Prop :=
  ∃ j n, d.locate p = .ok (.name j n) ∧ (d.entries j).lookup n = some (.file id)

/-- A file at the end of its path may be changed. -/
lemma Disk.Ends.changes_setLength (h : d.Ends p id) (hd : d.Sound) {n : Nat}
    (hn : d.setLength id n = .ok d') : Changes (Opening p) d d' ∧ d'.Ends p id := by
  obtain ⟨j, name, hl, hname⟩ := h
  unfold Disk.setLength at hn
  split at hn
  · cases hn
  · split at hn
    · cases hn
    · obtain rfl := Except.ok.inj hn
      exact ⟨.single (c := .modify id _) trivial (.modify hl hname), j, name,
        (extends_modify d id _).locate_eq hd hl, hname⟩

/-- **A file that is opened for writing**, with its directory. -/
lemma Disk.changes_open (hd : d.Sound) {d₁ : Disk} {r : Except Failure Unit}
    (hmake : d.makeParent p = (d₁, r)) (h : d₁.openCreating p = .ok (id, d')) :
    Changes (Opening p) d d' ∧ d'.Ends p id := by
  have hparent := (Disk.changes_makeParent hd p).mono (Q := Opening p) fun _ _ h => .above h
  rw [hmake] at hparent
  obtain ⟨hopen, hends⟩ := Disk.changes_openCreating (hparent.extends.sound hd) h
  exact ⟨hparent.trans hopen, hends⟩

/-- A directory that is made for a path. -/
lemma Disk.changes_makeParent_eq (hd : d.Sound) {r : Except Failure Unit}
    (hmake : d.makeParent p = (d', r)) : Changes (Opening p) d d' := by
  have hparent := (Disk.changes_makeParent hd p).mono (Q := Opening p) fun _ _ h => .above h
  rwa [hmake] at hparent

/-- **A file that is opened for mapping writable** is at the end of its path. -/
lemma FileBacking.changes_openWritable (hd : d.Sound) {n : UInt64}
    {r : Except Failure FileBacking} (h : openWritable d p n = (d', r)) :
    Changes (Opening p) d d' ∧
      ∀ b, r = .ok b → ∃ id, b.opened = some (.file id) ∧ d'.Ends p id := by
  have mapped : ∀ {d₁ : Disk} {id : FileId}, Changes (Opening p) d d₁ → d₁.Ends p id →
      (d₁, ofOpened p (.file id) n.toNat) = (d', r) → Changes (Opening p) d d' ∧
        ∀ b, r = .ok b → ∃ id, b.opened = some (.file id) ∧ d'.Ends p id := by
    intro d₁ id hc he heq
    obtain ⟨rfl, rfl⟩ := Prod.mk.inj heq
    exact ⟨hc, fun b hb => ⟨id, (ofOpened_ok hb).1, he⟩⟩
  unfold openWritable at h
  split at h
  · next d₁ f hmake =>
    obtain ⟨rfl, rfl⟩ := Prod.mk.inj h
    exact ⟨Disk.changes_makeParent_eq hd hmake, fun b hb => nomatch hb⟩
  · next d₁ hmake =>
    split at h
    · obtain ⟨rfl, rfl⟩ := Prod.mk.inj h
      exact ⟨Disk.changes_makeParent_eq hd hmake, fun b hb => nomatch hb⟩
    · next id d₂ hopen =>
      obtain ⟨hc, he⟩ := Disk.changes_open hd hmake hopen
      split at h
      · split at h
        · obtain ⟨rfl, rfl⟩ := Prod.mk.inj h
          exact ⟨hc, fun b hb => nomatch hb⟩
        · next d₃ hset =>
          obtain ⟨hc', he'⟩ := he.changes_setLength (hc.extends.sound hd) hset
          exact mapped (hc.trans hc') he' h
      · exact mapped hc he h

end Opening

namespace Store

variable {κ : Type} {s s' : Store κ} {p : Path} {h : HandleId} {c : ClaimId}

/-- **A step that opens the file of a path for writing**, at most. -/
structure OpensAt (p : Path) (s s' : Store κ) : Prop where
  /-- The disk changes along the path, and at its end. -/
  changes : Changes (Opening p) s.disk s'.disk
  /-- A handle with an open file is new and has that of the path, or had it before. -/
  opens : ∀ i id, s'.OpensFile i id →
    s.OpensFile i id ∨ (i = s.handles.length ∧ s'.disk.Ends p id)

/-! ### New handles -/

/-- A handle with an open file, after one was made. -/
lemma opensFile_added {x : Handle} (hh : s'.handles = s.handles ++ [some x]) {i : HandleId}
    {id : FileId} (ho : s'.OpensFile i id) :
    s.OpensFile i id ∨ (i = s.handles.length ∧ x.openFile? = some id) := by
  obtain ⟨y, hy, hid⟩ := ho
  rw [handle?_eq_some, hh] at hy
  rcases Nat.lt_or_ge i s.handles.length with hlt | hge
  · rw [List.getElem?_append_left hlt] at hy
    exact .inl ⟨y, handle?_eq_some.2 hy, hid⟩
  · rw [List.getElem?_append_right hge, List.getElem?_singleton] at hy
    split at hy
    · next h0 =>
      obtain rfl := Option.some.inj (Option.some.inj hy)
      exact .inr ⟨Nat.le_antisymm (Nat.sub_eq_zero_iff_le.1 h0) hge, hid⟩
    · cases hy

/-- A handle without an open file may be made. -/
lemma touches_added {x : Handle} (hd : s'.disk = s.disk)
    (hh : s'.handles = s.handles ++ [some x]) (hx : x.openFile? = none) : Touches h s s' where
  changes := hd ▸ .refl
  opens _ _ ho := (opensFile_added hh ho).resolve_right fun ⟨_, hid⟩ => by
    rw [hx] at hid
    cases hid

/-- An open that leaves the disk alone, and makes a handle without an open file. -/
lemma touches_makes {form : Store κ → Handle → Prop} {r : Except Failure HandleId}
    (hm : Makes form s (s', r)) (hx : ∀ x, form s' x → x.openFile? = none)
    (hd : s'.disk = s.disk) : Touches h s s' := by
  cases hm with
  | made added hform => exact touches_added hd added.handles_eq (hx _ hform)
  | failed f still => exact .of_eq hd still.handles_eq

/-- A step that opens no file of a path. -/
lemma Touches.opensAt (t : Touches h s s') (hd : s'.disk = s.disk) : OpensAt p s s' where
  changes := hd ▸ .refl
  opens _ _ ho := .inl (t.opens _ _ ho)

/-- A step that changes the disk alone. -/
lemma opensAt_disk {d : Disk} (hc : Changes (Opening p) s.disk d) :
    OpensAt p s { s with disk := d } where
  changes := hc
  opens _ _ ho := .inl ho

/-- A new handle that has the file of a path open. -/
lemma opensAt_added {x : Handle} {i : FileId} (hc : Changes (Opening p) s.disk s'.disk)
    (he : s'.disk.Ends p i) (hh : s'.handles = s.handles ++ [some x])
    (hx : ∀ id, x.openFile? = some id → id = i) : OpensAt p s s' where
  changes := hc
  opens _ id ho := (opensFile_added hh ho).imp_right fun ⟨hi, hid⟩ => ⟨hi, hx id hid ▸ he⟩

/-- A new writable mapping has the file at the end of its path open. -/
lemma opensAt_openWritable {d : Disk} {n : UInt64} {b : FileBacking} {hooks : UnmapHooks}
    (hd : s.disk.Sound) (hopen : FileBacking.openWritable s.disk p n = (d, .ok b))
    (hdisk : s'.disk = d) {k : Option Gate} (hh : s'.handles =
      s.handles ++ [some (.mapping ⟨.file { b with gate := k }, false, hooks⟩)]) :
    OpensAt p s s' := by
  subst hdisk
  obtain ⟨hc, hok⟩ := FileBacking.changes_openWritable hd hopen
  obtain ⟨id, ho, he⟩ := hok b rfl
  refine opensAt_added (i := id) hc he hh fun id' hid => ?_
  simp only [Handle.openFile?, Mapping.opened?, Mapping.file?, FileBacking.openFile?,
    Option.bind_some, ho, Bool.false_eq_true, if_false, Option.some.injEq] at hid
  exact hid.symm

/-! ### Files -/

section Files

variable {D : Path} {w g : RegistryId}

/-- **A writable mapping opens the file of its claim.** -/
lemma opensAt_mapInFiles (hd : s.disk.Sound) (n : UInt64) :
    OpensAt (contentPath D (s.identifier c)) s (s.mapInFiles D w g c n false).1 := by
  unfold mapInFiles
  simp only [Bool.false_eq_true, if_false]
  split
  · exact (Touches.refl s (h := 0)).opensAt rfl
  · next leased hl =>
    obtain ⟨reg, -, rfl⟩ := takeWriteLease_ok hl
    split
    · next d f hopen => exact opensAt_disk (FileBacking.changes_openWritable hd hopen).1
    · next d b hopen => exact opensAt_openWritable hd hopen rfl rfl

/-- A read-only mapping opens no file for changes. -/
lemma touches_mapInFiles (n : UInt64) : Touches h s (s.mapInFiles D w g c n true).1 := by
  unfold mapInFiles
  simp only [if_true]
  split
  · exact .refl s
  · exact .refl s
  · split
    · exact .refl s
    · exact touches_added rfl rfl rfl

/-- A reader of a file changes nothing on the disk. -/
lemma touches_readInFiles : Touches h s (s.readInFiles D c).1 := by
  unfold readInFiles
  dsimp only
  split
  · exact .refl s
  · exact .refl s
  · exact touches_added rfl rfl rfl

/-- **A writer opens the file of its claim.**

**Proof sketch.** Step by step: the lease is no change of the disk, directories are made on the way,
the file is opened or made at the path, and it is cut only where the writer is to replace it. What
fails opens no file. -/
lemma opensAt_writeInFiles (hd : s.disk.Sound) (append : Bool) :
    OpensAt (contentPath D (s.identifier c)) s (s.writeInFiles D w g c append).1 := by
  unfold writeInFiles
  dsimp only
  split
  · exact (Touches.refl s (h := 0)).opensAt rfl
  · next leased hl =>
    obtain ⟨reg, -, rfl⟩ := takeWriteLease_ok hl
    split
    · next d f hmake => exact opensAt_disk (Disk.changes_makeParent_eq hd hmake)
    · next d hmake =>
      split
      · exact opensAt_disk (Disk.changes_makeParent_eq hd hmake)
      · next id d₂ hopen =>
        obtain ⟨hc, he⟩ := Disk.changes_open hd hmake hopen
        have hnew : ∀ (offset : Option Nat) (id' : FileId), (Handle.writer
            { claim := c, sink := .file id offset, written := 0
              lease := some (.write w (s.identifier c)) }).openFile? = some id' → id' = id :=
          fun _ id' hid => (Option.some.inj hid).symm
        split
        · exact opensAt_added hc he rfl (hnew none)
        · unfold ReaderRegistry.exclusive emptyFile
          split
          · next d₃ f hcut =>
            split at hcut
            · obtain ⟨rfl, -⟩ := Prod.mk.inj hcut
              exact opensAt_disk hc
            · split at hcut
              · cases hcut
              · obtain ⟨rfl, -⟩ := Prod.mk.inj hcut
                exact opensAt_disk hc
          · next d₃ hcut =>
            split at hcut
            · cases hcut
            · split at hcut
              · next d₄ hset =>
                obtain ⟨rfl, -⟩ := Prod.mk.inj hcut
                obtain ⟨hc', he'⟩ := he.changes_setLength (hc.extends.sound hd) hset
                exact opensAt_added (hc.trans hc') he' rfl (hnew (some 0))
              · cases hcut

/-- A removal takes away the name that the path of its claim leads to. -/
lemma changes_removeInFiles (x : String) :
    Changes (fun _ ch => ∃ j n, s.disk.locate (contentPath D x) = .ok (.name j n) ∧
      ch = .removeName j n) s.disk (s.removeInFiles D x).1.disk ∧
        (s.removeInFiles D x).1.handles = s.handles := by
  unfold removeInFiles
  dsimp only
  split
  · next d hu =>
    obtain ⟨j, n, id, hl, hname, rfl⟩ := Disk.unlink_ok hu
    exact ⟨.single (c := .removeName j n) ⟨id, hname⟩ ⟨j, n, hl, rfl⟩, rfl⟩
  · exact ⟨.refl, rfl⟩
  · exact ⟨.refl, rfl⟩

/-- **A database that is opened opens its file.** -/
lemma changes_openDatabase (hd : s.disk.Sound) (p : Path) :
    Changes (Opening p) s.disk (s.openDatabase p).1.disk ∧
      (s.openDatabase p).1.handles = s.handles := by
  unfold openDatabase
  split
  · next d f hmake => exact ⟨Disk.changes_makeParent_eq hd hmake, rfl⟩
  · next d hmake =>
    split
    · exact ⟨Disk.changes_makeParent_eq hd hmake, rfl⟩
    · next id d₂ hopen =>
      obtain ⟨hc, j, n, hl, hname⟩ := Disk.changes_open hd hmake hopen
      dsimp only
      split
      · exact ⟨hc, rfl⟩
      · split
        · have hset : Changes (Opening p) s.disk (d₂.setBytes id DatabaseFile.image) :=
            hc.trans (.single (c := .modify id _) trivial (.modify hl hname))
          unfold succeed formatDatabase
          dsimp only
          split <;> exact ⟨hset, rfl⟩
        · split <;> exact ⟨hc, rfl⟩

end Files

/-! ### Entries and rows -/

section Elsewhere

variable {t : TableId} {w : RegistryId}

/-- A mapping in a table leaves the disk. -/
lemma disk_mapInTable [DecidableEq κ] [ToString κ] (s : Store κ) (n : UInt64) (readOnly : Bool) :
    (s.mapInTable t w c n readOnly).1.disk = s.disk := by
  unfold mapInTable
  dsimp only
  split
  · split
    · rfl
    · split <;> rfl
  · split
    · rfl
    · next leased hl =>
      obtain ⟨reg, -, rfl⟩ := takeWriteLease_ok hl
      split <;> rfl

/-- A reader in a table leaves the disk. -/
lemma disk_readInTable [DecidableEq κ] (s : Store κ) : (s.readInTable t c).1.disk = s.disk := by
  unfold readInTable
  dsimp only
  split
  · rfl
  · split <;> rfl

/-- A writer in a table leaves the disk. -/
lemma disk_writeInTable [DecidableEq κ] (s : Store κ) (append : Bool) :
    (s.writeInTable t w c append).1.disk = s.disk := by
  unfold writeInTable
  dsimp only
  split
  · rfl
  · next leased hl =>
    obtain ⟨reg, -, rfl⟩ := takeWriteLease_ok hl
    split <;> rfl

/-- A mapping of a row leaves the disk. -/
lemma disk_mapInRows (s : Store κ) (d : DatabaseId) (n : UInt64) (readOnly : Bool) :
    (s.mapInRows d w c n readOnly).1.disk = s.disk := by
  unfold mapInRows
  dsimp only
  split
  · split
    · rfl
    · split <;> rfl
  · split
    · rfl
    · next leased hl =>
      obtain ⟨reg, -, rfl⟩ := takeWriteLease_ok hl
      rfl

/-- A reader of a row leaves the disk. -/
lemma disk_readInRows (s : Store κ) (d : DatabaseId) : (s.readInRows d c).1.disk = s.disk := by
  unfold readInRows
  split <;> rfl

/-- A writer to a row leaves the disk until it is closed. -/
lemma disk_writeInRows (s : Store κ) (d : DatabaseId) (append : Bool) :
    (s.writeInRows d w c append).1.disk = s.disk := by
  unfold writeInRows
  dsimp only
  split
  · rfl
  · next leased hl =>
    obtain ⟨reg, -, rfl⟩ := takeWriteLease_ok hl
    rfl

/-- A mapping of an entry has no file open. -/
lemma openFile?_entry (b : EntryBacking) (readOnly : Bool) (hooks : UnmapHooks) :
    (Handle.mapping ⟨.entry b, readOnly, hooks⟩).openFile? = none := by
  cases readOnly <;> rfl

/-- Nor has one of a buffer. -/
lemma openFile?_buffer (b : BufferBacking) (readOnly : Bool) (hooks : UnmapHooks) :
    (Handle.mapping ⟨.buffer b, readOnly, hooks⟩).openFile? = none := by
  cases readOnly <;> rfl

/-- An entry that is erased changes nothing on the disk. -/
lemma touches_removeInTable [DecidableEq κ] (s : Store κ) (x : String) :
    Touches h s (s.removeInTable t x).1 := by
  unfold removeInTable
  split <;> exact .of_eq rfl rfl

/-- A mapping of an entry changes nothing on the disk. -/
lemma touches_mapEntry [ToString κ] (s : Store κ) (e : EntryId) (n : UInt64) (readOnly : Bool) :
    Touches h s (s.mapEntry t e n readOnly).1 := by
  unfold mapEntry
  split
  · exact .refl s
  · exact touches_added rfl rfl (openFile?_entry _ _ _)

/-- A mapping of the entry under a key changes nothing on the disk. -/
lemma touches_mapKey [DecidableEq κ] [ToString κ] (s : Store κ) (key : Key κ) (n : UInt64)
    (readOnly : Bool) : Touches h s (s.mapKey t key n readOnly).1 := by
  unfold mapKey
  split
  · exact touches_mapEntry s _ n readOnly
  · exact touches_added rfl rfl (openFile?_entry _ _ _)

end Elsewhere

end Store

end ClaimStore
