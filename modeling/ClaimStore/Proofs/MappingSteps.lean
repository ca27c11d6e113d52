import ClaimStore.Store.Capability
import ClaimStore.Proofs.FileCover
import ClaimStore.Proofs.Openable

/-!
# Steps of one mapping

What is done with a mapping changes its bytes, its length and its hooks, and nothing else of it: it
stays at the same place, read-only or not. What is written through a mapping of a file stays inside
that file, and so does the mapping, also where a change of length fails half-way.

## Main definitions

* `Disk.Alters` — a disk after one file was changed.
* `FileBacking.Shaped`, `Mapping.Shaped` — the form of a file backing and of a mapping.
* `Store.InFile` — a writable mapping that is inside its file.
* `Store.Resizes` — what a change of the length of a file mapping can come to.
* `Store.Advances` — a mapping after a step that changes bytes or its length.

## Main results

* `Store.resizes_resizeFileWith` — a change of length comes to one of these.
* `Store.advances_writeAt`, `Store.advances_fillView`, `Store.advances_resizeWith` — the steps.
-/

set_option autoImplicit false

namespace ClaimStore

/-! ### One file of a disk -/

namespace Disk

variable {d d' d'' : Disk} {id : FileId}

/-- A disk after nothing but what one file holds was changed. -/
def Alters (id : FileId) (d d' : Disk) : Prop := ∃ f, d' = d.modify id f

/-- The same disk alters no other file. -/
lemma Alters.refl (id : FileId) (d : Disk) : Alters id d d := by
  refine ⟨fun x => x, ?_⟩
  have hsame : d.contents.modify id (fun x => x) = d.contents := by
    apply Array.ext_getElem?
    intro i
    rw [Array.getElem?_modify]
    split
    · exact Option.map_id'
    · rfl
  rw [modify, hsame]

/-- Two steps that alter one file alter that file only. -/
lemma Alters.trans (h : Alters id d d') (h' : Alters id d' d'') : Alters id d d'' := by
  obtain ⟨f, rfl⟩ := h
  obtain ⟨g, rfl⟩ := h'
  refine ⟨g ∘ f, ?_⟩
  have hboth : (d.contents.modify id f).modify id g = d.contents.modify id (g ∘ f) := by
    apply Array.ext_getElem?
    intro i
    simp only [Array.getElem?_modify]
    split
    · rw [Option.map_map]
    · rfl
  rw [modify, modify, modify, hboth]

/-- No file is added. -/
lemma Alters.size_eq (h : Alters id d d') : d'.contents.size = d.contents.size := by
  obtain ⟨f, rfl⟩ := h
  exact Array.size_modify

/-- The disk is extended. -/
lemma Alters.extends (h : Alters id d d') : d.Extends d' := by
  obtain ⟨f, rfl⟩ := h
  exact extends_modify d id f

/-- Paths lead to the files that they led to. -/
lemma Alters.resolve_eq (h : Alters id d d') (hd : d.Sound) {p : Path} {id' : FileId}
    (hp : d.resolve p = .ok (.file id')) : d'.resolve p = .ok (.file id') := by
  obtain ⟨f, rfl⟩ := h
  exact resolve_modify hd hp id f

/-- A length that is set alters that file only. -/
lemma alters_setLength {n : Nat} (h : d.setLength id n = .ok d') : Alters id d d' := by
  have hmax := (setLength_ok h).1
  rw [setLength_eq d id hmax] at h
  exact ⟨_, (Except.ok.inj h).symm⟩

/-- A file that was given a length holds what it held, cut or zero-padded, and nothing behind. -/
lemma data_setLength {n : Nat} (h : d.setLength id n = .ok d') (hid : id < d.contents.size) :
    d'.data id = .ofBytes ((d.bytes id).fit n) := by
  rw [setLength_eq d id (setLength_ok h).1] at h
  obtain rfl := Except.ok.inj h
  rw [data_modify, if_pos ⟨rfl, hid⟩]
  rfl

/-- Writing back changes no bytes. -/
lemma bytes_flush (d : Disk) (id id' : FileId) (n : Nat) :
    (d.flush id n).bytes id' = d.bytes id' := by
  rw [flush, bytes_modify]
  split
  · exact FileData.bytes_flush _ n
  · rfl

end Disk

/-- **The form of a file backing**: the empty view has no bytes, and what is mapped is an open
file. -/
structure FileBacking.Shaped (b : FileBacking) : Prop where
  /-- The empty view has no bytes. -/
  length_eq : b.region = .empty → b.length = 0
  /-- What is mapped is open. -/
  opened_eq : b.region = .mapped → ∃ id, b.opened = some (.file id)

/-- What has to agree before a mapping becomes shorter is no part of the form. -/
lemma FileBacking.Shaped.withGate {b : FileBacking} (h : b.Shaped) (gate : Option Gate) :
    FileBacking.Shaped { b with gate } := ⟨h.length_eq, h.opened_eq⟩

/-- A backing without a region has one of the forms. -/
lemma FileBacking.shaped_unmapped (b : FileBacking) :
    FileBacking.Shaped { b with region := .unmapped } := ⟨nofun, nofun⟩

/-- So has one that is mapped again. -/
lemma FileBacking.shaped_remap {b : FileBacking} {id : FileId} (ho : b.opened = some (.file id))
    (n : Nat) : (b.remap n).Shaped := by
  unfold remap
  by_cases hn : n = 0
  · subst hn
    exact ⟨fun _ => rfl, nofun⟩
  · rw [if_neg hn]
    exact ⟨nofun, fun _ => ⟨id, ho⟩⟩

/-- **The form of a mapping**: one of a file has a form of those, and a read-only one of an entry
has not the place of the writer. -/
structure Mapping.Shaped (m : Mapping) : Prop where
  /-- A mapping of a file. -/
  file : ∀ b, m.backing = .file b → b.Shaped
  /-- A mapping of an entry. -/
  entry : ∀ b, m.backing = .entry b → b.view = .write → m.readOnly = false

/-- The form of a mapping of a file. -/
lemma Mapping.shaped_file {b : FileBacking} (h : b.Shaped) (readOnly : Bool) (hooks : UnmapHooks) :
    Mapping.Shaped ⟨.file b, readOnly, hooks⟩ :=
  ⟨fun _ hb => Backing.file.inj hb ▸ h, nofun⟩

/-- The form of a mapping of a buffer. -/
lemma Mapping.shaped_buffer (b : BufferBacking) (readOnly : Bool) (hooks : UnmapHooks) :
    Mapping.Shaped ⟨.buffer b, readOnly, hooks⟩ := ⟨nofun, nofun⟩

namespace Store

variable {κ : Type} {s s' s'' : Store κ} {map : HandleId} {m m' m'' : Mapping} {b : FileBacking}
  {id : FileId}

/-! ### Mappings inside their files -/

/-- **A writable mapping that is inside its file**, if it is one of a file that is open. -/
def InFile (s : Store κ) (m : Mapping) : Prop :=
  ∀ b id, m.readOnly = false → m.backing = .file b → b.opened = some (.file id) →
    id < s.disk.contents.size ∧ (b.region ≠ .unmapped → b.length ≤ (s.disk.bytes id).size)

/-- A mapping that is no writable one of a file is inside. -/
lemma inFile_of_not (h : m.readOnly = false → ∀ b, m.backing ≠ .file b) : s.InFile m :=
  fun b _ hro hb _ => absurd hb (h hro b)

/-- Whether a mapping is inside its file depends on the disk and its backing. -/
lemma inFile_congr (hd : s'.disk = s.disk) (hb : m'.backing = m.backing)
    (hro : m'.readOnly = m.readOnly) (h : s.InFile m) : s'.InFile m' := by
  intro b id hro' hb' ho
  rw [hd]
  exact h b id (hro ▸ hro') (hb ▸ hb') ho

/-- Writing back changes one file, and that only behind its end. -/
lemma writeBack_disk (s : Store κ) (m : Mapping) : (s.writeBack m).disk = s.disk ∨
    ∃ b id, m.backing = .file b ∧ b.opened = some (.file id) ∧
      (s.writeBack m).disk = s.disk.flush id b.length := by
  unfold writeBack
  split
  · next b _ hb =>
    unfold FileBacking.flush
    split
    · next id _ ho => exact .inr ⟨b, id, hb, ho, rfl⟩
    · exact .inl rfl
  · exact .inl rfl

/-- A mapping that is written back changes the disk at most. -/
lemma writeBack_eq (s : Store κ) (m : Mapping) :
    s.writeBack m = { s with disk := (s.writeBack m).disk } := by
  unfold writeBack
  split <;> rfl

/-- The bytes of the files are those before: what was written is there already. -/
lemma bytes_writeBack (s : Store κ) (m : Mapping) (id : FileId) :
    (s.writeBack m).disk.bytes id = s.disk.bytes id := by
  rcases writeBack_disk s m with h | ⟨b, id', -, -, h⟩
  · rw [h]
  · rw [h, Disk.bytes_flush]

/-- A mapping that is written back alters its own file only. -/
lemma alters_writeBack (s : Store κ) (hb : m.backing = .file b) (ho : b.opened = some (.file id)) :
    s.disk.Alters id (s.writeBack m).disk := by
  rcases writeBack_disk s m with h | ⟨b', id', hb', ho', h⟩
  · rw [h]
    exact .refl id _
  · obtain rfl := Backing.file.inj (hb.symm.trans hb')
    obtain rfl := Item.file.inj (Option.some.inj (ho.symm.trans ho'))
    rw [h]
    exact ⟨_, rfl⟩

/-- **A mapping that is inside its file shows its first bytes**, whatever is behind them. -/
lemma view?_of_inFile (hp : s.InFile m) (hro : m.readOnly = false) (hb : m.backing = .file b)
    (ho : b.opened = some (.file id)) (hr : b.region = .mapped) :
    s.view? m = some ((s.disk.bytes id).fit b.length) := by
  have hle := (hp b id hro hb ho).2 (by rw [hr]; nofun)
  unfold view? fileView?
  rw [hb]
  dsimp only
  rw [hr, ho]
  exact congrArg some (FileData.view_of_le hle)

/-! ### Changes of length -/

/-- **What a change of the length of a writable file mapping can come to.** -/
inductive Resizes (f : MappingFaults) (s : Store κ) (map : HandleId) (m : Mapping)
    (b : FileBacking) (n : Nat) : Store κ × Except Failure Bytes → Prop
  /-- No file is open, or it cannot be written back: nothing changes. -/
  | refused (e : Failure) : Resizes f s map m b n (s, .error e)
  /-- The gate does not agree. -/
  | blocked (e : Failure) :
      Resizes f s map m b n
        ((s.writeBack m).setHandle map (.mapping { m with backing := .file b }), .error e)
  /-- The file cannot be cut or extended, and the mapping has no view. -/
  | uncut (e : Failure) : Resizes f s map m b n
      ((s.writeBack m).setHandle map
        (.mapping { m with backing := .file { b with region := .unmapped } }), .error e)
  /-- The file has its new length and cannot be mapped, and the mapping has no view. -/
  | unmapped {id : FileId} {d : Disk} (e : Failure) (opened_eq : b.opened = some (.file id))
      (cut_eq : (s.writeBack m).disk.setLength id n = .ok d) : Resizes f s map m b n
      ({ s.writeBack m with disk := d }.setHandle map
        (.mapping { m with backing := .file { b with region := .unmapped } }), .error e)
  /-- The file has its new length, and the mapping shows all of it. -/
  | done {id : FileId} {d : Disk} (opened_eq : b.opened = some (.file id))
      (cut_eq : (s.writeBack m).disk.setLength id n = .ok d) : Resizes f s map m b n
      (s.afterCut map m b n d, .ok (d.view id n))

/-- The gate refuses a cut, or the file is cut as without one. -/
lemma cutFileWith_cases (f : MappingFaults) (s : Store κ) (id : FileId) (b : FileBacking)
    (n : Nat) : (∃ e, s.cutFileWith f id b n = ((s.disk, b), .error e)) ∨
      s.cutFileWith f id b n = FileBacking.cutWith f id n (s.disk, b) := by
  unfold cutFileWith
  split
  · split
    · unfold passGate ReaderRegistry.exclusive
      split
      · exact .inl ⟨_, rfl⟩
      · split
        · exact .inl ⟨_, rfl⟩
        · exact .inr rfl
    · exact .inr rfl
  · exact .inr rfl

/-- A cut leaves the mapping without a region, whether it fails or gives the file its length. -/
lemma cutWith_cases (f : MappingFaults) (id : FileId) (n : Nat) (d : Disk) (b : FileBacking) :
    (∃ e, FileBacking.cutWith f id n (d, b) = ((d, { b with region := .unmapped }), .error e)) ∨
      ∃ d', d.setLength id n = .ok d' ∧
        FileBacking.cutWith f id n (d, b) = ((d', { b with region := .unmapped }), .ok ()) := by
  unfold FileBacking.cutWith FileBacking.cut
  split
  · dsimp only
    split
    · next d' hd' => exact .inr ⟨d', hd', rfl⟩
    · exact .inl ⟨_, rfl⟩
  · exact .inl ⟨_, rfl⟩

/-- **A change of length comes to one of these.** -/
lemma resizes_resizeFileWith (f : MappingFaults) (s : Store κ) (map : HandleId) (m : Mapping)
    (b : FileBacking) (n : UInt64) :
    Resizes f s map m b n.toNat (s.resizeFileWith f map m b n) := by
  unfold resizeFileWith
  split
  · next id ho =>
    split
    · exact .refused _
    · dsimp only
      rcases cutFileWith_cases f (s.writeBack m) id b n.toNat with ⟨e, he⟩ | hcut
      · rw [he]
        exact .blocked e
      · rw [hcut]
        rcases cutWith_cases f id n.toNat (s.writeBack m).disk b with ⟨e, he⟩ | ⟨d, hd, hok⟩
        · rw [he]
          exact .uncut e
        · rw [hok]
          dsimp only
          unfold FileBacking.remapWith
          split
          · exact .done ho hd
          · split
            · exact .done ho hd
            · exact .unmapped _ ho hd
  · exact .refused _
  · exact .refused _

/-! ### Steps -/

/-- **A mapping after a step that changes its bytes or its length.** -/
structure Advances (map : HandleId) (m : Mapping) (s : Store κ) (m' : Mapping) (s' : Store κ) :
    Prop where
  /-- It goes on. -/
  mapping_eq : s'.mapping? map = some m'
  /-- The other mappings stay. -/
  other_eq : ∀ i, i ≠ map → s'.mapping? i = s.mapping? i
  /-- Its hooks stay. -/
  hooks_eq : m'.hooks = m.hooks
  /-- It is read-only or not, as before. -/
  readOnly_eq : m'.readOnly = m.readOnly
  /-- It stays inside its file. -/
  inFile : s.InFile m → s'.InFile m'
  /-- A mapping of a file stays one of that file. -/
  file : ∀ b, m.backing = .file b → ∃ b', m'.backing = .file b' ∧ b'.opened = b.opened
  /-- It has one of its forms, as before. -/
  shaped : m.Shaped → m'.Shaped
  /-- No other file is changed. -/
  alters : ∀ b id, m.backing = .file b → b.opened = some (.file id) → s.disk.Alters id s'.disk
  /-- Nothing is recorded. -/
  log_eq : s'.log = s.log

namespace Advances

/-- A mapping advances to itself. -/
lemma refl (hm : s.mapping? map = some m) : Advances map m s m s where
  mapping_eq := hm
  other_eq _ _ := rfl
  hooks_eq := rfl
  readOnly_eq := rfl
  inFile h := h
  file b hb := ⟨b, hb, rfl⟩
  shaped h := h
  alters _ id _ _ := .refl id _
  log_eq := rfl

/-- A mapping with another backing that is no file. -/
lemma setBacking (hm : s.mapping? map = some m) {a : Backing} (h : ∀ b, m.backing ≠ .file b)
    (ha : ∀ b, a ≠ .file b)
    (hview : ∀ b', a = .entry b' → ∃ b, m.backing = .entry b ∧ b'.view = b.view)
    (hs : s'.handles = s.handles) (hl : s'.log = s.log) :
    Advances map m s { m with backing := a }
      (s'.setHandle map (.mapping { m with backing := a })) where
  mapping_eq := by
    rw [mapping?_setHandle (mapping?_congr hs ▸ hm), if_pos rfl]
  other_eq i hi := by
    rw [mapping?_setHandle (mapping?_congr hs ▸ hm), if_neg hi, mapping?_congr hs]
  hooks_eq := rfl
  readOnly_eq := rfl
  inFile _ := inFile_of_not fun _ => ha
  file b hb := absurd hb (h b)
  shaped hm' := by
    refine ⟨fun b hb => absurd hb (ha b), fun b' hb' hw => ?_⟩
    obtain ⟨b, hb, hv⟩ := hview b' hb'
    exact hm'.entry b hb (hv ▸ hw)
  alters b _ hb _ := absurd hb (h b)
  log_eq := hl

/-- A file mapping after its file and its part of it were changed. -/
lemma setFile (hm : s.mapping? map = some m) (hb : m.backing = .file b) {d : Disk}
    {b' : FileBacking} (ho : b'.opened = b.opened) (hshape : b.Shaped → b'.Shaped)
    (hd : ∀ id, b.opened = some (.file id) → s.disk.Alters id d)
    (hp : ∀ id, b.opened = some (.file id) → id < s.disk.contents.size →
      (b.region ≠ .unmapped → b.length ≤ (s.disk.bytes id).size) →
        b'.region ≠ .unmapped → b'.length ≤ (d.bytes id).size) :
    Advances map m s { m with backing := .file b' }
      (({ s with disk := d } : Store κ).setHandle map
        (.mapping { m with backing := .file b' })) where
  mapping_eq := by
    rw [mapping?_setHandle (s := { s with disk := d }) hm, if_pos rfl]
  other_eq i hi := by
    rw [mapping?_setHandle (s := { s with disk := d }) hm, if_neg hi]
    rfl
  hooks_eq := rfl
  readOnly_eq := rfl
  inFile h c id hro hc hid := by
    obtain rfl := Backing.file.inj hc
    have hid' : b.opened = some (.file id) := ho ▸ hid
    obtain ⟨hlt, hle⟩ := h b id hro hb hid'
    refine ⟨?_, hp id hid' hlt hle⟩
    show id < d.contents.size
    rw [(hd id hid').size_eq]
    exact hlt
  file c hc := by
    obtain rfl := Backing.file.inj (hb.symm.trans hc)
    exact ⟨b', rfl, ho⟩
  shaped h := Mapping.shaped_file (hshape (h.file b hb)) _ _
  alters c id hc hid := by
    obtain rfl := Backing.file.inj (hb.symm.trans hc)
    exact hd id hid
  log_eq := rfl

end Advances

/-- The bytes that a mapping shows are replaced by as many others. -/
lemma advances_setView (hm : s.mapping? map = some m) (v : Bytes) :
    ∃ m', Advances map m s m' (s.setView map m v) := by
  unfold setView
  cases hb : m.backing with
  | file b =>
    dsimp only
    split
    · next id _ ho =>
      refine ⟨m, hm, fun _ _ => rfl, rfl, rfl, fun h c id' hro hc hid => ?_,
        fun c hc => ⟨c, hc, rfl⟩, fun h => h, fun c id' hc hid => ?_, rfl⟩
      · obtain ⟨hlt, hle⟩ := h c id' hro hc hid
        have halters : s.disk.Alters id (s.disk.writeView id v) := ⟨_, rfl⟩
        refine ⟨halters.size_eq ▸ hlt, fun hr => ?_⟩
        exact Nat.le_trans (hle hr) (size_le_of_grows (Disk.grows_writeView _ _ _) id')
      · obtain rfl := Backing.file.inj (hb.symm.trans hc)
        obtain rfl := Item.file.inj (Option.some.inj (ho.symm.trans hid))
        exact ⟨_, rfl⟩
    · exact ⟨m, .refl hm⟩
  | entry b =>
    have hnot : ∀ c, m.backing ≠ .file c := fun c hc => by rw [hb] at hc; cases hc
    dsimp only
    split
    · exact ⟨m, hm, fun _ _ => rfl, rfl, rfl, fun _ => inFile_of_not fun _ => hnot,
        fun c hc => absurd hc (hnot c), fun h => h, fun c _ hc _ => absurd hc (hnot c), rfl⟩
    · exact ⟨m, .refl hm⟩
  | buffer b => exact ⟨_, .setBacking hm (by simp [hb]) (by simp) nofun rfl rfl⟩

/-- A mapping advances when it is written through. -/
lemma advances_writeAt (hm : s.mapping? map = some m) (offset : Nat) (p : Bytes) :
    ∃ m', Advances map m s m' (s.writeAt map offset p).1 := by
  unfold writeAt
  rw [hm]
  dsimp only
  split
  · exact ⟨m, .refl hm⟩
  · split
    · exact ⟨m, .refl hm⟩
    · split
      · exact advances_setView hm _
      · exact ⟨m, .refl hm⟩

/-- It advances when it is filled. -/
lemma advances_fillView (hm : s.mapping? map = some m) (byte : UInt8) :
    ∃ m', Advances map m s m' (s.fillView map byte).1 := by
  unfold fillView
  rw [hm]
  dsimp only
  split
  · exact ⟨m, .refl hm⟩
  · exact advances_setView hm _

/-- What a change of the length of a file mapping comes to. -/
lemma advances_resizes {f : MappingFaults} {n : Nat} {r : Store κ × Except Failure Bytes}
    (hm : s.mapping? map = some m) (hb : m.backing = .file b) (h : Resizes f s map m b n r) :
    ∃ m', Advances map m s m' r.1 := by
  have hback : ∀ id, b.opened = some (.file id) → s.disk.Alters id (s.writeBack m).disk :=
    fun id ho => alters_writeBack s hb ho
  have hcut : ∀ {id d}, b.opened = some (.file id) → (s.writeBack m).disk.setLength id n = .ok d →
      ∀ id', b.opened = some (.file id') → s.disk.Alters id' d := by
    intro id d ho hset id' ho'
    obtain rfl := Item.file.inj (Option.some.inj (ho.symm.trans ho'))
    exact (hback id ho).trans (Disk.alters_setLength hset)
  cases h with
  | refused e => exact ⟨m, .refl hm⟩
  | blocked e =>
    rw [writeBack_eq]
    exact ⟨_, .setFile hm hb rfl (fun h => h) hback fun id _ _ hle hr => by
      rw [bytes_writeBack]
      exact hle hr⟩
  | uncut e =>
    rw [writeBack_eq]
    exact ⟨_, .setFile hm hb rfl (fun _ => b.shaped_unmapped) hback
      fun _ _ _ _ hr => absurd rfl hr⟩
  | unmapped e ho hset =>
    rw [writeBack_eq]
    exact ⟨_, .setFile hm hb rfl (fun _ => b.shaped_unmapped) (hcut ho hset)
      fun _ _ _ _ hr => absurd rfl hr⟩
  | @done id d ho hset =>
    rw [afterCut, writeBack_eq]
    refine ⟨_, .setFile hm hb rfl (fun _ => FileBacking.shaped_remap ho n) (hcut ho hset)
      fun id' ho' hlt _ _ => ?_⟩
    obtain rfl := Item.file.inj (Option.some.inj (ho.symm.trans ho'))
    rw [Disk.bytes, Disk.data_setLength hset ((hback id ho).size_eq ▸ hlt)]
    exact Nat.le_of_eq (Bytes.size_fit _ _).symm

/-- **A change of length**, whatever fails on the way. -/
lemma advances_resizeWith (f : MappingFaults) (hm : s.mapping? map = some m) (n : UInt64) :
    ∃ m', Advances map m s m' (s.resizeWith f map n).1 := by
  unfold resizeWith
  rw [hm]
  dsimp only
  split
  · exact ⟨m, .refl hm⟩
  · split
    · next b hb => exact advances_resizes hm hb (resizes_resizeFileWith f s map m b n)
    · next b hb =>
      unfold resizeEntry
      split
      · split
        · exact ⟨m, .refl hm⟩
        · exact ⟨_, .setBacking hm (by simp [hb]) (by simp)
            (fun _ hb' => ⟨b, hb, Backing.entry.inj hb' ▸ rfl⟩) rfl rfl⟩
      · exact ⟨m, .refl hm⟩
    · next b hb =>
      unfold resizeBuffer
      split
      · exact ⟨m, .refl hm⟩
      · split
        · exact ⟨m, .refl hm⟩
        · exact ⟨_, .setBacking hm (by simp [hb]) (by simp) (by simp) rfl rfl⟩

end Store

end ClaimStore
