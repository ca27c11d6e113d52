import ClaimStore.Proofs.DiskRuns
import ClaimStore.Proofs.MappingOpens

/-!
# What a change of length makes of a file

A writable mapping shows the first bytes of its file and may be shorter than that. A change of
length cuts or pads the *file*, and the mapping then shows all of it. So the bytes that the mapping
showed stay as they are, and what comes after them is what the file held there, with zeros from the
end of the file on: it is zeros only where the file held nothing else behind the mapping.

## Main definitions

* `Store.OpensWritable` — the ways in which a file is mapped writable.
* `ClaimStore.Relengthened` — the view after a change of length.
* `Store.ResizeLaw` — what all changes of the length of a mapping come to.

## Main results

* `Store.Fronts.resize` — what a change of length that succeeds makes of the view and of the file.
* `Store.resizeLaw_opened` — every writable mapping of a file obeys the law.
* `Store.not_zero_padded` — a longer view does not always end in zeros.
-/

set_option autoImplicit false

namespace ClaimStore

/-! ### Views before and after -/

/-- **The view `v` of `n` bytes after a change of length** of a mapping that showed `u`, of a file
that held `c`. -/
structure Relengthened (c u v : Bytes) (n : Nat) : Prop where
  /-- The mapping showed the first bytes of its file. -/
  front_eq : c.take u.size = u
  /-- The new view has the length that was asked for. -/
  size_eq : v.size = n
  /-- It begins as the old one did. -/
  kept : ∀ i < min u.size n, v.get? i = u.get? i
  /-- After that it shows what the file held. -/
  file_eq : ∀ i, u.size ≤ i → i < min n c.size → v.get? i = c.get? i
  /-- Behind the end of the file it shows zeros. -/
  zeros : ∀ i, u.size ≤ i → c.size ≤ i → i < n → v.get? i = some 0
  /-- So it shows zeros after what was shown before exactly if the file held nothing else there. -/
  zeros_iff : (∀ i, u.size ≤ i → i < n → v.get? i = some 0) ↔
    ∀ i, u.size ≤ i → i < min n c.size → c.get? i = some 0

namespace Bytes

/-- A byte of a string that was cut or zero-padded. -/
lemma get?_fit (b : Bytes) (n i : Nat) :
    (b.fit n).get? i = if i < n then (if i < b.size then b.get? i else some 0) else none := by
  rw [get?_eq, get?_eq, toList_fit]
  have hlen : (b.toList.take n).length = min n b.size := by
    rw [List.length_take, length_toList]
  by_cases hb : i < b.size
  · by_cases hn : i < n
    · rw [List.getElem?_append_left (by rw [hlen]; omega), List.getElem?_take, if_pos hn, if_pos hn,
        if_pos hb]
    · rw [if_neg hn, List.getElem?_eq_none]
      rw [List.length_append, hlen, List.length_replicate]
      omega
  · rw [if_neg hb, List.getElem?_append_right (by rw [hlen]; omega), hlen,
      List.getElem?_replicate]
    by_cases hn : i < n
    · rw [if_pos (by omega), if_pos hn]
    · rw [if_neg (by omega), if_neg hn]

/-- A byte of the first ones is that of the whole. -/
lemma get?_take (b : Bytes) (n i : Nat) : (b.take n).get? i = if i < n then b.get? i else none := by
  rw [get?_eq, get?_eq, toList_take, List.getElem?_take]

end Bytes

/-- A file that is cut or zero-padded, behind a mapping of its first bytes. -/
lemma relengthened_fit {c u : Bytes} (hu : c.take u.size = u) (n : Nat) :
    Relengthened c u (c.fit n) n := by
  have hfile : ∀ i, i < n → i < c.size → (c.fit n).get? i = c.get? i := fun i hn hc => by
    rw [Bytes.get?_fit, if_pos hn, if_pos hc]
  have hzero : ∀ i, i < n → c.size ≤ i → (c.fit n).get? i = some 0 := fun i hn hc => by
    rw [Bytes.get?_fit, if_pos hn, if_neg (Nat.not_lt.2 hc)]
  have hle : u.size ≤ c.size := by
    have hsize := congrArg Bytes.size hu
    rw [Bytes.size_take] at hsize
    omega
  refine ⟨hu, Bytes.size_fit n c, fun i hi => ?_, fun i _ hi => hfile i (by omega) (by omega),
    fun i _ hc hn => hzero i hn hc, fun h i hu hi => ?_, fun h i hu hn => ?_⟩
  · rw [hfile i (by omega) (by omega)]
    have hfront := Bytes.get?_take c u.size i
    rw [hu, if_pos (by omega)] at hfront
    exact hfront.symm
  · rw [← hfile i (by omega) (by omega)]
    exact h i hu (by omega)
  · rcases Nat.lt_or_ge i c.size with hc | hc
    · rw [hfile i hn hc]
      exact h i hu (by omega)
    · exact hzero i hn hc

namespace Store

variable {κ : Type} {s s' : Store κ} {map : HandleId} {p : Path} {id : FileId} {m m' : Mapping}
  {b b' : FileBacking}

/-! ### Mappings of the front of a file -/

/-- A gate that lets a mapping become shorter. -/
def LetsShorten (s : Store κ) : Gate → Prop
  | .refuse _ => False
  | .readers g x => (s.readerRegistry g).readers x = 0

/-- The registries are what they were when a mapping is written back. -/
lemma letsShorten_writeBack (s : Store κ) (m : Mapping) (g : Gate) :
    (s.writeBack m).LetsShorten g ↔ s.LetsShorten g := by
  rw [writeBack_eq]
  cases g <;> exact Iff.rfl

/-- The file is cut where the gate agrees. -/
lemma cutFileWith_agreed {n : Nat} (h : ∀ g, b.gate = some g → b.length ≤ n ∨ s.LetsShorten g)
    (f : MappingFaults) (id : FileId) :
    s.cutFileWith f id b n = FileBacking.cutWith f id n (s.disk, b) := by
  unfold cutFileWith
  cases hg : b.gate with
  | none => rfl
  | some g =>
    dsimp only
    split
    · next hlt =>
      have hagrees := (h g hg).resolve_left (Nat.not_le.2 hlt)
      cases g with
      | refuse claim => exact hagrees.elim
      | readers g x =>
        unfold passGate ReaderRegistry.exclusive
        dsimp only
        rw [if_neg (Nat.not_lt.2 (Nat.le_of_eq hagrees))]
    · rfl

/-- It is left alone where the gate does not agree. -/
lemma cutFileWith_blocked {g : Gate} (hg : b.gate = some g) {n : Nat} (hn : n < b.length)
    (hblocked : ¬ s.LetsShorten g) (f : MappingFaults) (id : FileId) :
    ∃ e, s.cutFileWith f id b n = ((s.disk, b), .error e) := by
  unfold cutFileWith
  rw [hg]
  dsimp only
  rw [if_pos hn]
  cases g with
  | refuse claim => exact ⟨_, rfl⟩
  | readers g x =>
    unfold passGate ReaderRegistry.exclusive
    dsimp only
    rw [if_pos (Nat.pos_of_ne_zero hblocked)]
    exact ⟨_, rfl⟩

/-- A change of the length of a writable file mapping. -/
lemma resizeWith_file (hm : s.mapping? map = some m) (hro : m.readOnly = false)
    (hb : m.backing = .file b) (f : MappingFaults) (n : UInt64) :
    s.resizeWith f map n = s.resizeFileWith f map m b n := by
  rw [resizeWith, hm]
  dsimp only
  rw [hro, hb]
  rfl

/-- **A writable mapping of the file under a path**, which shows the first bytes of the file if it
shows any. -/
structure Fronts (map : HandleId) (p : Path) (id : FileId) (s : Store κ) (m : Mapping)
    (b : FileBacking) : Prop where
  /-- The mapping. -/
  mapping_eq : s.mapping? map = some m
  /-- It is writable. -/
  readOnly_eq : m.readOnly = false
  /-- It is one of a file. -/
  backing_eq : m.backing = .file b
  /-- The file is open. -/
  opened_eq : b.opened = some (.file id)
  /-- It is in one of its forms. -/
  shaped : m.Shaped
  /-- It is inside the file. -/
  inFile : s.InFile m
  /-- The disk is sound. -/
  sound : s.disk.Sound
  /-- The path leads to the file. -/
  resolve_eq : s.disk.resolve p = .ok (.file id)

namespace Fronts

/-- The path leads to what the file holds. -/
lemma fileBytes?_eq (h : Fronts map p id s m b) :
    s.disk.fileBytes? p = some (s.disk.bytes id) := by
  rw [Disk.fileBytes?, h.resolve_eq]

/-- **What is shown are the first bytes of the file.** -/
lemma view?_eq (h : Fronts map p id s m b) :
    s.view? m = if b.region = .unmapped then none else some ((s.disk.bytes id).take b.length) := by
  cases hr : b.region with
  | mapped =>
    have hle := (h.inFile b id h.readOnly_eq h.backing_eq h.opened_eq).2 (by rw [hr]; nofun)
    rw [view?_of_inFile h.inFile h.readOnly_eq h.backing_eq h.opened_eq hr, if_neg (by nofun),
      Bytes.fit_of_le_size hle]
  | empty =>
    unfold view? fileView?
    rw [h.backing_eq]
    dsimp only
    rw [hr, (h.shaped.file b h.backing_eq).length_eq hr, if_neg (by nofun)]
    exact congrArg some (Bytes.ext (by simp))
  | unmapped =>
    unfold view? fileView?
    rw [h.backing_eq]
    dsimp only
    rw [hr, if_pos rfl]

/-- A step that leaves the mapping as one of its file. -/
lemma advances (h : Fronts map p id s m b) (ha : Advances map m s m' s') :
    ∃ b', Fronts map p id s' m' b' := by
  obtain ⟨b', hb', ho'⟩ := ha.file b h.backing_eq
  have halters := ha.alters b id h.backing_eq h.opened_eq
  exact ⟨b', ha.mapping_eq, ha.readOnly_eq.trans h.readOnly_eq, hb', ho'.trans h.opened_eq,
    ha.shaped h.shaped, ha.inFile h.inFile, halters.extends.sound h.sound,
    halters.resolve_eq h.sound h.resolve_eq⟩

variable [DecidableEq κ]

/-- **Every step that keeps the mapping mapped** leaves it as one of its file. -/
lemma step (h : Fronts map p id s m b) (f : MappingFaults) {step : MappingStep}
    (hne : step ≠ .unmap) : ∃ m' b', Fronts map p id ((capability map).step f s step) m' b' := by
  have goes : (∃ m', Advances map m s m' ((capability map).step f s step)) →
      ∃ m' b', Fronts map p id ((capability map).step f s step) m' b' := fun ⟨m', ha⟩ =>
    ⟨m', h.advances ha⟩
  cases step with
  | unmap => exact absurd rfl hne
  | register name failure probe =>
    have still : Still s (s.register m.hooks (.record name failure probe)).1 ∧
        (s.register m.hooks (.record name failure probe)).1.disk = s.disk := by
      unfold register
      split
      · exact ⟨.of_eq rfl rfl rfl rfl, rfl⟩
      · exact ⟨.refl s, rfl⟩
    have hstep : (capability map).step f s (.register name failure probe) =
        (s.register m.hooks (.record name failure probe)).1.setHandle map
          (.mapping { m with hooks := (s.register m.hooks (.record name failure probe)).2 }) := by
      show s.registerHook map _ = _
      rw [registerHook, h.mapping_eq]
    rw [hstep]
    have hdisk : ∀ x : Handle, ((s.register m.hooks (.record name failure probe)).1.setHandle map
        x).disk = s.disk := fun _ => still.2
    refine ⟨{ m with hooks := (s.register m.hooks (.record name failure probe)).2 }, b, ?_,
      h.readOnly_eq, h.backing_eq, h.opened_eq, ⟨h.shaped.file, h.shaped.entry⟩,
      inFile_congr (hdisk _) rfl rfl h.inFile, hdisk _ ▸ h.sound, hdisk _ ▸ h.resolve_eq⟩
    rw [mapping?_setHandle (mapping?_congr still.1.handles_eq ▸ h.mapping_eq), if_pos rfl]
  | writeAt offset v =>
    apply goes
    rw [Capability.step, writeAt_capability]
    exact advances_writeAt h.mapping_eq offset v
  | fill byte =>
    apply goes
    rw [Capability.step, fill_capability]
    exact advances_fillView h.mapping_eq byte
  | resize n => exact goes (advances_resizeWith f h.mapping_eq n)

/-- **So does every sequence of them.** -/
lemma run (h : Fronts map p id s m b) {steps : List (MappingFaults × MappingStep)}
    (hsteps : Capability.KeepsMapped steps) :
    ∃ m' b', Fronts map p id ((capability map).run s steps) m' b' := by
  induction steps generalizing s m b with
  | nil => exact ⟨m, b, h⟩
  | cons x steps ih =>
    obtain ⟨m', b', h'⟩ := h.step x.1 (hsteps x List.mem_cons_self)
    exact ih h' fun y hy => hsteps y (List.mem_cons_of_mem x hy)

omit [DecidableEq κ] in
/-- **A change of length that succeeds** cuts or pads the file, and the mapping shows all of it.

**Proof sketch.** Of all that a change of length may come to only one succeeds: the file is fitted
to the length, and mapped again with it. -/
lemma resize (h : Fronts map p id s m b) {f : MappingFaults} {n : UInt64} {v : Bytes}
    (hv : (s.resizeWith f map n).2 = .ok v) : v = (s.disk.bytes id).fit n.toNat ∧
      (s.resizeWith f map n).1.data map = some v ∧
        (s.resizeWith f map n).1.disk.fileBytes? p = some v := by
  obtain ⟨m', ha⟩ := advances_resizeWith f h.mapping_eq n
  obtain ⟨b', h'⟩ := h.advances ha
  rw [resizeWith_file h.mapping_eq h.readOnly_eq h.backing_eq] at hv h' ⊢
  have hpart := resizes_resizeFileWith f s map m b n
  revert hv h' hpart
  generalize s.resizeFileWith f map m b n = r
  intro hv h' hpart
  cases hpart with
  | @done id' d ho hset =>
    obtain rfl := Item.file.inj (Option.some.inj (ho.symm.trans h.opened_eq))
    have hlt := (h.inFile b id' h.readOnly_eq h.backing_eq ho).1
    have hdata : d.data id' = .ofBytes ((s.disk.bytes id').fit n.toNat) := by
      rw [Disk.data_setLength hset ((alters_writeBack s h.backing_eq ho).size_eq ▸ hlt),
        bytes_writeBack]
    have hbytes : d.bytes id' = (s.disk.bytes id').fit n.toNat := by
      rw [Disk.bytes, hdata]
      rfl
    have hview : v = (s.disk.bytes id').fit n.toNat := by
      rw [← Except.ok.inj hv, Disk.view, hdata, FileData.view_ofBytes,
        Bytes.fit_fit_of_le _ (Nat.le_refl _)]
    refine ⟨hview, ?_, ?_⟩
    · have hm := mapping?_afterCut h.mapping_eq b n.toNat d map
      rw [if_pos rfl] at hm
      obtain rfl := Option.some.inj (h'.mapping_eq.symm.trans hm)
      obtain rfl := Backing.file.inj (h'.backing_eq.symm.trans rfl)
      rw [data, hm]
      dsimp only
      rw [h'.view?_eq]
      have hr : (FileBacking.remap { b with region := .unmapped } n.toNat).region ≠ .unmapped := by
        unfold FileBacking.remap
        split <;> simp
      rw [if_neg hr]
      show some ((d.bytes id').take n.toNat) = some v
      have hsize := Bytes.size_fit n.toNat (s.disk.bytes id')
      rw [hbytes, hview, ← Bytes.fit_of_le_size (Nat.le_of_eq hsize.symm),
        Bytes.fit_fit_of_le _ (Nat.le_refl _)]
    · rw [h'.fileBytes?_eq, hview]
      exact congrArg some hbytes
  | refused | blocked | uncut | unmapped => cases hv

omit [DecidableEq κ] in
/-- **A change of length succeeds** where nothing fails, the file can have the length, and the gate
agrees if the mapping becomes shorter. -/
lemma resize_succeeds (h : Fronts map p id s m b) {f : MappingFaults} {n : UInt64}
    (hback : f.writeBack = none) (hcut : f.cut = none) (hremap : f.remap = none)
    (hn : n.toNat ≤ Disk.maxFileLength)
    (hgate : ∀ g, b.gate = some g → b.length ≤ n.toNat ∨ s.LetsShorten g) :
    ∃ v, (s.resizeWith f map n).2 = .ok v := by
  have hrefusal : f.refusal? m = none := by
    rw [Faults.refusal?, hback]
  have hset := (s.writeBack m).disk.setLength_eq id hn
  have hcuts := cutFileWith_agreed (s := s.writeBack m)
    (fun g hg => (hgate g hg).imp_right (letsShorten_writeBack s m g).2) f id
  refine ⟨((s.writeBack m).disk.modify id (·.setLength n.toNat)).view id n.toNat, ?_⟩
  rw [resizeWith_file h.mapping_eq h.readOnly_eq h.backing_eq]
  unfold resizeFileWith
  rw [h.opened_eq]
  dsimp only
  rw [hrefusal]
  dsimp only
  rw [hcuts, FileBacking.cutWith, hcut]
  dsimp only
  rw [FileBacking.cut, hset]
  simp only [FileBacking.remapWith, hremap]
  rfl

end Fronts

/-! ### All writable mappings -/

section Law

variable [DecidableEq κ]

/-- **The ways in which the file under a path is mapped writable**, with `n` bytes. -/
inductive OpensWritable (s : Store κ) (n : UInt64) : Path → Store κ → HandleId → Prop
  /-- By itself, with or without a gate. -/
  | file {p : Path} {gate : Option Gate} {s' : Store κ} {map : HandleId}
      (h : s.mapFile p n false gate = (s', .ok map)) : OpensWritable s n p s' map
  /-- As the content of a claim in a file repository. -/
  | content {D : Path} {w g : RegistryId} {c : ClaimId} {s' : Store κ} {map : HandleId}
      (h : s.mapInFiles D w g c n false = (s', .ok map)) :
      OpensWritable s n (contentPath D (s.identifier c)) s' map

/-- **What all changes of the length of a writable mapping come to**, from a state on. -/
structure ResizeLaw (map : HandleId) (p : Path) (n₀ : Nat) (s : Store κ) : Prop where
  /-- The mapping shows as many bytes as were asked for. -/
  opened : ∃ u, s.data map = some u ∧ u.size = n₀
  /-- A change of length that succeeds, after any steps that keep the mapping mapped, and whatever
  failed in them: the new view has the length that was asked for, and is what the file holds. It
  begins as the old view did, goes on with what the file held behind that, and ends in zeros where
  the file held nothing. -/
  resized : ∀ steps f n u v, Capability.KeepsMapped steps →
    ((capability map).run s steps).data map = some u →
    ((capability map).resize f ((capability map).run s steps) n).2 = .ok v →
    ∃ c, ((capability map).run s steps).disk.fileBytes? p = some c ∧
      Relengthened c u v n.toNat ∧
      ((capability map).resize f ((capability map).run s steps) n).1.data map = some v ∧
      ((capability map).resize f ((capability map).run s steps) n).1.disk.fileBytes? p = some v
  /-- A change of length succeeds where nothing fails, the file can have the length, and the gate
  agrees if the mapping becomes shorter. -/
  succeeds : ∀ steps f n m b, Capability.KeepsMapped steps →
    ((capability map).run s steps).mapping? map = some m → m.backing = .file b →
    f.writeBack = none → f.cut = none → f.remap = none → n.toNat ≤ Disk.maxFileLength →
    (∀ g, b.gate = some g → b.length ≤ n.toNat ∨ ((capability map).run s steps).LetsShorten g) →
    ∃ v, ((capability map).resize f ((capability map).run s steps) n).2 = .ok v

/-- What is true of mappings of the front of a file. -/
lemma Fronts.resizeLaw (h : Fronts map p id s m b) (hr : b.region ≠ .unmapped) :
    ResizeLaw map p b.length s where
  opened := by
    have hle := (h.inFile b id h.readOnly_eq h.backing_eq h.opened_eq).2 hr
    refine ⟨(s.disk.bytes id).take b.length, ?_, by rw [Bytes.size_take]; omega⟩
    rw [data, h.mapping_eq]
    dsimp only
    rw [h.view?_eq, if_neg hr]
  resized steps f n u v hsteps hu hv := by
    obtain ⟨m', b', h'⟩ := h.run hsteps
    obtain ⟨rfl, hdata, hbytes⟩ := h'.resize hv
    refine ⟨_, h'.fileBytes?_eq, relengthened_fit ?_ _, hdata, hbytes⟩
    rw [data, h'.mapping_eq] at hu
    dsimp only at hu
    rw [h'.view?_eq] at hu
    split at hu
    · cases hu
    · next hmapped =>
      have hle := (h'.inFile b' id h'.readOnly_eq h'.backing_eq h'.opened_eq).2 hmapped
      rw [← Option.some.inj hu, Bytes.size_take, Nat.min_eq_left hle]
  succeeds steps f n m' b' hsteps hm hb hback hcut hremap hn hgate := by
    obtain ⟨m₁, b₁, h₁⟩ := h.run hsteps
    obtain rfl := Option.some.inj (hm.symm.trans h₁.mapping_eq)
    obtain rfl := Backing.file.inj (hb.symm.trans h₁.backing_eq)
    exact h₁.resize_succeeds hback hcut hremap hn hgate

omit [DecidableEq κ] in
/-- A file that was opened for mapping is mapped from its front. -/
lemma fronts_openWritable (hd : s.disk.Sound) {d : Disk} {n : UInt64} {k : FileBacking}
    (h : FileBacking.openWritable s.disk p n = (d, .ok k)) (gate : Option Gate)
    (hs : s'.disk = d) (hm : s'.mapping? map = some m) (hro : m.readOnly = false)
    (hb : m.backing = .file { k with gate }) :
    ∃ id, Fronts map p id s' m { k with gate } ∧ k.region ≠ .unmapped ∧ k.length = n.toNat := by
  have hinFile : s'.InFile m := inFile_openWritable hd h hb hs
  have hshaped := FileBacking.shaped_openWritable h
  obtain ⟨hd', id, hresolve, rfl, -⟩ := FileBacking.inFile_opened hd h
  refine ⟨id, ⟨hm, hro, hb, rfl, ⟨fun c hc => ?_, fun c hc => ?_⟩, hinFile, hs ▸ hd',
    hs ▸ hresolve⟩, ?_, rfl⟩
  · obtain rfl := Backing.file.inj (hb.symm.trans hc)
    exact hshaped.withGate gate
  · cases hb.symm.trans hc
  · dsimp only
    split <;> nofun

/-- **Every writable mapping of a file obeys the law**, whatever the file held, with which size it
is mapped, and whatever is written through the mapping: a change of length that succeeds shows the
file, cut or padded to the new length, and the file then holds what is shown. So the bytes after
those that were shown are zeros exactly if the file held nothing else there.

**Proof sketch.** The mapping stands before its file as long as it lives, whatever is done with
others. A change of length that succeeds fits the file to the length, and one that can succeed
does. -/
theorem resizeLaw_opened {n : UInt64} (hd : s.disk.Sound) (h : s.OpensWritable n p s' map) :
    ResizeLaw map p n.toNat s' := by
  have hmade : ∀ (t : Store κ) m, succeed (t.addHandle (.mapping m)) = (s', .ok map) →
      s'.disk = t.disk ∧ s'.mapping? map = some m := by
    intro t m heq
    obtain ⟨rfl, hmap⟩ := Prod.mk.inj heq
    obtain rfl := Except.ok.inj hmap
    refine ⟨rfl, mapping?_eq_some.2 ?_⟩
    rw [((Still.refl t).added (.mapping m)).handle?]
    exact if_pos rfl
  cases h with
  | file h =>
    unfold mapFile at h
    simp only [Bool.false_eq_true, if_false] at h
    split at h
    · cases h
    · next d k hopen =>
      obtain ⟨hdisk, hm⟩ := hmade _ _ h
      obtain ⟨id, hfronts, hr, hlen⟩ := fronts_openWritable hd hopen _ hdisk hm rfl rfl
      exact hlen ▸ hfronts.resizeLaw hr
  | content h =>
    unfold mapInFiles at h
    simp only [Bool.false_eq_true, if_false] at h
    split at h
    · cases h
    · split at h
      · cases h
      · next leased _ d k hopen =>
        obtain ⟨hdisk, hm⟩ := hmade (takeReference _ _) _ h
        obtain ⟨id, hfronts, hr, hlen⟩ := fronts_openWritable hd hopen _ hdisk hm rfl rfl
        exact hlen ▸ hfronts.resizeLaw hr

end Law

/-! ### A longer file -/

/-- A run in which the content of a claim becomes two bytes. -/
def twoBytes : List (Faults × Operation Nat) :=
  [(.quiet, .openRepository (.files (.ofString "/d"))), (.quiet, .addClaim "x" (some 0)),
    (.quiet, .writeClaim 0 false), (.quiet, .writeData 0 ⟨.ofList [1, 2], Payload.size_two_lt⟩),
    (.quiet, .drop 0)]

/-- The state in which the first of the two bytes was mapped writable. -/
def firstByteMapped : Store :=
  (((onDirectory "d").runUnder twoBytes).mapInFiles (.ofString "/d") 0 0 0 1 false).1

/-- The first byte of the content is mapped. -/
lemma opensWritable_firstByteMapped :
    ((onDirectory "d").runUnder twoBytes).OpensWritable 1 (.ofString "/d/x") firstByteMapped 1 := by
  have hp : contentPath (.ofString "/d") (((onDirectory "d").runUnder twoBytes).identifier 0) =
      .ofString "/d/x" := by decide +kernel
  have h : (((onDirectory "d").runUnder twoBytes).mapInFiles (.ofString "/d") 0 0 0 1 false).2 =
      .ok 1 := by decide +kernel
  exact hp ▸ .content (Prod.ext rfl h)

/-- The law applies to that mapping. -/
theorem resizeLaw_firstByteMapped :
    ((onDirectory "d" : Store).runUnder twoBytes).disk.Sound ∧
      ((onDirectory "d").runUnder twoBytes).OpensWritable 1 (.ofString "/d/x") firstByteMapped 1 ∧
      ResizeLaw 1 (.ofString "/d/x") 1 firstByteMapped :=
  have hd : ((onDirectory "d" : Store).runUnder twoBytes).disk.Sound :=
    disk_sound_runUnder "d" twoBytes
  ⟨hd, opensWritable_firstByteMapped, resizeLaw_opened hd opensWritable_firstByteMapped⟩

/-- **A longer view does not always end in zeros**: where a mapping shows one byte of a file of two,
and gets two bytes long, it shows the second byte of the file. -/
theorem not_zero_padded :
    ¬ ∀ (s s' : Store) (n n' : UInt64) (p : Path) (map : HandleId) (u v : Bytes), s.disk.Sound →
      s.OpensWritable n p s' map → s'.data map = some u →
      (s'.resizeWith .quiet map n').2 = .ok v →
      ∀ i, u.size ≤ i → i < n'.toNat → v.get? i = some 0 := by
  intro h
  have hzero := h _ _ 1 2 _ 1 (.ofList [1]) (.ofList [1, 2])
    (disk_sound_runUnder "d" twoBytes) opensWritable_firstByteMapped (by decide +kernel)
    (by decide +kernel) 1 (by decide) (by decide)
  exact absurd hzero (by decide)

end Store

end ClaimStore
