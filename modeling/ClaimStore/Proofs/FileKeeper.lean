import ClaimStore.Proofs.FileContents
import ClaimStore.Proofs.Keeper

/-!
# Files keep bytes

A file repository keeps the bytes of an identifier in the file of that name. A mapping shows the
file itself, a reader reads it, and a writer writes to it; nothing is put back when they end.

## Main definitions

* `ClaimStore.fileBacking` — the backing of a mapping that is as long as it shows bytes.
* `ClaimStore.fileKeeper` — a file repository as a keeper.

## Main results

* `Store.mapInFiles_writable`, `Store.resize_file` — mappings that make the file as long as they
  are.

## Design

A writable mapping may not be shorter than what is stored, since it leaves the rest of the file as
it is; and a file cannot have every length.
-/

set_option autoImplicit false

namespace ClaimStore

open Store Disk

/-! ### Backings -/

/-- The backing of a mapping of the first `n` bytes of a file. -/
def fileBacking (p : Path) (id : FileId) (n : Nat) (gate : Option Gate) : FileBacking where
  path := p
  opened := some (.file id)
  region := if n = 0 then .empty else .mapped
  length := n
  gate

/-- A file that was opened is backed by itself. -/
lemma ofOpened_file (p : Path) (id : FileId) (n : Nat) :
    FileBacking.ofOpened p (.file id) n = .ok (fileBacking p id n none) := by
  unfold FileBacking.ofOpened fileBacking
  by_cases hn : n = 0
  · rw [if_pos hn, if_pos hn, hn]
  · rw [if_neg hn, if_neg hn]

/-- What a mapping of a file writes back. -/
lemma flush_fileBacking (p : Path) (id : FileId) (n : Nat) (gate : Option Gate) (d : Disk) :
    (fileBacking p id n gate).flush d = if n = 0 then d else d.flush id n := by
  unfold FileBacking.flush fileBacking
  dsimp only
  by_cases hn : n = 0
  · rw [if_pos hn, if_pos hn]
  · rw [if_neg hn, if_neg hn]

namespace Store

variable {κ : Type} {s s' : Store κ} {p : Path} {id : FileId} {gate : Option Gate} {v w : Bytes}

/-- The bytes that a mapping of a file shows. -/
lemma fileView?_eq (hdata : s.disk.data id = .ofBytes w) (hv : w.fit v.size = v) :
    s.fileView? (fileBacking p id v.size gate) = some v := by
  unfold fileView? fileBacking
  dsimp only
  by_cases hn : v.size = 0
  · rw [if_pos hn]
    exact congrArg some (Bytes.size_eq_zero_iff.1 hn).symm
  · rw [if_neg hn]
    dsimp only
    rw [Disk.view, hdata, FileData.view_ofBytes, hv]

/-- The size that a mapping of a file shows. -/
lemma mappingSize_fileBacking {m : Mapping} {n : Nat}
    (hm : m.backing = .file (fileBacking p id n gate)) : s.mappingSize m = n := by
  rw [mappingSize, hm]
  unfold fileBacking
  dsimp only
  rw [if_neg]
  split <;> exact Region.noConfusion

end Store

/-! ### Mappings -/

variable {κ : Type} {directory : Path} {writers readers : RegistryId}
  {i : DirectoryId} {s s' : Store κ} {C : String → Option Bytes} {c : ClaimId} {x : String}
  {v : Bytes} {k : Backing} {n : UInt64}

/-- A mapping of a file shows bytes: read-only the first bytes of the file, otherwise all of them.
Only a writable one can make the file shorter, and nobody has the file mapped read-only then. -/
structure ShowsFile (directory : Path) (readers : RegistryId) (i : DirectoryId) (s : Store κ)
    (C : String → Option Bytes) (x : String) (readOnly : Bool) (k : Backing) (v : Bytes) :
    Prop where
  /-- The disk takes the identifier. -/
  nameable : Nameable directory x
  /-- The rest is as the contents say. -/
  holds : Holds s.disk directory i (if readOnly then C else Shelf.update C x (some v))
  /-- The file is shown. -/
  backing_eq : ∃ id gate, k = .file (fileBacking (contentPath directory x) id v.size gate) ∧
    (s.disk.entries i).lookup x = some (.file id) ∧
    (readOnly = false → gate = some (.readers readers x))
  /-- The bytes are the first ones of the file. -/
  shown_eq : ∃ w, (if readOnly then C else Shelf.update C x (some v)) x = some w ∧
    w.fit v.size = v
  /-- Nobody has the file mapped read-only. -/
  readers_eq : readOnly = false → (s.readerRegistry readers).readers x = 0

/-- A writer to a file has written bytes. -/
structure WritesFile (directory : Path) (i : DirectoryId) (s : Store κ)
    (C : String → Option Bytes) (x : String) (sink : Sink) (v : Bytes) : Prop where
  /-- The disk takes the identifier. -/
  nameable : Nameable directory x
  /-- The file has the bytes. -/
  holds : Holds s.disk directory i (Shelf.update C x (some v))
  /-- The next bytes go to the end of the file. -/
  sink_eq : ∃ id, (s.disk.entries i).lookup x = some (.file id) ∧
    (sink = .file id none ∨ sink = .file id (some v.size))

/-- A writable mapping shows all of its file. -/
lemma ShowsFile.ofWritable {p : FileBacking} {id : FileId} (hx : Nameable directory x)
    (h : Holds s.disk directory i (Shelf.update C x (some v)))
    (hl : (s.disk.entries i).lookup x = some (.file id))
    (hreaders : (s.readerRegistry readers).readers x = 0)
    (hp : p = fileBacking (contentPath directory x) id v.size (some (.readers readers x))) :
    ShowsFile directory readers i s C x false (.file p) v where
  nameable := hx
  holds := h
  backing_eq := ⟨id, _, congrArg Backing.file hp, hl, fun _ => rfl⟩
  shown_eq := ⟨v, Shelf.update_self C x (some v), Bytes.fit_size v⟩
  readers_eq _ := hreaders

/-- What a writable mapping shows, and of which file. -/
lemma ShowsFile.writable (h : ShowsFile directory readers i s C x false k v) :
    Holds s.disk directory i (Shelf.update C x (some v)) ∧ ∃ id,
      k = .file (fileBacking (contentPath directory x) id v.size (some (.readers readers x))) ∧
      (s.disk.entries i).lookup x = some (.file id) ∧ s.disk.data id = .ofBytes v := by
  obtain ⟨id, gate, hk, hl, hgate⟩ := h.backing_eq
  have hholds : Holds s.disk directory i (Shelf.update C x (some v)) := h.holds
  obtain ⟨w, hw, hdata⟩ := hholds.data_eq h.nameable hl
  rw [Shelf.update_self] at hw
  obtain rfl := Option.some.inj hw
  exact ⟨hholds, id, by rw [hk, hgate rfl], hl, hdata⟩

namespace Store

/-- Where nothing is held, nobody has anything mapped read-only. -/
lemma Quiet.readers_eq (h : Quiet s) (g : RegistryId) (x : String) :
    (s.readerRegistry g).readers x = 0 :=
  h (.lease (.read g x)) rfl fun _ hc => nomatch hc

/-- A mapping that shows a file has the bytes of the file as its view. -/
lemma showsFile_view? {readOnly : Bool} {m : Mapping}
    (h : ShowsFile directory readers i s C x readOnly m.backing v) : s.view? m = some v := by
  obtain ⟨id, gate, hk, hl, -⟩ := h.backing_eq
  obtain ⟨w, hw, hfit⟩ := h.shown_eq
  obtain ⟨w', hw', hdata⟩ := h.holds.data_eq h.nameable hl
  obtain rfl : w = w' := Option.some.inj (hw.symm.trans hw')
  rw [view?, hk]
  exact fileView?_eq hdata hfit

/-- What a mapping shows of a file does not change beside what backends keep. -/
lemma showsFile_congr {readOnly : Bool} (h : ShowsFile directory readers i s C x readOnly k v)
    (hb : Besides s s') : ShowsFile directory readers i s' C x readOnly k v where
  nameable := h.nameable
  holds := hb.disk_eq ▸ h.holds
  backing_eq := hb.disk_eq ▸ h.backing_eq
  shown_eq := h.shown_eq
  readers_eq hro := by
    rw [readerRegistry, hb.readerRegistries_eq]
    exact h.readers_eq hro

/-- **A read-only mapping of a file.** -/
lemma mapInFiles_readOnly (writers readers : RegistryId) (h : Holds s.disk directory i C)
    (hx : Nameable directory (s.identifier c)) (hv : C (s.identifier c) = some v)
    (hle : n.toNat ≤ v.size) :
    ∃ s' k, Behind s s' ∧ s.mapInFiles directory writers readers c n true =
        succeed (s'.addHeldMapping { backing := k, readOnly := true, hooks := .empty } c
          (some (.read readers (s.identifier c)))) ∧
      ShowsFile directory readers i s' C (s.identifier c) true k (v.take n.toNat) := by
  obtain ⟨id, hl, hdata⟩ := h.present _ v hx hv
  have hlength : s.disk.length (.file id) = v.size := by
    rw [Disk.length, Disk.bytes, hdata]
    rfl
  have hsize : (v.take n.toNat).size = n.toNat := by
    rw [Bytes.size_take]
    exact Nat.min_eq_left hle
  refine ⟨s.takeReadLease readers (s.identifier c),
    .file (fileBacking (contentPath directory (s.identifier c)) id n.toNat none),
    ⟨rfl, rfl, rfl, rfl⟩, ?_, hx, h, ⟨id, none, by rw [hsize], hl, fun hro => by cases hro⟩,
    ⟨v, hv, ?_⟩, fun hro => by cases hro⟩
  · unfold mapInFiles FileBacking.openReadOnly
    simp only [if_true, h.storedLength_eq hx, hv, Option.map_some, h.resolve_some hx hl, hlength,
      if_neg (Nat.not_lt.2 hle), ofOpened_file]
  · rw [hsize, Bytes.fit_of_le_size hle]

/-- A read-only mapping of more than the file has. -/
lemma mapInFiles_short (h : Holds s.disk directory i C) (hx : Nameable directory (s.identifier c))
    (hv : C (s.identifier c) = some v) (hlt : v.size < n.toNat) :
    ∃ e : ContentError, e.kind = .insufficientBackingStore ∧
      s.mapInFiles directory writers readers c n true = (s, .error (.content e)) := by
  obtain ⟨id, hl, hdata⟩ := h.present _ v hx hv
  have hlength : s.disk.length (.file id) = v.size := by
    rw [Disk.length, Disk.bytes, hdata]
    rfl
  refine ⟨.insufficientBackingStore (contentPath directory (s.identifier c)).toString n.toNat
    v.size, rfl, ?_⟩
  unfold mapInFiles FileBacking.openReadOnly
  simp only [if_true, h.storedLength_eq hx, hv, Option.map_some, h.resolve_some hx hl, hlength,
    if_pos hlt]

/-- A file that is opened to be mapped writable. -/
lemma openWritable_eq {d : Disk} (h : Holds d directory i C) (hx : Nameable directory x)
    (hle : ∀ w, C x = some w → w.size ≤ n.toNat) (hn : n.toNat ≤ maxFileLength) :
    ∃ id d', FileBacking.openWritable d (contentPath directory x) n =
        (d', .ok (fileBacking (contentPath directory x) id n.toNat none)) ∧
      Holds d' directory i (Shelf.update C x (some (((C x).getD .empty).fit n.toNat))) ∧
      (d'.entries i).lookup x = some (.file id) := by
  obtain ⟨id, d₁, hopen, hholds, hl⟩ := h.openCreating hx
  obtain ⟨w, hw, hdata⟩ := hholds.data_eq hx hl
  rw [Shelf.update_self] at hw
  have hbytes : d₁.bytes id = (C x).getD .empty := by
    rw [Disk.bytes, hdata, Option.some.inj hw]
    rfl
  unfold FileBacking.openWritable
  rw [hx.makeParent_eq h.walk_eq]
  dsimp only
  rw [hopen]
  dsimp only
  rw [hbytes]
  split
  · obtain ⟨d₂, hset, hholds', hl'⟩ := hholds.setLength hx hl (Shelf.update_self C x _) hn
    rw [Shelf.update_update] at hholds'
    rw [hset]
    exact ⟨id, d₂, by rw [ofOpened_file], hholds', hl'⟩
  · next hlong =>
    have hfit : ((C x).getD .empty).fit n.toNat = (C x).getD .empty := by
      have hsize : ((C x).getD .empty).size = n.toNat := by
        refine Nat.le_antisymm ?_ (Nat.not_lt.1 hlong)
        cases hv : C x with
        | none => exact Nat.zero_le _
        | some w => exact hle w hv
      rw [← hsize, Bytes.fit_size]
    rw [hfit]
    exact ⟨id, d₁, by rw [ofOpened_file], hholds, hl⟩

/-- **A writable mapping of a file.** -/
lemma mapInFiles_writable (writers readers : RegistryId) (h : Holds s.disk directory i C)
    (hq : Quiet s) (hx : Nameable directory (s.identifier c))
    (hle : ∀ w, C (s.identifier c) = some w → w.size ≤ n.toNat) (hn : n.toNat ≤ maxFileLength) :
    ∃ s' k, Behind s s' ∧ s.mapInFiles directory writers readers c n false =
        succeed (s'.addHeldMapping { backing := k, readOnly := false, hooks := .empty } c
          (some (.write writers (s.identifier c)))) ∧
      ShowsFile directory readers i s' C (s.identifier c) false k
        (((C (s.identifier c)).getD .empty).fit n.toNat) := by
  obtain ⟨leased, hlease, hb, hbes⟩ := hq.takeWriteLease writers (s.identifier c)
  obtain ⟨id, d', hopen, hholds, hl⟩ := openWritable_eq h hx hle hn
  refine ⟨{ leased with disk := d' }, _,
    ⟨hb.claims_eq, hb.handles_eq, hb.log_eq, hb.repositories_eq⟩, ?_,
    .ofWritable hx hholds hl ?_ (by rw [Bytes.size_fit])⟩
  · unfold mapInFiles
    simp only [Bool.false_eq_true, if_false, hlease, hopen]
    rfl
  · rw [← hq.readers_eq readers (s.identifier c), readerRegistry, readerRegistry,
      ← hbes.readerRegistries_eq]

/-- Other bytes in a file that is mapped. -/
lemma setView_file {h : HandleId} {m : Mapping} {v' : Bytes}
    (hs : ShowsFile directory readers i s C x false m.backing v) (hsize : v'.size = v.size)
    (hm : s.mapping? h = some m) :
    ∃ s' k, Behind s s' ∧ s.setView h m v' = s'.setHandle h (.mapping { m with backing := k }) ∧
      ShowsFile directory readers i s' C x false k v' := by
  obtain ⟨hholds, id, hk, hl, hdata⟩ := hs.writable
  by_cases hv : v.size = 0
  · have hsame : v' = v := by
      rw [Bytes.size_eq_zero_iff.1 hv, Bytes.size_eq_zero_iff.1 (hsize.trans hv)]
    refine ⟨s, m.backing, .refl s, ?_, hsame ▸ hs⟩
    rw [setHandle_self (mapping?_eq_some.1 hm), setView, hk]
    unfold fileBacking
    dsimp only
    rw [if_pos hv]
  · refine ⟨{ s with disk := s.disk.writeView id v' }, m.backing, ⟨rfl, rfl, rfl, rfl⟩, ?_, ?_⟩
    · have hsame : ({ s with disk := s.disk.writeView id v' } : Store κ).mapping? h = some m := hm
      rw [setHandle_self (mapping?_eq_some.1 hsame), setView, hk]
      unfold fileBacking
      dsimp only
      rw [if_neg hv]
    · have hchange := hholds.modify hs.nameable hl (f := (·.writeView v')) (v := v')
        (by rw [hdata]; exact FileData.writeView_ofBytes hsize)
      rw [Shelf.update_update] at hchange
      rw [hk]
      exact .ofWritable hs.nameable hchange hl (hs.readers_eq rfl) (by rw [hsize])

/-- What was changed through a mapping is in the file before it is written back. -/
lemma showsFile_writeBack {m : Mapping} {readOnly : Bool}
    (hs : ShowsFile directory readers i s C x readOnly m.backing v) (hro : m.readOnly = readOnly) :
    Behind s (s.writeBack m) ∧ ShowsFile directory readers i (s.writeBack m) C x readOnly
      m.backing v := by
  subst hro
  cases hro : m.readOnly with
  | true =>
    have hback : s.writeBack m = s := by rw [writeBack, hro]
    rw [hback]
    exact ⟨.refl s, hro ▸ hs⟩
  | false =>
    rw [hro] at hs
    obtain ⟨hholds, id, hk, hl, hdata⟩ := hs.writable
    have hback : s.writeBack m =
        { s with disk := if v.size = 0 then s.disk else s.disk.flush id v.size } := by
      rw [writeBack, hro, hk]
      exact congrArg (fun d => { s with disk := d }) (flush_fileBacking _ id v.size _ s.disk)
    rw [hback, hk]
    refine ⟨⟨rfl, rfl, rfl, rfl⟩, ?_⟩
    by_cases hv : v.size = 0
    · rw [if_pos hv]
      exact .ofWritable hs.nameable hholds hl (hs.readers_eq rfl) rfl
    · have hchange := hholds.modify hs.nameable hl (f := (·.flush v.size)) (v := v)
        (by rw [hdata]; exact FileData.flush_ofBytes v v.size)
      rw [Shelf.update_update] at hchange
      rw [if_neg hv]
      exact .ofWritable hs.nameable hchange hl (hs.readers_eq rfl) rfl

/-- Where nobody has the file mapped read-only, it can be cut. -/
lemma cutFile_eq (p : Path) (id : FileId) (h : (s.readerRegistry readers).readers x = 0)
    (length n : Nat) :
    s.cutFile id (fileBacking p id length (some (.readers readers x))) n =
      FileBacking.cut id n
        (s.disk, fileBacking p id length (some (.readers readers x))) := by
  have hpass : s.passGate (.readers readers x) (FileBacking.cut id n) =
      FileBacking.cut id n := by
    funext q
    rw [passGate, ReaderRegistry.exclusive, h, if_neg (Nat.lt_irrefl 0)]
  unfold cutFile fileBacking
  dsimp only
  rw [hpass, ite_self]

/-- **Another length of a file that is mapped.** -/
lemma resize_file {h : HandleId} {m : Mapping}
    (hs : ShowsFile directory readers i s C x false m.backing v) (hn : n.toNat ≤ maxFileLength)
    (hm : s.mapping? h = some m) (hro : m.readOnly = false) :
    ∃ s' k, Behind s s' ∧
      s.resize h n = (s'.setHandle h (.mapping { m with backing := k }), .ok (v.fit n.toNat)) ∧
      ShowsFile directory readers i s' C x false k (v.fit n.toNat) := by
  obtain ⟨hbehind, hback⟩ := showsFile_writeBack hs hro
  obtain ⟨hholds, id, hk, hl, -⟩ := hback.writable
  obtain ⟨d', hset, hholds', hl'⟩ :=
    hholds.setLength hs.nameable hl (Shelf.update_self C x _) hn
  rw [Shelf.update_update] at hholds'
  have hview : d'.view id n.toNat = v.fit n.toNat := by
    obtain ⟨w, hw, hdata⟩ := hholds'.data_eq hs.nameable hl'
    rw [Shelf.update_self] at hw
    obtain rfl := Option.some.inj hw
    rw [Disk.view, hdata, FileData.view_ofBytes, Bytes.fit_fit_of_le v (Nat.le_refl _)]
  refine ⟨{ s.writeBack m with disk := d' },
    .file (fileBacking (contentPath directory x) id n.toNat (some (.readers readers x))),
    ⟨hbehind.claims_eq, hbehind.handles_eq, hbehind.log_eq, hbehind.repositories_eq⟩, ?_,
    .ofWritable hs.nameable hholds' hl' (hback.readers_eq rfl) (by rw [Bytes.size_fit])⟩
  have hcut := cutFile_eq (contentPath directory x) id (hback.readers_eq rfl) v.size n.toNat
  rw [FileBacking.cut, hset] at hcut
  unfold resize
  simp only [hm, hro, Bool.false_eq_true, if_false, hk]
  unfold resizeFile
  have hopened : (fileBacking (contentPath directory x) id v.size
      (some (.readers readers x))).opened = some (.file id) := rfl
  rw [hopened]
  dsimp only
  rw [hcut]
  dsimp only
  rw [hview, hro]
  rfl

/-! ### Streams -/

/-- **A reader of a file.** -/
lemma readInFiles_some (h : Holds s.disk directory i C) (hx : Nameable directory (s.identifier c))
    (hv : C (s.identifier c) = some v) :
    ∃ source, s.readInFiles directory c = succeed (s.addReader c source) ∧ Delivers s source v := by
  obtain ⟨id, hl, hdata⟩ := h.present _ v hx hv
  have hbytes : s.disk.bytes id = v := by
    rw [Disk.bytes, hdata]
    rfl
  refine ⟨.file (.file id) (s.disk.length (.file id)), ?_, ?_, fun r hr => ?_⟩
  · unfold readInFiles
    dsimp only
    rw [h.resolve_some hx hl]
  · rw [sourceBytes, hbytes]
  · rw [readerLength, hr]
    dsimp only
    rw [Disk.length, hbytes]

/-- **A writer to a file.** -/
lemma writeInFiles_eq (writers readers : RegistryId) (h : Holds s.disk directory i C)
    (hq : Quiet s) (hx : Nameable directory (s.identifier c)) (append : Bool) :
    ∃ s' sink, Behind s s' ∧ s.writeInFiles directory writers readers c append =
        succeed (s'.addWriter c sink (.write writers (s.identifier c))) ∧
      WritesFile directory i s' C (s.identifier c) sink
        (if append then (C (s.identifier c)).getD .empty else .empty) := by
  obtain ⟨leased, hlease, hb, -⟩ := hq.takeWriteLease writers (s.identifier c)
  obtain ⟨id, d₁, hopen, hholds, hl⟩ := h.openCreating hx
  unfold writeInFiles
  simp only [hlease, hx.makeParent_eq h.walk_eq, hopen]
  cases append with
  | true =>
    exact ⟨{ leased with disk := d₁ }, .file id none,
      ⟨hb.claims_eq, hb.handles_eq, hb.log_eq, hb.repositories_eq⟩, rfl,
      hx, hholds, id, hl, .inl rfl⟩
  | false =>
    obtain ⟨d₂, hset, hholds', hl'⟩ := hholds.setLength hx hl (Shelf.update_self C _ _)
      (Nat.zero_le maxFileLength)
    rw [Shelf.update_update, Bytes.size_eq_zero_iff.1 (Bytes.size_fit 0 _)] at hholds'
    have hempty : (s.readerRegistry readers).exclusive (s.identifier c)
        (emptyFile id (contentPath directory (s.identifier c))) d₁ = (d₂, .ok ()) := by
      rw [ReaderRegistry.exclusive, hq.readers_eq, if_neg (Nat.lt_irrefl 0), emptyFile, hset]
    simp only [Bool.false_eq_true, if_false, hempty]
    exact ⟨{ leased with disk := d₂ }, .file id (some 0),
      ⟨hb.claims_eq, hb.handles_eq, hb.log_eq, hb.repositories_eq⟩, rfl,
      hx, hholds', id, hl', .inr rfl⟩

/-- **Bytes that are written to a file.** -/
lemma writeSink_file {sink : Sink} (p : Bytes) (hw : WritesFile directory i s C x sink v) :
    ∃ s' sink', Behind s s' ∧ s.writeSink sink p = .ok (s', sink') ∧
      WritesFile directory i s' C x sink' (v ++ p) := by
  obtain ⟨id, hl, hsink⟩ := hw.sink_eq
  obtain ⟨w, hv, hdata⟩ := hw.holds.data_eq hw.nameable hl
  rw [Shelf.update_self] at hv
  obtain rfl := Option.some.inj hv
  rcases hsink with rfl | rfl
  · have hchange := hw.holds.modify hw.nameable hl
      (f := fun f => f.overwrite f.bytes.size p) (v := v ++ p)
      (by rw [hdata]; exact FileData.overwrite_ofBytes v p)
    rw [Shelf.update_update] at hchange
    exact ⟨{ s with disk := s.disk.append id p }, .file id none, ⟨rfl, rfl, rfl, rfl⟩, rfl,
      hw.nameable, hchange, id, hl, .inl rfl⟩
  · refine ⟨{ s with disk := s.disk.writeAt id v.size p }, .file id (some (v.size + p.size)),
      ⟨rfl, rfl, rfl, rfl⟩, rfl, hw.nameable, ?_, id, ?_, .inr (by rw [Bytes.size_append])⟩
    · show Holds (s.disk.writeAt id v.size p) directory i _
      unfold Disk.writeAt
      split
      · next hp =>
        have hsame : v ++ p = v := by
          rw [Bytes.isEmpty_iff.1 hp]
          exact Bytes.ext (by simp)
        rw [hsame]
        exact hw.holds
      · have hchange := hw.holds.modify hw.nameable hl (f := (·.overwrite v.size p))
          (v := v ++ p) (by rw [hdata]; exact FileData.overwrite_ofBytes v p)
        rw [Shelf.update_update] at hchange
        exact hchange
    · show ((s.disk.writeAt id v.size p).entries i).lookup x = some (.file id)
      unfold Disk.writeAt
      split <;> exact hl

/-- The end of a writer to a file. -/
lemma commit_file {sink : Sink} (hw : WritesFile directory i s C x sink v) :
    Behind s (s.commit sink) ∧
      Holds (s.commit sink).disk directory i (Shelf.update C x (some v)) := by
  obtain ⟨id, hl, hsink⟩ := hw.sink_eq
  obtain ⟨w, hv, hdata⟩ := hw.holds.data_eq hw.nameable hl
  rw [Shelf.update_self] at hv
  obtain rfl := Option.some.inj hv
  have hchange := hw.holds.modify hw.nameable hl (f := fun f => .ofBytes f.bytes) (v := v)
    (by rw [hdata]; rfl)
  rw [Shelf.update_update] at hchange
  rcases hsink with rfl | rfl <;> exact ⟨⟨rfl, rfl, rfl, rfl⟩, hchange⟩

/-! ### Removal -/

/-- **Removal of a file.** -/
lemma removeInFiles_eq (h : Holds s.disk directory i C) (hx : Nameable directory x) :
    ∃ s', Behind s s' ∧ s.removeInFiles directory x = (s', .ok (C x).isSome) ∧
      Holds s'.disk directory i (Shelf.update C x none) := by
  unfold removeInFiles
  cases hv : C x with
  | none =>
    dsimp only
    rw [h.unlink_none hx hv, Shelf.update_eq_self hv]
    exact ⟨s, .refl s, rfl, h⟩
  | some v =>
    obtain ⟨id, hl, -⟩ := h.present x v hx hv
    obtain ⟨d', hunlink, hholds⟩ := h.unlink hx hl
    dsimp only
    rw [hunlink]
    exact ⟨{ s with disk := d' }, ⟨rfl, rfl, rfl, rfl⟩, rfl, hholds⟩

end Store

/-! ### The keeper -/

/-- **A file repository as a keeper.** It keeps bytes under the identifiers that the disk takes as
names of files, of the lengths that files can have, and moves as many bytes at once as a file
does. -/
def fileKeeper [DecidableEq κ] [ToString κ] (directory : Path) (writers readers : RegistryId)
    (i : DirectoryId) : Keeper κ (.files directory writers readers) where
  Admits := Nameable directory
  AdmitsMapping o n := (∀ w, o = some w → w.size ≤ n.toNat) ∧ n.toNat ≤ maxFileLength
  AdmitsLength n := n.toNat ≤ maxFileLength
  AdmitsTransfer n := n ≤ Limits.maxFileTransfer
  Limited := False
  Keeps s C := Holds s.disk directory i C
  Shows s C x readOnly k v := ShowsFile directory readers i s C x readOnly k v
  Writes s C x sink v := WritesFile directory i s C x sink v
  before _ _ := []
  keeps_besides hb hk := hb.disk_eq ▸ hk
  keeps_release {s C} r hk := by
    have hdisk : (s.release r).disk = s.disk := by
      rcases r with c | (⟨g, x⟩ | ⟨g, x⟩) | ⟨t, e⟩ | ⟨t, e⟩ | ⟨t, e⟩ | d <;> rfl
    rw [hdisk]
    exact hk
  lengthIn_eq hk hx := by
    rw [lengthIn]
    exact hk.storedLength_eq hx
  removeIn_eq {s C c} hk _ hx href := by
    rw [removeIn_of_unreferenced href, eraseIn]
    exact removeInFiles_eq hk hx
  mapIn_none {s C c} n hk hx hv := by
    unfold mapIn mapInFiles
    simp only [if_true, hk.storedLength_eq hx, hv, Option.map_none]
  mapIn_short hk _ hx hv hlt := by
    rw [mapIn]
    exact mapInFiles_short hk hx hv hlt
  mapIn_readOnly {s C c n v} hk _ hx hv hle := by
    rw [mapIn]
    obtain ⟨s', k, hb, heq, hshows⟩ :=
      mapInFiles_readOnly writers readers hk hx hv hle
    exact ⟨s', k, _, hb, heq, hshows⟩
  mapIn_writable {s C c n} hk hq hx hadmits := by
    rw [mapIn]
    obtain ⟨s', k, hb, heq, hshows⟩ :=
      mapInFiles_writable writers readers hk hq hx hadmits.1 hadmits.2
    exact .inr ⟨s', k, _, hb, heq, hshows⟩
  shows_besides hb hs := showsFile_congr hs hb
  view?_eq hs := showsFile_view? hs
  mappingSize_eq hs := by
    obtain ⟨id, gate, hk, -⟩ := hs.backing_eq
    exact mappingSize_fileBacking hk
  setView_eq hs hsize hm := setView_file hs hsize hm
  resize_eq hs hn hm hro := .inr (resize_file hs hn hm hro)
  settle {s C x v m} hs := by
    obtain ⟨hbehind, hback⟩ := showsFile_writeBack hs rfl
    exact ⟨showsFile_view? hback, s.writeBack m, hbehind, rfl, hback.holds⟩
  readIn_none {s C c} hk hx hv := by
    unfold readIn readInFiles
    simp only [hk.resolve_none hx hv]
  readIn_some {s C c v} hk _ hx hv := by
    rw [readIn]
    obtain ⟨source, heq, hdelivers⟩ := readInFiles_some hk hx hv
    exact ⟨s, source, .refl s, heq, hk, hdelivers, fun _ hn => source.atOnce_of_le hn⟩
  writeIn_eq {s C c} append hk hq hx := by
    rw [writeIn]
    obtain ⟨s', sink, hb, heq, hwrites⟩ :=
      writeInFiles_eq writers readers hk hq hx append
    exact .inr ⟨s', sink, _, hb, heq, hwrites⟩
  writes_besides hb hw := ⟨hw.nameable, hb.disk_eq ▸ hw.holds, hb.disk_eq ▸ hw.sink_eq⟩
  writeSink_eq p hw := .inr (writeSink_file p hw)
  atOnce_eq {_ _ _ sink _ _} _ hn := sink.atOnce_of_le hn
  commit_eq hw := commit_file hw

end ClaimStore
