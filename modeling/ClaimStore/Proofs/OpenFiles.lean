import ClaimStore.Proofs.DiskRuns
import ClaimStore.Proofs.ReaderTurns

/-!
# Open files in sessions

A file that can be changed through a handle is one of the disk, also when it has lost its name: no
action of a session takes a file away, and every file that is opened is there.

## Main definitions

* `Store.FilesThere` — the disk is sound, and has all files that are open.

## Main results

* `Store.touches_resizeWith` — a change of length, whatever fails in it, changes one file at most.
* `Store.opensAt_mapFile` — a mapping of a file that belongs to no repository.
* `Store.FilesThere.act`, `Store.filesThere_session` — sessions.
-/

set_option autoImplicit false

namespace ClaimStore.Store

variable {κ : Type} {s s' : Store κ} {map : HandleId} {m : Mapping} {id : FileId}

/-! ### Changes of length -/

/-- A file mapping that is replaced by one with the same file. -/
lemma touches_setFile (hm : s.mapping? map = some m) {b k : FileBacking}
    (hb : m.backing = .file b) (ho : k.opened = b.opened) {d : Disk}
    (t : Touches map s { s with disk := d }) :
    Touches map s (({ s with disk := d } : Store κ).setHandle map
      (.mapping { m with backing := .file k })) := by
  refine t.thenSet (x := .mapping m) (mapping?_eq_some.1 hm) fun id hid => ?_
  rw [← hid, Handle.openFile?, Handle.openFile?, Mapping.opened?, Mapping.opened?,
    Mapping.file?, Mapping.file?, hb]
  simp only [Option.bind_some, FileBacking.openFile?, ho]

/-- **A change of length**, whatever fails in it, changes the file of its mapping at most. -/
lemma touches_resizeWith (f : MappingFaults) (s : Store κ) (map : HandleId) (n : UInt64) :
    Touches map s (s.resizeWith f map n).1 := by
  rcases resizeWith_cases f s map n with heq | ⟨m, b, hm, hro, hb, heq⟩
  · rw [heq]
    exact touches_resize s map n
  have hback := touches_writeBack hm
  rw [writeBack_eq] at hback
  -- what was written back, and then cut or extended
  have hcut : ∀ {id : FileId} {d : Disk}, b.opened = some (.file id) →
      (s.writeBack m).disk.setLength id n.toNat = .ok d → Touches map s { s with disk := d } := by
    intro id d ho hset
    rw [Disk.setLength_eq _ id (Disk.setLength_ok hset).1] at hset
    obtain rfl := Except.ok.inj hset
    exact hback.trans (.modify (s := { s with disk := (s.writeBack m).disk })
      (opensFile_mapping (s := s) hm hro hb ho) _)
  have hpart := resizes_resizeFileWith f s map m b n
  rw [heq]
  revert hpart
  generalize s.resizeFileWith f map m b n = r
  intro hpart
  cases hpart with
  | refused => exact .refl s
  | blocked =>
    rw [writeBack_eq]
    exact touches_setFile hm hb rfl hback
  | uncut =>
    rw [writeBack_eq]
    exact touches_setFile (k := { b with region := .unmapped }) hm hb rfl hback
  | unmapped e ho hset =>
    rw [writeBack_eq]
    exact touches_setFile (k := { b with region := .unmapped }) hm hb rfl (hcut ho hset)
  | done ho hset =>
    rw [afterCut, writeBack_eq]
    exact touches_setFile (k := FileBacking.remap { b with region := .unmapped } n.toNat) hm hb
      rfl (hcut ho hset)

/-! ### Mappings that belong to no repository -/

/-- **A writable mapping of a file** opens the file at the end of the path. -/
lemma opensAt_mapFile (hd : s.disk.Sound) (p : Path) (n : UInt64) (gate : Option Gate) :
    OpensAt p s (s.mapFile p n false gate).1 := by
  unfold mapFile
  simp only [Bool.false_eq_true, if_false]
  split
  · next d e hopen => exact opensAt_disk (FileBacking.changes_openWritable hd hopen).1
  · next d b hopen => exact opensAt_openWritable hd hopen rfl rfl

/-- A read-only one opens none for changes. -/
lemma touches_mapFile (s : Store κ) (p : Path) (n : UInt64) (gate : Option Gate) :
    Touches s.handles.length s (s.mapFile p n true gate).1 := by
  unfold mapFile
  simp only [if_true]
  split
  · exact .refl s
  · exact touches_added rfl rfl rfl

/-! ### Sessions -/

/-- **The disk is sound, and has all files that are open** for changes. -/
structure FilesThere (s : Store κ) : Prop where
  /-- The disk is sound. -/
  disk_sound : s.disk.Sound
  /-- A file that is open is there. -/
  lt : ∀ i id, s.OpensFile i id → id < s.disk.contents.size

namespace FilesThere

/-- In an empty store all open files are there, as there are none. -/
lemma onDirectory (name : String) : FilesThere (Store.onDirectory name : Store κ) where
  disk_sound := Disk.sound_withDirectory name
  lt i id ho := by
    obtain ⟨x, hx, -⟩ := ho
    simp [Store.onDirectory, handle?] at hx

/-- A step that opens no file. -/
lemma touches (h : FilesThere s) {i : HandleId} (t : Touches i s s') : FilesThere s' where
  disk_sound := t.changes.extends.sound h.disk_sound
  lt i id ho := Nat.lt_of_lt_of_le (h.lt i id (t.opens i id ho)) t.changes.extends.contents_le

/-- A step after which a handle has a file open that it had before, or one that a path leads to. -/
lemma of_opens (h : FilesThere s) (hext : s.disk.Extends s'.disk)
    (hopens : ∀ i id, s'.OpensFile i id → s.OpensFile i id ∨ ∃ p, s'.disk.Ends p id) :
    FilesThere s' where
  disk_sound := hext.sound h.disk_sound
  lt i id ho := by
    rcases hopens i id ho with hold | ⟨p, j, name, -, hname⟩
    · exact Nat.lt_of_lt_of_le (h.lt i id hold) hext.contents_le
    · exact (hext.sound h.disk_sound).file_lt j name id hname

/-- **Every action leaves the open files on the disk.** -/
lemma act [DecidableEq κ] [ToString κ] (h : FilesThere s) (hs : s.Sound) (a : Action κ) :
    FilesThere (s.act a) := by
  cases a with
  | operate f op =>
    have hstep := diskStep_stepUnder hs h.disk_sound f op
    exact h.of_opens hstep.changes.extends fun i id ho =>
      (hstep.opens i id ho).imp_right fun ⟨_, p, _, he⟩ => ⟨p, he⟩
  | mapFile p n readOnly gate =>
    cases readOnly with
    | true => exact h.touches (touches_mapFile s p n gate)
    | false =>
      have hopen := opensAt_mapFile h.disk_sound p n gate
      exact h.of_opens hopen.changes.extends fun i id ho =>
        (hopen.opens i id ho).imp_right fun ⟨_, he⟩ => ⟨p, he⟩
  | mapBuffer b readOnly capacity =>
    exact h.touches (i := 0) (touches_added rfl rfl (openFile?_buffer _ _ _))
  | resize f map n => exact h.touches (touches_resizeWith f s map n)

end FilesThere

/-- **So does every session.** -/
lemma filesThere_session [DecidableEq κ] [ToString κ] (name : String) (as : List (Action κ)) :
    FilesThere ((onDirectory name : Store κ).session as) :=
  (session_induction (P := fun s => Ordered s ∧ FilesThere s)
    (fun _ a _ ⟨ho, hh⟩ => ⟨ho.act a, hh.act ho.sound a⟩)
    ⟨ordered_onDirectory name, .onDirectory name⟩).2

end ClaimStore.Store
