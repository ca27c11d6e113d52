import ClaimStore.Proofs.DiskChanges
import ClaimStore.Proofs.FaultyRuns
import ClaimStore.Proofs.HandleEnds
import ClaimStore.Proofs.HandleOpens
import ClaimStore.Proofs.MappedFiles

/-!
# What handles change on the disk

An operation through a handle changes what one file holds, the one that the handle has open for
changes, and no name. This holds whatever fails on the way.

## Main definitions

* `Handle.openFile?` — the file that can be changed through a handle.
* `Store.Touches` — a step that changes the file of one handle at most, and opens none.

## Main results

* `Store.touches_writeAt`, `Store.touches_resizeUnder`, `Store.touches_unmapUnder` — mappings.
* `Store.touches_writeData`, `Store.touches_closeUnder`, `Store.touches_copy` — streams.
* `Store.touches_dropUnder` — the end of a handle.
-/

set_option autoImplicit false

namespace ClaimStore

/-! ### Open files -/

/-- The file that can be changed through a handle: that of a writable mapping, or of a writer that
was not closed. -/
def Handle.openFile? : Handle → Option FileId
  | .mapping m => if m.readOnly then none else m.opened?
  | .writer w =>
    match w.lease, w.sink with
    | some _, .file id _ => some id
    | _, _ => none
  | .reader _ | .reference _ | .lease _ | .borrow .. | .guard .. => none

namespace Store

variable {κ : Type} {s s' s'' : Store κ} {h : HandleId}

/-- A file can be changed through a handle. -/
def OpensFile (s : Store κ) (h : HandleId) (id : FileId) : Prop :=
  ∃ x, s.handle? h = some x ∧ x.openFile? = some id

/-- What some files hold is changed. -/
def Within (p : FileId → Prop) (_ : Disk) (c : Disk.Change) : Prop :=
  ∃ id f, c = .modify id f ∧ p id

/-- **A step that changes the file of one handle at most**, and opens none. -/
structure Touches (h : HandleId) (s s' : Store κ) : Prop where
  /-- The file of the handle may change, and no name. -/
  changes : Disk.Changes (Within (s.OpensFile h)) s.disk s'.disk
  /-- No file is opened. -/
  opens : ∀ i id, s'.OpensFile i id → s.OpensFile i id

namespace Touches

/-- A step that changes neither the disk nor the handles. -/
lemma of_eq (hd : s'.disk = s.disk) (hh : s'.handles = s.handles) : Touches h s s' where
  changes := hd ▸ .refl
  opens i id := fun ⟨x, hx, ho⟩ => ⟨x, by rw [← hx, handle?, handle?, hh], ho⟩

/-- Nothing at all touches no other file. -/
lemma refl (s : Store κ) : Touches h s s := of_eq rfl rfl

/-- Two steps through the same handle touch its file only. -/
lemma trans (t : Touches h s s') (t' : Touches h s' s'') : Touches h s s'' where
  changes := t.changes.trans <| t'.changes.mono fun _ _ ⟨id, f, hc, hp⟩ =>
    ⟨id, f, hc, t.opens h id hp⟩
  opens i id ho := t.opens i id (t'.opens i id ho)

/-- A change of what the file of the handle holds. -/
lemma modify {id : FileId} (ho : s.OpensFile h id) (f : FileData → FileData) :
    Touches h s { s with disk := s.disk.modify id f } where
  changes := .single (c := .modify id f) trivial ⟨id, f, rfl, ho⟩
  opens _ _ ho := ho

/-- A handle that is replaced by one without another file, or taken away. -/
lemma set {i : HandleId} {x : Handle} (hx : s.handle? i = some x) {o : Option Handle}
    (ho : ∀ y id, o = some y → y.openFile? = some id → x.openFile? = some id) :
    Touches h s { s with handles := s.handles.set i o } where
  changes := .refl
  opens j id := by
    rintro ⟨y, hy, hid⟩
    rcases handle?_set hy with ⟨rfl, hnew⟩ | hold
    · exact ⟨x, hx, ho y id hnew hid⟩
    · exact ⟨y, hold, hid⟩

/-- A handle that is replaced after a step. -/
lemma thenSet (t : Touches h s s') {i : HandleId} {x : Handle} (hx : s'.handle? i = some x)
    {y : Handle} (ho : ∀ id, y.openFile? = some id → x.openFile? = some id) :
    Touches h s (s'.setHandle i y) :=
  t.trans (set hx fun z id hz hid => ho id (by rwa [Option.some.inj hz]))

end Touches

/-! ### Mappings -/

section Mappings

variable {map : HandleId} {m : Mapping} {b : FileBacking} {id : FileId}

/-- A writable mapping has its file open for changes. -/
lemma opensFile_mapping (hm : s.mapping? map = some m) (hro : m.readOnly = false)
    (hb : m.backing = .file b) (ho : b.opened = some (.file id)) : s.OpensFile map id := by
  refine ⟨.mapping m, mapping?_eq_some.1 hm, ?_⟩
  rw [Handle.openFile?, hro, if_neg Bool.false_ne_true]
  exact Mapping.opened?_of_file hb ho

/-- A mapping that is written back touches its own file. -/
lemma touches_writeBack (hm : s.mapping? map = some m) : Touches map s (s.writeBack m) := by
  unfold writeBack
  split
  · next b hro hb =>
    unfold FileBacking.flush
    split
    · next id _ ho => exact .modify (opensFile_mapping hm hro hb ho) _
    · exact .refl s
  · exact .refl s

/-- So does one whose write fails. -/
lemma touches_writeBackUnder (f : Faults) (hm : s.mapping? map = some m) :
    Touches map s (s.writeBackUnder f m) := by
  unfold writeBackUnder
  split
  · exact .refl s
  · exact touches_writeBack hm

/-- A flush touches the file of its mapping. -/
lemma touches_flushUnder (f : Faults) (s : Store κ) (map : HandleId) :
    Touches map s (s.flushUnder f map) := by
  unfold flushUnder
  split
  · exact .refl s
  · next m hm => exact touches_writeBackUnder f hm

/-- Other bytes in a writable mapping. -/
lemma touches_setView (hm : s.mapping? map = some m) (hro : m.readOnly = false) (v : Bytes) :
    Touches map s (s.setView map m v) := by
  unfold setView
  split
  · next b hb =>
    split
    · next id _ ho => exact .modify (opensFile_mapping hm hro hb ho) _
    · exact .refl s
  · split
    · exact .of_eq rfl rfl
    · exact .refl s
  · refine .set (mapping?_eq_some.1 hm) fun y id hy hid => ?_
    obtain rfl := Option.some.inj hy
    simp [Handle.openFile?, Mapping.opened?, Mapping.file?] at hid

/-- A write through a mapping touches the file of the mapping. -/
lemma touches_writeAt (s : Store κ) (map : HandleId) (offset : Nat) (b : Bytes) :
    Touches map s (s.writeAt map offset b).1 := by
  unfold writeAt
  split
  · exact .refl s
  · next m hm =>
    split
    · exact .refl s
    · next hro =>
      split
      · exact .refl s
      · split
        · exact touches_setView hm (Bool.eq_false_iff.2 hro) _
        · exact .refl s

/-- A fill touches the file of its mapping. -/
lemma touches_fillView (s : Store κ) (map : HandleId) (byte : UInt8) :
    Touches map s (s.fillView map byte).1 := by
  unfold fillView
  split
  · exact .refl s
  · next m hm =>
    split
    · exact .refl s
    · next v hv => exact touches_setView hm (mutableView?_eq_some.1 hv).1 _

/-- The disk after the first half of a change of length. -/
lemma touches_cut {n : Nat} {p : Disk × FileBacking} {e : Except Failure Unit}
    (h : FileBacking.cut id n (s.disk, b) = (p, e)) (ho : s.OpensFile map id) :
    Touches map s { s with disk := p.1 } ∧ p.2.opened = b.opened := by
  unfold FileBacking.cut Disk.setLength at h
  split at h
  · next d hd =>
    obtain ⟨rfl, -⟩ := Prod.mk.inj h
    split at hd
    · cases hd
    · split at hd
      · cases hd
      · obtain rfl := Except.ok.inj hd
        exact ⟨.modify ho _, rfl⟩
  · obtain ⟨rfl, -⟩ := Prod.mk.inj h
    exact ⟨.refl s, rfl⟩

/-- A file that is cut or extended is that of the mapping, which keeps it open. -/
lemma touches_cutFile {n : Nat} {p : Disk × FileBacking} {e : Except Failure Unit}
    (h : s.cutFile id b n = (p, e)) (ho : s.OpensFile map id) :
    Touches map s { s with disk := p.1 } ∧ p.2.opened = b.opened := by
  have same : ∀ {e' : Except Failure Unit}, ((s.disk, b), e') = (p, e) →
      Touches map s { s with disk := p.1 } ∧ p.2.opened = b.opened := by
    intro e' heq
    obtain ⟨rfl, -⟩ := Prod.mk.inj heq
    exact ⟨.refl s, rfl⟩
  unfold cutFile passGate ReaderRegistry.exclusive at h
  split at h
  · split at h
    · split at h
      · exact same h
      · split at h
        · exact same h
        · exact touches_cut h ho
    · exact touches_cut h ho
  · exact touches_cut h ho

/-- A change of length of a mapped file touches that file. -/
lemma touches_resizeFile (hm : s.mapping? map = some m) (hro : m.readOnly = false)
    (hb : m.backing = .file b) (n : UInt64) : Touches map s (s.resizeFile map m b n).1 := by
  unfold resizeFile
  split
  · next id ho =>
    have hback := touches_writeBack hm
    have hopen : (s.writeBack m).OpensFile map id := by
      obtain ⟨x, hx, hid⟩ := opensFile_mapping hm hro hb ho
      refine ⟨x, ?_, hid⟩
      rw [← hx, handle?, handle?, (took_writeBack s m).handles_eq]
    have hx : (s.writeBack m).handle? map = some (.mapping m) := by
      rw [handle?, (took_writeBack s m).handles_eq]
      exact mapping?_eq_some.1 hm
    have keeps : ∀ {k : FileBacking}, k.opened = b.opened → ∀ id',
        (Handle.mapping { m with backing := .file k }).openFile? = some id' →
          (Handle.mapping m).openFile? = some id' := by
      intro k hk id' hid
      rw [← hid, Handle.openFile?, Handle.openFile?, Mapping.opened?, Mapping.opened?,
        Mapping.file?, Mapping.file?, hb]
      simp only [Option.bind_some, FileBacking.openFile?, hk]
    dsimp only
    split
    · next d b' e hcut =>
      obtain ⟨ht, ho'⟩ := touches_cutFile hcut hopen
      exact (hback.trans ht).thenSet hx (keeps ho')
    · next d b' hcut =>
      obtain ⟨ht, ho'⟩ := touches_cutFile hcut hopen
      exact (hback.trans ht).thenSet hx (keeps (k := b'.remap n.toNat) ho')
  · exact .refl s
  · exact .refl s

/-- A change of length touches the file of its mapping. -/
lemma touches_resize (s : Store κ) (map : HandleId) (n : UInt64) :
    Touches map s (s.resize map n).1 := by
  unfold resize
  split
  · exact .refl s
  · next m hm =>
    have hx := mapping?_eq_some.1 hm
    have nofile : ∀ {k : Backing}, (∀ b, k ≠ .file b) → ∀ id,
        (Handle.mapping { m with backing := k }).openFile? = some id →
          (Handle.mapping m).openFile? = some id := by
      intro k hk id hid
      cases k with
      | file b => exact absurd rfl (hk b)
      | _ => simp [Handle.openFile?, Mapping.opened?, Mapping.file?] at hid
    split
    · exact .refl s
    · next hro =>
      split
      · next b hb => exact touches_resizeFile hm (Bool.eq_false_iff.2 hro) hb n
      · unfold resizeEntry
        split
        · split
          · exact .refl s
          · have htable : ∀ t table, Touches map s (s.setTable t table) := fun _ _ => .of_eq rfl rfl
            exact (htable _ _).thenSet hx (nofile (by simp))
        · exact .refl s
      · unfold resizeBuffer
        split
        · exact .refl s
        · split
          · exact .refl s
          · exact (Touches.refl s).thenSet hx (nofile (by simp))

/-- So does one that fails. -/
lemma touches_resizeUnder (f : Faults) (s : Store κ) (map : HandleId) (n : UInt64) :
    Touches map s (s.resizeUnder f map n).1 := by
  rcases resizeUnder_cases f s map n with h | ⟨e, h⟩
  · rw [h]
    exact touches_resize s map n
  · rw [h]
    exact .refl s

/-! ### Hooks -/

/-- What is given back touches no file. -/
lemma touches_release (s : Store κ) (r : Resource) : Touches h s (s.release r) := by
  rcases r with c | (⟨g, x⟩ | ⟨g, x⟩) | ⟨t, e⟩ | ⟨t, e⟩ | ⟨t, e⟩ | d <;> exact .of_eq rfl rfl

/-- Nor does any number of resources that are given back. -/
lemma touches_releaseAll (s : Store κ) (rs : List Resource) : Touches h s (s.releaseAll rs) := by
  induction rs generalizing s with
  | nil => exact .refl s
  | cons r rs ih => exact (touches_release s r).trans (ih _)

variable [DecidableEq κ] (f : Faults)

/-- A hook touches no file. -/
lemma touches_runHook (s : Store κ) (view : Bytes) (k : Hook) :
    Touches h s (s.runHook view k).1 := by
  cases k with
  | store d key => exact .of_eq rfl rfl
  | hold c l => exact touches_releaseAll s _
  | record name failure probe => exact .of_eq rfl rfl

/-- Nor do any hooks. -/
lemma touches_runHooksUnder (s : Store κ) (view : Bytes) (ks : List Hook) :
    Touches h s (s.runHooksUnder f view ks).1 := by
  induction ks generalizing s with
  | nil => exact .refl s
  | cons k ks ih =>
    have hhook : Touches h s (s.runHookUnder f view k).1 := by
      unfold runHookUnder
      split
      · exact .refl s
      all_goals exact touches_runHook s view _
    exact hhook.trans (ih _)

/-- A hook that is registered touches no file. -/
lemma touches_registerHook (s : Store κ) (map : HandleId) (name : String)
    (failure : Option String) (probe : Option ClaimId) :
    Touches h s (s.registerHook map (.record name failure probe)) := by
  unfold registerHook
  split
  · exact .refl s
  · next m hm =>
    have hx := mapping?_eq_some.1 hm
    unfold register
    split
    · exact (touches_runHook s .empty (.record name failure probe)).thenSet (x := .mapping m) hx
        fun _ hid => hid
    · exact (Touches.refl s).thenSet hx fun _ hid => hid

end Mappings

/-! ### Ends -/

section Ends

variable (f : Faults)

/-- What is left of a handle that ends has no other file open. -/
lemma opens_of_ended {x : Handle} (hx : s.handle? h = some x) {x' : Option Handle}
    (hend : Ended h x' s s')
    (hleft : ∀ y id, x' = some y → y.openFile? = some id → x.openFile? = some id)
    (alike : Alike s' s'') {i : HandleId} {id : FileId} (ho : s''.OpensFile i id) :
    s.OpensFile i id := by
  obtain ⟨y, hy, hid⟩ := ho
  rw [alike.handle?, hend.handle? hx] at hy
  split at hy
  · next hi => exact hi ▸ ⟨x, hx, hleft y id hy hid⟩
  · exact ⟨y, hy, hid⟩

/-- A mapping that was unmapped has no file open. -/
lemma openFile?_ended (m : Mapping) : (Handle.mapping m.ended).openFile? = none := by
  obtain ⟨backing, readOnly, hooks⟩ := m
  cases readOnly with
  | true => rfl
  | false => cases backing <;> rfl

/-- An unmap touches the file of its mapping. -/
lemma touches_unmapUnder [DecidableEq κ] (s : Store κ) (map : HandleId) :
    Touches map s (s.unmapUnder f map).1 := by
  cases hm : s.mapping? map with
  | none =>
    have hnone : s.unmapUnder f map = (s, .ok ()) := by rw [unmapUnder, hm]
    rw [hnone]
    exact .refl s
  | some m =>
    refine ⟨?_, fun i id => opens_of_ended (mapping?_eq_some.1 hm) (ended_unmap hm)
      (fun y id hy hid => ?_) (alike_unmapUnder f s map)⟩
    · have ht := ((touches_writeBackUnder f hm).trans (touches_runHooksUnder f _
        (((s.writeBackUnder f m).view? m).getD .empty) m.hooks.pending)).trans
        (touches_releaseAll _ m.backing.viewResources)
      rw [unmapUnder, hm]
      exact ht.changes
    · rw [← Option.some.inj hy, openFile?_ended] at hid
      cases hid

/-- A writer that is closed touches its own file. -/
lemma touches_commitUnder {w : Writer} (hw : s.writer? h = some w) (hopen : w.isOpen = true) :
    Touches h s (s.commitUnder f w.sink) := by
  have hcommit : Touches h s (s.commit w.sink) := by
    obtain ⟨l, hl⟩ := Option.isSome_iff_exists.1 hopen
    unfold commit
    split
    · exact .of_eq rfl rfl
    · next id offset hsink =>
      refine .modify ⟨.writer w, writer?_eq_some.1 hw, ?_⟩ _
      rw [Handle.openFile?, hl, hsink]
    · exact .refl s
  unfold commitUnder
  split
  · exact .refl s
  · exact .refl s
  all_goals exact hcommit

/-- A writer that was closed has no file open. -/
lemma openFile?_closed (w : Writer) : (Handle.writer w.ended).openFile? = none := rfl

/-- A close touches the file of its writer. -/
lemma touches_closeUnder (s : Store κ) (writer : HandleId) :
    Touches writer s (s.closeUnder f writer) := by
  cases hw : s.writer? writer with
  | none =>
    have hnone : s.closeUnder f writer = s := by rw [closeUnder, hw]
    rw [hnone]
    exact .refl s
  | some w =>
    cases hopen : w.isOpen with
    | false =>
      have hclosed : s.closeUnder f writer = s := by
        rw [closeUnder, hw]
        exact if_neg (by simp [hopen])
      rw [hclosed]
      exact .refl s
    | true =>
      refine ⟨?_, fun i id => opens_of_ended (writer?_eq_some.1 hw) (ended_close hw hopen)
        (fun y id hy hid => ?_) (alike_closeUnder f s writer)⟩
      · have ht := (touches_commitUnder f hw hopen).trans (touches_releaseAll _ w.openResources)
        rw [closeUnder, hw]
        simp only [hopen, if_true]
        exact ht.changes
      · rw [← Option.some.inj hy, openFile?_closed] at hid
        cases hid

/-- A handle that is forgotten touches no file. -/
lemma touches_discard (s : Store κ) (i : HandleId) : Touches h s (s.discard i) := by
  unfold discard
  split
  · exact .refl s
  · next x hx =>
    have hx' : (s.releaseAll x.resources).handle? i = some x := by
      rw [handle?, handles_releaseAll]
      exact hx
    exact (touches_releaseAll s x.resources).trans (.set hx' fun y id hy => by cases hy)

/-- A drop touches the file of its handle. -/
lemma touches_dropUnder [DecidableEq κ] (s : Store κ) (h : HandleId) :
    Touches h s (s.dropUnder f h) := by
  unfold dropUnder
  split
  · exact (touches_unmapUnder f s h).trans (touches_discard _ h)
  · exact (touches_closeUnder f s h).trans (touches_discard _ h)
  · exact touches_discard s h

end Ends

/-! ### Streams -/

section Streams

variable {reader writer : HandleId}

/-- A reader has no file open for changes. -/
lemma touches_setReader {r r' : Reader} (hr : s.reader? reader = some r) :
    Touches h s (s.setHandle reader (.reader r')) :=
  (Touches.refl s).thenSet (reader?_eq_some.1 hr) fun _ hid => nomatch hid

/-- A read touches no file. -/
lemma touches_deliver (s : Store κ) (reader : HandleId) (n : Nat) :
    Touches h s (s.deliver reader n).1 := by
  unfold deliver
  split
  · exact .refl s
  · next r hr =>
    split
    · exact .refl s
    · exact touches_setReader hr

/-- A read to the end touches no file. -/
lemma touches_readToEnd (s : Store κ) (reader : HandleId) :
    Touches h s (s.readToEnd reader).1 := by
  unfold readToEnd
  split
  · exact .refl s
  · split
    · exact .refl s
    · exact touches_deliver s reader _

/-- A read into a buffer touches no file. -/
lemma touches_readData (s : Store κ) (reader : HandleId) (buffer : Bytes) (maxLen : Nat) :
    Touches h s (s.readData reader buffer maxLen).1 :=
  readData_induction (P := Touches h s) (fun s' n t => t.trans (touches_deliver s' reader n))
    (.refl s) buffer maxLen

/-- A reader that is moved touches no file. -/
lemma touches_seek (s : Store κ) (reader : HandleId) (offset : Nat) :
    Touches h s (s.seek reader offset).1 := by
  unfold seek
  split
  · exact .refl s
  · next r hr =>
    split
    · exact .refl s
    · exact touches_setReader hr

/-- A sink that takes bytes changes its file, and stays with it. -/
lemma touches_writeSink {w : Writer} (hw : s.writer? writer = some w) (hopen : w.isOpen = true)
    {b : Bytes} {sink : Sink} (hs : s.writeSink w.sink b = .ok (s', sink)) :
    Touches writer s s' ∧ s'.handles = s.handles ∧
      ∀ n id, (Handle.writer { w with sink, written := n }).openFile? = some id →
        (Handle.writer w).openFile? = some id := by
  obtain ⟨c, k, n, lease⟩ := w
  obtain ⟨l, rfl⟩ := Option.isSome_iff_exists.1 hopen
  have hx := writer?_eq_some.1 hw
  unfold writeSink at hs
  split at hs
  · next id _ hk =>
    obtain ⟨rfl, rfl⟩ := Prod.mk.inj (Except.ok.inj hs)
    obtain rfl : k = _ := hk
    exact ⟨.modify ⟨_, hx, rfl⟩ _, rfl, fun _ _ hid => hid⟩
  · next id offset hk =>
    obtain ⟨rfl, rfl⟩ := Prod.mk.inj (Except.ok.inj hs)
    obtain rfl : k = _ := hk
    refine ⟨?_, rfl, fun _ _ hid => hid⟩
    unfold Disk.writeAt
    split
    · exact .refl s
    · exact .modify ⟨_, hx, rfl⟩ _
  · split at hs
    · obtain ⟨rfl, rfl⟩ := Prod.mk.inj (Except.ok.inj hs)
      exact ⟨.of_eq rfl rfl, rfl, fun _ _ hid => hid⟩
    · cases hs
    · cases hs
  · obtain ⟨rfl, rfl⟩ := Prod.mk.inj (Except.ok.inj hs)
    exact ⟨.refl s, rfl, fun _ _ hid => nomatch hid⟩

/-- Bytes that a writer takes touch the file of the writer. -/
lemma touches_accept (s : Store κ) (writer : HandleId) (b : Bytes) :
    Touches writer s (s.accept writer b).1 := by
  unfold accept
  split
  · exact .refl s
  · next w hw =>
    split
    · next hopen =>
      split
      · exact .refl s
      · next s' sink hs =>
        obtain ⟨ht, hh, hfile⟩ := touches_writeSink hw hopen hs
        refine ht.thenSet (x := .writer w) ?_ (hfile _)
        rw [handle?, hh]
        exact writer?_eq_some.1 hw
    · exact .refl s

/-- So do bytes that it takes in full. -/
lemma touches_writeAll (s : Store κ) (writer : HandleId) (b : Bytes) :
    Touches writer s (s.writeAll writer b).1 := by
  unfold writeAll
  split
  · exact .refl s
  · exact touches_accept s writer b

/-- So does a payload. -/
lemma touches_writeData (s : Store κ) (writer : HandleId) (b : Bytes) :
    Touches writer s (s.writeData writer b).1 := by
  have ht := touches_writeAll s writer b
  unfold writeData
  split <;> next heq => rw [heq] at ht; exact ht

/-- A copy touches the file of its writer, and none that it reads. -/
lemma touches_copy {r : Except IoError Nat} (hc : s.copy reader writer = some (s', r)) :
    Touches writer s s' :=
  copy_induction (P := Touches writer s) (fun s' n t => t.trans (touches_deliver s' reader n))
    (fun s' b _ t => t.trans (touches_writeAll s' writer b)) (.refl s) hc

end Streams

end Store

end ClaimStore
