import ClaimStore.Proofs.MappedFiles

/-!
# Operations that leave mapped files alone

Apart from opens and changes of length, no operation makes a file shorter, gives a file a new name
or changes what a mapping shows of which file: it goes on, or it shows nothing any more.

## Main results

* `Store.keeps_unmap`, `Store.keeps_close`, `Store.keeps_drop` — the ends of handles.
* `Store.Tidy.keeps_writeAt`, `Store.keeps_accept` — bytes.
-/

set_option autoImplicit false

namespace ClaimStore

namespace Store

variable {κ : Type} {D : Path} {w g : RegistryId} {s s' : Store κ} {m : Mapping} {id : FileId}
  {x : String}

/-! ### Changes outside mappings -/

/-- A file that did not become shorter, whether it is there or not. -/
lemma size_le_of_grows {d d' : Disk} (h : d.Grows d') (id : FileId) :
    (d.bytes id).size ≤ (d'.bytes id).size := by
  rcases Nat.lt_or_ge id d.contents.size with hid | hid
  · exact h id hid
  · have hnone : d.bytes id = .empty := by
      rw [Disk.bytes, Disk.data, Array.getElem?_eq_none hid]
      rfl
    rw [hnone]
    exact Nat.zero_le _

/-- A change of the disk that makes no file shorter. -/
lemma keeps_disk (s : Store κ) {d : Disk} (hd : s.disk.Extends d) (hg : s.disk.Grows d) :
    Keeps s { s with disk := d } :=
  ⟨hd, fun _ _ h => h, fun h => h, fun _ m h => ⟨m, h, .refl m⟩,
    fun _ _ id _ _ => size_le_of_grows hg id⟩

/-- The same handles are the same mappings. -/
lemma mapping?_congr (h : s'.handles = s.handles) : s'.mapping? = s.mapping? := by
  funext i
  rw [mapping?, mapping?, handle?, handle?, h]

/-- A change outside the disk, the claims, the repositories and the handles. -/
lemma Keeps.of_eq (hd : s'.disk = s.disk) (hr : s'.repositories = s.repositories)
    (hc : s'.claims = s.claims) (hh : s'.handles = s.handles) : Keeps s s' := by
  have hmap := mapping?_congr hh
  have hbackend : s'.backend? = s.backend? := by
    funext r
    rw [backend?, backend?, hr]
  refine ⟨hd ▸ .refl _, fun r b h => hbackend ▸ h, fun h => hc ▸ h, fun i m h => ?_, ?_⟩
  · exact ⟨m, hmap ▸ h, .refl m⟩
  · intro _ _ id _ _
    rw [hd]

/-- Claims keep their identifiers when their references change. -/
lemma plain_modify {l : List Claim} {c : ClaimId} {f : Claim → Claim}
    (hf : ∀ y, (f y).identifier = y.identifier) (h : ∀ y ∈ l, Plain y.identifier) :
    ∀ y ∈ l.modify c f, Plain y.identifier := by
  intro y hy
  obtain ⟨i, hi⟩ := List.getElem?_of_mem hy
  rw [List.getElem?_modify] at hi
  obtain ⟨z, hz, rfl⟩ := Option.map_eq_some_iff.1 hi
  split
  · exact hf z ▸ h z (List.mem_of_getElem? hz)
  · exact h z (List.mem_of_getElem? hz)

/-- References that change leave mappings alone. -/
lemma keeps_claims (s : Store κ) (c : ClaimId) {f : Claim → Claim}
    (hf : ∀ y, (f y).identifier = y.identifier) :
    Keeps s { s with claims := s.claims.modify c f } :=
  ⟨.refl _, fun _ _ h => h, plain_modify hf, fun _ m h => ⟨m, h, .refl m⟩,
    fun _ _ _ _ _ => Nat.le_refl _⟩

/-- A reference that is taken leaves the mappings alone. -/
lemma keeps_takeReference (s : Store κ) (c : ClaimId) : Keeps s (s.takeReference c) :=
  keeps_claims s c fun _ => rfl

/-- What is given back leaves the mappings alone. -/
lemma keeps_release (s : Store κ) (r : Resource) : Keeps s (s.release r) := by
  rcases r with c | (⟨g, x⟩ | ⟨g, x⟩) | ⟨t, e⟩ | ⟨t, e⟩ | ⟨t, e⟩ | d
  · exact keeps_claims s c fun _ => rfl
  all_goals exact .of_eq rfl rfl rfl rfl

/-- So does any number of resources that are given back. -/
lemma keeps_releaseAll (s : Store κ) (rs : List Resource) : Keeps s (s.releaseAll rs) := by
  induction rs generalizing s with
  | nil => exact .refl s
  | cons r rs ih => exact (keeps_release s r).trans (ih (s.release r))

/-! ### Changes of handles -/

/-- A handle may be replaced by one that goes on from it, or taken away. -/
lemma keeps_set {h : HandleId} {a : Handle} (ha : s.handle? h = some a) {a' : Option Handle}
    (hf : ∀ m', a' = some (.mapping m') → ∃ m, a = .mapping m ∧ m.Follows m') :
    Keeps s { s with handles := s.handles.set h a' } := by
  refine ⟨.refl _, fun _ _ h => h, fun h => h, fun i m' hm' => ?_, fun _ _ _ _ _ => Nat.le_refl _⟩
  rw [mapping?_eq_some] at hm'
  rcases handle?_set hm' with ⟨rfl, hnew⟩ | hold
  · obtain ⟨m, rfl, hfollows⟩ := hf m' hnew
    exact ⟨m, mapping?_eq_some.2 ha, hfollows⟩
  · exact ⟨m', mapping?_eq_some.2 hold, .refl m'⟩

/-- A mapping is replaced by one that goes on from it. -/
lemma keeps_setMapping {h : HandleId} {m m' : Mapping} (hm : s.mapping? h = some m)
    (hf : m.Follows m') : Keeps s (s.setHandle h (.mapping m')) := by
  refine keeps_set (mapping?_eq_some.1 hm) fun n hn => ?_
  obtain rfl := Handle.mapping.inj (Option.some.inj hn)
  exact ⟨m, rfl, hf⟩

/-- A reader is replaced by another one. -/
lemma keeps_setReader {h : HandleId} {r r' : Reader} (hr : s.reader? h = some r) :
    Keeps s (s.setHandle h (.reader r')) :=
  keeps_set (reader?_eq_some.1 hr) fun _ hn => nomatch hn

/-- A writer is replaced by another one. -/
lemma keeps_setWriter {h : HandleId} {a a' : Writer} (ha : s.writer? h = some a) :
    Keeps s (s.setHandle h (.writer a')) :=
  keeps_set (writer?_eq_some.1 ha) fun _ hn => nomatch hn

/-- A handle that is forgotten leaves the other mappings alone. -/
lemma keeps_discard (s : Store κ) (h : HandleId) : Keeps s (s.discard h) := by
  unfold discard
  split
  · exact .refl s
  · next a ha =>
    have hstay := keeps_releaseAll s a.resources
    have ha' : (s.releaseAll a.resources).handle? h = some a := by
      rw [handle?, handles_releaseAll]
      exact ha
    exact hstay.trans (keeps_set ha' fun _ hn => by cases hn)

/-! ### Mappings -/

/-- A mapping that is written back cuts no file. -/
lemma keeps_writeBack (s : Store κ) (m : Mapping) : Keeps s (s.writeBack m) := by
  unfold writeBack
  split
  · next b _ _ =>
    refine keeps_disk s ?_ ?_ <;> unfold FileBacking.flush <;> split
    · exact Disk.extends_modify _ _ _
    · exact .refl _
    · exact Disk.grows_flush _ _ _
    · exact .refl _
  · exact .refl s

/-- A flush cuts no file. -/
lemma keeps_flush (s : Store κ) (map : HandleId) : Keeps s (s.flush map) := by
  unfold flush
  split
  · exact .refl s
  · exact keeps_writeBack s _

/-- Other bytes in a mapping of a file. -/
lemma keeps_setView {map : HandleId} (hf : ∃ b, m.backing = .file b) (v : Bytes) :
    Keeps s (s.setView map m v) := by
  obtain ⟨b, hb⟩ := hf
  unfold setView
  rw [hb]
  dsimp only
  split
  · exact keeps_disk s (Disk.extends_modify _ _ _) (Disk.grows_writeView _ _ _)
  · exact .refl s

/-- A write through a mapping leaves the length of its file. -/
lemma Tidy.keeps_writeAt (ht : Tidy D w g s) (map : HandleId) (offset : Nat) (b : Bytes) :
    Keeps s (s.writeAt map offset b).1 := by
  unfold writeAt
  split
  · exact .refl s
  · next m hm =>
    have hfile := (ht.formed map m hm).of_file
    split
    · exact .refl s
    · split
      · exact .refl s
      · split
        · exact keeps_setView hfile _
        · exact .refl s

/-- A fill leaves the length of its file. -/
lemma Tidy.keeps_fillView (ht : Tidy D w g s) (map : HandleId) (byte : UInt8) :
    Keeps s (s.fillView map byte).1 := by
  unfold fillView
  split
  · exact .refl s
  · next m hm =>
    have hfile := (ht.formed map m hm).of_file
    split
    · exact .refl s
    · exact keeps_setView hfile _

section Hooks

variable [DecidableEq κ]

/-- A hook leaves the mappings alone. -/
lemma keeps_runHook (s : Store κ) (view : Bytes) (h : Hook) : Keeps s (s.runHook view h).1 := by
  cases h with
  | store d key => exact .of_eq rfl rfl rfl rfl
  | hold c l => exact keeps_releaseAll s _
  | record name failure probe => exact .of_eq rfl rfl rfl rfl

/-- So do any hooks. -/
lemma keeps_runHooks (s : Store κ) (view : Bytes) (hs : List Hook) :
    Keeps s (s.runHooks view hs).1 := by
  induction hs generalizing s with
  | nil => exact .refl s
  | cons h hs ih => exact (keeps_runHook s view h).trans (ih _)

/-- A mapping with one more hook goes on, and so do the others. -/
lemma keeps_registerHook (s : Store κ) (map : HandleId) (name : String) (failure : Option String)
    (probe : Option ClaimId) : Keeps s (s.registerHook map (.record name failure probe)) := by
  unfold registerHook
  split
  · exact .refl s
  · next m hm =>
    unfold register
    split
    · have hrun := keeps_runHook s .empty (.record name failure probe)
      refine hrun.trans (keeps_setMapping (m := m) ?_ (.refl m))
      exact hm
    · refine keeps_setMapping hm (m.follows_hooks ?_)
      rw [UnmapHooks.resources, UnmapHooks.resources, UnmapHooks.push, List.flatMap_append]
      exact List.append_nil _

/-- A mapping that is unmapped shows nothing, and the others go on. -/
lemma keeps_unmap (s : Store κ) (map : HandleId) : Keeps s (s.unmap map).1 := by
  unfold unmap
  split
  · exact .refl s
  · next m hm =>
    have hback := took_writeBack s m
    have hgave := gave_runHooks (s.writeBack m) (((s.writeBack m).view? m).getD .empty)
      m.hooks.pending
    have hrun := ((keeps_writeBack s m).trans (keeps_runHooks _
      (((s.writeBack m).view? m).getD .empty) m.hooks.pending)).trans
      (keeps_releaseAll _ m.backing.viewResources)
    refine hrun.trans (keeps_setMapping ?_ (m.follows_closed .spent))
    rw [mapping?_eq_some, handle?, handles_releaseAll, hgave.handles_eq, hback.handles_eq]
    exact mapping?_eq_some.1 hm

end Hooks

/-! ### Streams -/

/-- A read leaves the mappings alone. -/
lemma keeps_deliver (s : Store κ) (reader : HandleId) (n : Nat) :
    Keeps s (s.deliver reader n).1 := by
  unfold deliver
  split
  · exact .refl s
  · next r hr =>
    split
    · exact .refl s
    · exact keeps_setReader hr

/-- A read to the end leaves the mappings alone. -/
lemma keeps_readToEnd (s : Store κ) (reader : HandleId) : Keeps s (s.readToEnd reader).1 := by
  unfold readToEnd
  split
  · exact .refl s
  · split
    · exact .refl s
    · exact keeps_deliver s reader _

/-- A reader that is moved leaves the mappings alone. -/
lemma keeps_seek (s : Store κ) (reader : HandleId) (offset : Nat) :
    Keeps s (s.seek reader offset).1 := by
  unfold seek
  split
  · exact .refl s
  · next r hr =>
    split
    · exact .refl s
    · exact keeps_setReader hr

/-- A sink never makes a file shorter, and leaves handles alone. -/
lemma keeps_writeSink {sink sink' : Sink} {b : Bytes} (h : s.writeSink sink b = .ok (s', sink')) :
    Keeps s s' ∧ s'.handles = s.handles := by
  unfold writeSink at h
  split at h
  · obtain ⟨rfl, -⟩ := Prod.mk.inj (Except.ok.inj h)
    exact ⟨keeps_disk s (Disk.extends_modify _ _ _) (Disk.grows_append _ _ _), rfl⟩
  · obtain ⟨rfl, -⟩ := Prod.mk.inj (Except.ok.inj h)
    exact ⟨keeps_disk s (Disk.extends_writeAt _ _ _ _) (Disk.grows_writeAt _ _ _ _), rfl⟩
  · split at h
    · obtain ⟨rfl, -⟩ := Prod.mk.inj (Except.ok.inj h)
      exact ⟨.of_eq rfl rfl rfl rfl, rfl⟩
    · cases h
    · cases h
  · obtain ⟨rfl, -⟩ := Prod.mk.inj (Except.ok.inj h)
    exact ⟨.refl s, rfl⟩

/-- Bytes that a writer takes cut no file. -/
lemma keeps_accept (s : Store κ) (writer : HandleId) (b : Bytes) :
    Keeps s (s.accept writer b).1 := by
  unfold accept
  split
  · exact .refl s
  · next a ha =>
    split
    · split
      · exact .refl s
      · next s' sink hsink =>
        obtain ⟨hkeep, hh⟩ := keeps_writeSink hsink
        refine hkeep.trans (keeps_setWriter (a := a) ?_)
        rw [writer?_eq_some, handle?, hh]
        exact writer?_eq_some.1 ha
    · exact .refl s

/-- Nor do bytes that it takes in full. -/
lemma keeps_writeAll (s : Store κ) (writer : HandleId) (b : Bytes) :
    Keeps s (s.writeAll writer b).1 := by
  unfold writeAll
  split
  · exact .refl s
  · exact keeps_accept s writer b

/-- Nor does a payload. -/
lemma keeps_writeData (s : Store κ) (writer : HandleId) (b : Bytes) :
    Keeps s (s.writeData writer b).1 := by
  have h := keeps_writeAll s writer b
  unfold writeData
  split <;> next heq => rw [heq] at h; exact h

/-- Nor does a close. -/
lemma keeps_close (s : Store κ) (writer : HandleId) : Keeps s (s.close writer) := by
  unfold close
  split
  · exact .refl s
  · next a ha =>
    split
    · have hcommit : Keeps s (s.commit a.sink) ∧ (s.commit a.sink).handles = s.handles := by
        cases a.sink with
        | row d key buffer => exact ⟨.of_eq rfl rfl rfl rfl, rfl⟩
        | file id offset =>
          exact ⟨keeps_disk s (Disk.extends_modify _ _ _) (Disk.grows_sync _ _), rfl⟩
        | entry t e => exact ⟨.refl s, rfl⟩
      refine (hcommit.1.trans (keeps_releaseAll _ a.openResources)).trans
        (keeps_setWriter (a := a) ?_)
      rw [writer?_eq_some, handle?, handles_releaseAll, hcommit.2]
      exact writer?_eq_some.1 ha
    · exact .refl s

/-- Nor does a drop, and the mappings that are not dropped go on. -/
lemma keeps_drop [DecidableEq κ] (s : Store κ) (h : HandleId) : Keeps s (s.drop h) := by
  unfold drop
  split
  · exact (keeps_unmap s h).trans (keeps_discard _ h)
  · exact (keeps_close s h).trans (keeps_discard _ h)
  · exact keeps_discard s h

end Store

end ClaimStore
