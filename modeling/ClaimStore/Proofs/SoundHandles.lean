import ClaimStore.Proofs.SoundOpens

/-!
# Handles keep states sound

Operations on a handle change what it shows or where it is, and the ends of handles give back what
they hold. Either way every counter of the store goes on agreeing with the handles.

## Main results

* `Store.Sound.setView`, `Store.Sound.resize` — bytes and lengths of mappings.
* `Store.readData_induction`, `Store.copy_induction` — what every raw read or write preserves, the
  loops around it preserve.
* `Store.Sound.unmap`, `Store.Sound.close`, `Store.Sound.drop` — the ends of handles.
-/

set_option autoImplicit false

namespace ClaimStore.Store

variable {κ : Type}

/-! ### Handles in their places -/

/-- A mapping is a handle of that sort. -/
lemma mapping?_eq_some {s : Store κ} {h : HandleId} {m : Mapping} :
    s.mapping? h = some m ↔ s.handle? h = some (.mapping m) := by
  unfold mapping?
  split <;> simp_all

/-- A reader is a handle of that sort. -/
lemma reader?_eq_some {s : Store κ} {h : HandleId} {r : Reader} :
    s.reader? h = some r ↔ s.handle? h = some (.reader r) := by
  unfold reader?
  split <;> simp_all

/-- A writer is a handle of that sort. -/
lemma writer?_eq_some {s : Store κ} {h : HandleId} {w : Writer} :
    s.writer? h = some w ↔ s.handle? h = some (.writer w) := by
  unfold writer?
  split <;> simp_all

/-- A handle that stays is replaced by itself. -/
lemma setHandle_self {s : Store κ} {h : HandleId} {x : Handle} (hx : s.handle? h = some x) :
    s.setHandle h x = s := by
  obtain ⟨hlt, hplace⟩ := List.getElem?_eq_some_iff.1 (handle?_eq_some.1 hx)
  rw [setHandle, ← hplace, List.set_getElem_self]

/-- A step that takes nothing, after which a handle holds what it held. -/
lemma Sound.setHandle {s s₁ : Store κ} (hs : s.Sound) {h : HandleId} {x x' : Handle}
    (hx : s.handle? h = some x) (took : Took s s₁ [])
    (hres : ∀ r : Resource, r.isCounted = true → x'.resources.count r = x.resources.count r)
    (hwhole : x'.IsWhole) (howned : x'.owned? = x.owned?) : Leads s (s₁.setHandle h x') :=
  hs.exchange hx (.of_took took)
    (fun r hr => (hres r hr).symm.trans (Nat.zero_add _).symm)
    (fun _ hy => Option.some.inj hy ▸ ⟨hwhole, howned⟩)

/-- A step that takes nothing. -/
lemma Sound.took {s s' : Store κ} (hs : s.Sound) (h : Took s s' []) : Leads s s' :=
  hs.opens (.nothing h)

/-! ### Bytes of mappings -/

/-- A mapping that shows bytes of an entry owns it. -/
lemma mem_resources_of_borrow {m : Mapping} {b : EntryBacking} {t : TableId} {e : EntryId}
    (hb : m.backing = .entry b) (he : b.borrow = some (t, e)) :
    Resource.owner t e ∈ (Handle.mapping m).resources := by
  simp [Handle.resources, Mapping.resources, hb, Backing.keptResources,
    EntryBacking.keptResources, he]

/-- **As many other bytes in a view** keep a state sound. -/
lemma Sound.setView {s : Store κ} (hs : s.Sound) {map : HandleId} {m : Mapping}
    (hm : s.handle? map = some (.mapping m)) (hro : m.readOnly = false) {v v' : Bytes}
    (hv : s.view? m = some v) (hsize : v'.size = v.size) : Leads s (s.setView map m v') := by
  unfold Store.setView
  cases hb : m.backing with
  | file b =>
    dsimp only
    split
    · exact hs.took (took_disk s _)
    · exact .refl hs
  | entry b =>
    cases hbor : b.borrow with
    | none => simpa only [hbor] using Leads.refl hs
    | some p =>
      obtain ⟨t, e⟩ := p
      have hvalue : v = (s.table t).value e := by
        cases hview : b.view with
        | read =>
          have hwhole := hs.handles_whole map _ hm b hb hview
          rw [hro] at hwhole
          cases hwhole
        | write => simpa [view?, hb, entryView?, hbor, hview] using hv.symm
        | released => simp [view?, hb, entryView?, hbor, hview] at hv
      have ht := lt_of_stored (hs.stored hm (mem_resources_of_borrow hb hbor))
      simp only [hbor]
      refine hs.took (.setTable_same ht (fun e' q => EntryTable.tally_setValue _ _ _ _ _)
        fun hx => hx.setValue ?_)
      rw [hsize, hvalue]
  | buffer b =>
    refine hs.setHandle hm (.refl s) (fun r _ => ?_) (isWhole_buffer _ _ _) ?_
    · simp [Handle.resources, Mapping.resources, hb, Backing.viewResources, Backing.keptResources]
    · simp [Handle.owned?, hb]

/-- A write through a mapping keeps a state sound. -/
lemma Sound.writeAt {s : Store κ} (hs : s.Sound) (map : HandleId) (offset : Nat) (b : Bytes) :
    Leads s (s.writeAt map offset b).1 := by
  unfold Store.writeAt
  split
  · exact .refl hs
  · next m hm =>
    split
    · exact .refl hs
    · split
      · exact .refl hs
      · next v hv =>
        obtain ⟨hro, hview⟩ := mutableView?_eq_some.1 hv
        split
        · next hle =>
          exact hs.setView (mapping?_eq_some.1 hm) hro hview (Bytes.size_patch hle)
        · exact .refl hs

/-- A fill keeps it sound. -/
lemma Sound.fillView {s : Store κ} (hs : s.Sound) (map : HandleId) (byte : UInt8) :
    Leads s (s.fillView map byte).1 := by
  unfold Store.fillView
  split
  · exact .refl hs
  · next m hm =>
    split
    · exact .refl hs
    · next v hv =>
      obtain ⟨hro, hview⟩ := mutableView?_eq_some.1 hv
      exact hs.setView (mapping?_eq_some.1 hm) hro hview (Bytes.size_replicate _ _)

/-- Writing back takes nothing. -/
lemma took_writeBack (s : Store κ) (m : Mapping) : Took s (s.writeBack m) [] := by
  unfold writeBack
  split
  · exact took_disk s _
  · exact .refl s

/-- A flush keeps it sound. -/
lemma Sound.flush {s : Store κ} (hs : s.Sound) (map : HandleId) : Leads s (s.flush map) := by
  unfold Store.flush
  split
  · exact .refl hs
  · exact hs.took (took_writeBack s _)

/-- A file mapping holds what its hooks hold, wherever its file is. -/
lemma resources_file (m : Mapping) {b : FileBacking} (hb : m.backing = .file b)
    (b' : FileBacking) :
    (Mapping.resources { m with backing := .file b' }) = m.resources := by
  simp [Mapping.resources, hb, Backing.viewResources, Backing.keptResources]

/-- A change of length of a mapped file keeps it sound. -/
lemma Sound.resizeFile {s : Store κ} (hs : s.Sound) {map : HandleId} {m : Mapping}
    (hm : s.handle? map = some (.mapping m)) {b : FileBacking} (hb : m.backing = .file b)
    (n : UInt64) : Leads s (s.resizeFile map m b n).1 := by
  have changed : ∀ (d : Disk) (b' : FileBacking),
      Leads s (({ s.writeBack m with disk := d } : Store κ).setHandle map
        (.mapping { m with backing := .file b' })) := by
    intro d b'
    refine hs.setHandle hm ((took_writeBack s m).trans (took_disk _ d)) (fun r _ => ?_)
      (isWhole_file _ _ _) ?_
    · exact congrArg (List.count r) (resources_file m hb b')
    · simp [Handle.owned?, hb]
  unfold Store.resizeFile
  split
  · dsimp only
    split
    · exact changed _ _
    · exact changed _ _
  · exact .refl hs
  · exact .refl hs

/-- So does one of a mapped entry. -/
lemma Sound.resizeEntry {s : Store κ} (hs : s.Sound) {map : HandleId} {m : Mapping}
    (hm : s.handle? map = some (.mapping m)) {b : EntryBacking} (hb : m.backing = .entry b)
    (n : UInt64) : Leads s (s.resizeEntry map m b n).1 := by
  unfold Store.resizeEntry
  split
  · next t e hbor hview =>
    have he := hs.stored hm (mem_resources_of_borrow hb hbor)
    split
    · exact .refl hs
    · next x hx =>
      refine hs.setHandle hm (.setTable_same (lt_of_stored he) (EntryTable.tally_resizeValue hx)
        fun ht => ht.resizeValue he hx) (fun r _ => ?_) (fun b' hb' hread => ?_) ?_
      · simp [Handle.resources, Mapping.resources, hb, Backing.viewResources,
          EntryBacking.viewResources, Backing.keptResources, EntryBacking.keptResources]
      · obtain rfl := Backing.entry.inj hb'
        exact hs.handles_whole map _ hm b hb hread
      · simp [Handle.owned?, hb]
  · exact .refl hs

/-- So does one of a mapped buffer. -/
lemma Sound.resizeBuffer {s : Store κ} (hs : s.Sound) {map : HandleId} {m : Mapping}
    (hm : s.handle? map = some (.mapping m)) {b : BufferBacking} (hb : m.backing = .buffer b)
    (n : UInt64) : Leads s (s.resizeBuffer map m b n).1 := by
  unfold Store.resizeBuffer
  split
  · exact .refl hs
  · split
    · exact .refl hs
    · refine hs.setHandle hm (.refl s) (fun r _ => ?_) (isWhole_buffer _ _ _) ?_
      · simp [Handle.resources, Mapping.resources, hb, Backing.viewResources,
          Backing.keptResources]
      · simp [Handle.owned?, hb]

/-- A change of length keeps a state sound, whatever is mapped. -/
lemma Sound.resize {s : Store κ} (hs : s.Sound) (map : HandleId) (n : UInt64) :
    Leads s (s.resize map n).1 := by
  unfold Store.resize
  split
  · exact .refl hs
  · next m hm =>
    rw [mapping?_eq_some] at hm
    split
    · exact .refl hs
    · split
      · next b hb => exact hs.resizeFile hm hb n
      · next b hb => exact hs.resizeEntry hm hb n
      · next b hb => exact hs.resizeBuffer hm hb n

/-! ### Hooks and unmapping -/

/-- A hook gives back what it holds. -/
lemma gave_runHook [DecidableEq κ] (s : Store κ) (view : Bytes) (h : Hook) :
    Gave s (s.runHook view h).1 h.resources := by
  cases h with
  | store d key =>
    have took : Took s (s.modifyDatabase d (·.put key view)) [] :=
      .of_eq rfl rfl rfl rfl rfl rfl
    refine ⟨took.handles_eq, fun r => ?_, took.tables_sound, took.backends_known⟩
    show (s.modifyDatabase d (·.put key view)).counted r = _
    rw [took.counted_eq, List.count_nil, Nat.add_zero]
    cases r with
    | database d' => exact (Nat.zero_sub _).symm
    | reference _ | lease _ | owner _ _ | readLock _ _ | writeLock _ _ => simp [Hook.resources]
  | hold c l => exact .releaseAll s _
  | record name failure probe => exact .of_took (.of_eq rfl rfl rfl rfl rfl rfl)

/-- Hooks give back what they hold, all of them. -/
lemma gave_runHooks [DecidableEq κ] (s : Store κ) (view : Bytes) (hs : List Hook) :
    Gave s (s.runHooks view hs).1 (hs.flatMap Hook.resources) := by
  induction hs generalizing s with
  | nil => exact .of_took (.refl s)
  | cons h hs ih =>
    rw [List.flatMap_cons]
    exact (gave_runHook s view h).trans (ih _)

/-- A closed backing holds what is kept until the mapping is dropped. -/
lemma resources_closed (m : Mapping) :
    (Mapping.resources { m with backing := m.backing.closed, hooks := .spent }) =
      m.backing.keptResources := by
  obtain ⟨backing, readOnly, hooks⟩ := m
  cases backing with
  | file b => rfl
  | entry b => cases b with
    | mk borrow size view => cases borrow <;> rfl
  | buffer b => rfl

/-- A closed backing shows nothing. -/
lemma isWhole_closed (m : Mapping) (hooks : UnmapHooks) :
    Mapping.IsWhole { m with backing := m.backing.closed, hooks } := by
  obtain ⟨backing, readOnly, -⟩ := m
  intro b hb hread
  cases backing with
  | file _ => cases hb
  | entry b' =>
    obtain rfl := Backing.entry.inj hb
    cases hread
  | buffer _ => cases hb

/-- A closed backing owns what it owned. -/
lemma owned?_closed (m : Mapping) (hooks : UnmapHooks) :
    (Handle.mapping { m with backing := m.backing.closed, hooks }).owned? =
      (Handle.mapping m).owned? := by
  obtain ⟨backing, readOnly, -⟩ := m
  cases backing <;> rfl

/-- **A mapping that is unmapped gives back what its hooks and its view hold.** -/
lemma Sound.unmap [DecidableEq κ] {s : Store κ} (hs : s.Sound) (map : HandleId) :
    Leads s (s.unmap map).1 := by
  unfold Store.unmap
  split
  · exact .refl hs
  · next m hm =>
    rw [mapping?_eq_some] at hm
    have gave := ((Gave.of_took (took_writeBack s m)).trans
      (gave_runHooks _ (((s.writeBack m).view? m).getD .empty) m.hooks.pending)).trans
      (.releaseAll _ m.backing.viewResources)
    refine hs.exchange hm gave (fun r _ => ?_) fun y hy => ?_
    · show m.resources.count r = _ +
        (Mapping.resources { m with backing := m.backing.closed, hooks := .spent }).count r
      rw [resources_closed, ← List.count_append]
      rfl
    · obtain rfl := Option.some.inj hy
      exact ⟨isWhole_closed m .spent, owned?_closed m .spent⟩

/-- A hook that is registered keeps it sound. -/
lemma Sound.registerHook [DecidableEq κ] {s : Store κ} (hs : s.Sound) (map : HandleId)
    (name : String) (failure : Option String) (probe : Option ClaimId) :
    Leads s (s.registerHook map (.record name failure probe)) := by
  unfold Store.registerHook
  split
  · exact .refl hs
  · next m hm =>
    rw [mapping?_eq_some] at hm
    unfold register
    split
    · refine hs.setHandle hm (.of_eq rfl rfl rfl rfl rfl rfl) (fun r _ => rfl) ?_ rfl
      exact hs.handles_whole map _ hm
    · refine hs.setHandle hm (.refl s) (fun r _ => ?_) ?_ rfl
      · show (Mapping.resources _).count r = m.resources.count r
        rw [count_resources_push]
        rfl
      · exact fun b hb => hs.handles_whole map _ hm b hb

/-! ### Readers -/

/-- A reader holds the same wherever it is. -/
lemma Sound.setPosition {s : Store κ} (hs : s.Sound) {reader : HandleId} {r : Reader}
    (hr : s.reader? reader = some r) (position : Nat) :
    Leads s (s.setHandle reader (.reader { r with position })) :=
  hs.setHandle (reader?_eq_some.1 hr) (.refl s) (fun _ _ => rfl) trivial rfl

/-- A read keeps it sound. -/
lemma Sound.deliver {s : Store κ} (hs : s.Sound) (reader : HandleId) (n : Nat) :
    Leads s (s.deliver reader n).1 := by
  unfold Store.deliver
  split
  · exact .refl hs
  · next r hr =>
    split
    · exact .refl hs
    · exact hs.setPosition hr _

/-- **What every raw read preserves, the fill loop preserves.** -/
lemma fill_induction {σ : Type} {P : σ → Prop} (r : ByteSource σ)
    (hread : ∀ s room, P s → P (r.read s room).1) (rounds : Nat) {buffer : Bytes} {filled : Nat}
    {s s' : σ} {b : Bytes} {e : Except IoError Nat} (hs : P s)
    (h : r.fill rounds buffer filled s = some (s', b, e)) : P s' := by
  induction rounds generalizing buffer filled s with
  | zero => cases h
  | succ rounds ih =>
    have hnext := hread s (buffer.drop filled) hs
    unfold ByteSource.fill at h
    split at h
    · obtain ⟨rfl, -⟩ := Prod.mk.inj (Option.some.inj h)
      exact hs
    · split at h
      · next s₁ part n h₁ =>
        rw [h₁] at hnext
        split at h
        · obtain ⟨rfl, -⟩ := Prod.mk.inj (Option.some.inj h)
          exact hnext
        · exact ih hnext h
      · next s₁ part h₁ =>
        rw [h₁] at hnext
        exact ih hnext h
      · next s₁ part e₁ h₁ =>
        rw [h₁] at hnext
        obtain ⟨rfl, -⟩ := Prod.mk.inj (Option.some.inj h)
        exact hnext

/-- The raw read of a reader of the store. -/
lemma byteSource_read (reader : HandleId) (s : Store κ) (room : Bytes) :
    ((byteSource reader).read s room).1 = (s.readRaw reader room.size).1 := by
  rw [byteSource]
  dsimp only
  split <;> next h => rw [h]

/-- **What every transfer to a reader preserves, reading into a buffer preserves.** -/
lemma readData_induction {P : Store κ → Prop} {reader : HandleId}
    (hread : ∀ s n, P s → P (s.deliver reader n).1) {s : Store κ} (hs : P s) (buffer : Bytes)
    (maxLen : Nat) : P (s.readData reader buffer maxLen).1 := by
  have filled : ∀ {rounds s' b e}, (byteSource reader).readData rounds buffer maxLen s =
      some (s', b, e) → P s' := by
    intro rounds s' b e h
    refine fill_induction _ (fun s₁ room hs₁ => ?_) rounds hs h
    rw [byteSource_read]
    exact hread s₁ _ hs₁
  unfold Store.readData
  dsimp only
  split
  · exact hs
  · next h => exact filled h
  · next h => exact filled h

/-- A read to the end keeps it sound. -/
lemma Sound.readToEnd {s : Store κ} (hs : s.Sound) (reader : HandleId) :
    Leads s (s.readToEnd reader).1 := by
  unfold Store.readToEnd
  split
  · exact .refl hs
  · split
    · exact .refl hs
    · exact hs.deliver reader _

/-- A reader that is moved keeps it sound. -/
lemma Sound.seek {s : Store κ} (hs : s.Sound) (reader : HandleId) (offset : Nat) :
    Leads s (s.seek reader offset).1 := by
  unfold Store.seek
  split
  · exact .refl hs
  · next r hr =>
    split
    · exact .refl hs
    · exact hs.setPosition hr _

/-! ### Writers -/

/-- A sink that took bytes holds what it held. -/
lemma took_writeSink {s s' : Store κ} {sink sink' : Sink} {b : Bytes} (hb : b.size < 2 ^ 64)
    (he : ∀ t e, sink = .entry t e → (s.table t).Stored e)
    (h : s.writeSink sink b = .ok (s', sink')) :
    Took s s' [] ∧ ∀ w : Writer, w.sink = sink →
      (Writer.resources { w with sink := sink' }) = w.resources ∧
        (Handle.writer { w with sink := sink' }).owned? = (Handle.writer w).owned? := by
  unfold writeSink at h
  split at h
  · obtain ⟨rfl, rfl⟩ := Prod.mk.inj (Except.ok.inj h)
    exact ⟨took_disk s _, fun w hw => by rw [← hw]; exact ⟨rfl, rfl⟩⟩
  · obtain ⟨rfl, rfl⟩ := Prod.mk.inj (Except.ok.inj h)
    refine ⟨took_disk s _, fun w hw => ?_⟩
    simp [Writer.resources, Writer.openResources, Writer.keptResources, Handle.owned?, hw]
  · next t e =>
    have hstored := he t e rfl
    split at h
    · next x hx =>
      obtain ⟨rfl, rfl⟩ := Prod.mk.inj (Except.ok.inj h)
      exact ⟨.setTable_same (lt_of_stored hstored) (EntryTable.tally_appendValue hx)
        fun ht => ht.appendValue hstored hb hx, fun w hw => by rw [← hw]; exact ⟨rfl, rfl⟩⟩
    · cases h
    · cases h
  · obtain ⟨rfl, rfl⟩ := Prod.mk.inj (Except.ok.inj h)
    refine ⟨.refl s, fun w hw => ?_⟩
    simp [Writer.resources, Writer.openResources, Writer.keptResources, Handle.owned?, hw]

/-- A writer of an entry owns it. -/
lemma Sound.stored_writer {s : Store κ} (hs : s.Sound) {writer : HandleId} {w : Writer}
    (hw : s.handle? writer = some (.writer w)) {t : TableId} {e : EntryId}
    (h : w.sink = .entry t e) : (s.table t).Stored e :=
  hs.stored hw (by simp [Handle.resources, Writer.resources, Writer.keptResources, h])

/-- Bytes that a writer takes keep it sound, if their number is a word. -/
lemma Sound.accept {s : Store κ} (hs : s.Sound) (writer : HandleId) {b : Bytes}
    (hb : b.size < 2 ^ 64) : Leads s (s.accept writer b).1 := by
  unfold Store.accept
  split
  · exact .refl hs
  · next w hw =>
    rw [writer?_eq_some] at hw
    split
    · split
      · exact .refl hs
      · next s' sink hsink =>
        obtain ⟨took, hres⟩ := took_writeSink hb (fun t e => hs.stored_writer hw) hsink
        refine hs.setHandle hw took (fun r _ => ?_) trivial ?_
        · exact congrArg (List.count r) (hres w rfl).1
        · exact (hres w rfl).2
    · exact .refl hs

/-- So do bytes that it takes in full. -/
lemma Sound.writeAll {s : Store κ} (hs : s.Sound) (writer : HandleId) {b : Bytes}
    (hb : b.size < 2 ^ 64) : Leads s (s.writeAll writer b).1 := by
  unfold Store.writeAll
  split
  · exact .refl hs
  · exact hs.accept writer hb

/-- So does a payload. -/
lemma Sound.writeData {s : Store κ} (hs : s.Sound) (writer : HandleId) {b : Bytes}
    (hb : b.size < 2 ^ 64) : Leads s (s.writeData writer b).1 := by
  have h := hs.writeAll writer hb
  unfold Store.writeData
  split <;> next heq => rw [heq] at h; exact h

/-- **A writer that is closed gives its lease and its lock back.** -/
lemma Sound.close {s : Store κ} (hs : s.Sound) (writer : HandleId) : Leads s (s.close writer) := by
  have committed : ∀ sink : Sink, Took s (s.commit sink) [] := by
    intro sink
    cases sink <;> exact .of_eq rfl rfl rfl rfl rfl rfl
  unfold Store.close
  split
  · exact .refl hs
  · next w hw =>
    rw [writer?_eq_some] at hw
    split
    · refine hs.exchange hw ((Gave.of_took (committed w.sink)).trans (.releaseAll _ _))
        (fun r _ => ?_) fun y hy => ?_
      · exact List.count_append
      · obtain rfl := Option.some.inj hy
        exact ⟨trivial, rfl⟩
    · exact .refl hs

/-- **What every read and every write of a chunk preserves, a copy preserves.**

**Proof sketch.** Induction on the rounds. A round reads a chunk, which is a payload, and writes it;
the copy ends in a round that reads nothing or fails, and before the first round if the content
cannot be read. -/
lemma copy_induction {P : Store κ → Prop} {reader writer : HandleId}
    (hread : ∀ s n, P s → P (s.deliver reader n).1)
    (hwrite : ∀ s (b : Bytes), b.size < 2 ^ 64 → P s → P (s.writeAll writer b).1)
    {s s' : Store κ} {r : Except IoError Nat} (hs : P s)
    (h : s.copy reader writer = some (s', r)) : P s' := by
  have rounds : ∀ (k : Nat) (s : Store κ) (total : Nat), P s →
      copyRounds reader writer k s total = some (s', r) → P s' := by
    intro k
    induction k with
    | zero => exact fun s total _ h => nomatch h
    | succ k ih =>
      intro s total hs h
      have hnext : P (s.readRaw reader copyChunk).1 := hread s _ hs
      unfold copyRounds at h
      split at h
      · next s₁ e h₁ =>
        rw [h₁] at hnext
        obtain ⟨rfl, -⟩ := Prod.mk.inj (Option.some.inj h)
        exact hnext
      · next s₁ b h₁ =>
        have hb : b.size < 2 ^ 64 :=
          Nat.lt_of_le_of_lt (size_readRaw_le (congrArg Prod.snd h₁)) (by decide)
        rw [h₁] at hnext
        have hwritten := hwrite s₁ b hb hnext
        split at h
        · obtain ⟨rfl, -⟩ := Prod.mk.inj (Option.some.inj h)
          exact hnext
        · split at h
          · next s₂ e h₂ =>
            rw [h₂] at hwritten
            obtain ⟨rfl, -⟩ := Prod.mk.inj (Option.some.inj h)
            exact hwritten
          · next s₂ n h₂ =>
            rw [h₂] at hwritten
            exact ih s₂ _ hwritten h
  unfold Store.copy at h
  split at h
  · obtain ⟨rfl, -⟩ := Prod.mk.inj (Option.some.inj h)
    exact hs
  · split at h
    · obtain ⟨rfl, -⟩ := Prod.mk.inj (Option.some.inj h)
      exact hs
    · exact rounds _ s 0 hs h

/-! ### The ends of handles -/

/-- **A handle that is taken away gives back all that it holds.** -/
lemma Sound.discard {s : Store κ} (hs : s.Sound) (h : HandleId) : Leads s (s.discard h) := by
  unfold Store.discard
  split
  · exact .refl hs
  · next x hx => exact hs.exchange hx (.releaseAll s _) (fun r _ => rfl) fun y hy => nomatch hy

/-- **A handle that is dropped gives back all that it holds.** -/
lemma Sound.drop [DecidableEq κ] {s : Store κ} (hs : s.Sound) (h : HandleId) :
    Leads s (s.drop h) := by
  unfold Store.drop
  split
  · exact (hs.unmap h).trans ((hs.unmap h).sound.discard h)
  · exact (hs.close h).trans ((hs.close h).sound.discard h)
  · exact hs.discard h

end ClaimStore.Store
