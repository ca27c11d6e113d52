import ClaimStore.Proofs.SoundSteps

/-!
# Handles go on

An operation that opens nothing and ends nothing changes the handles that it names, and no others,
and each of them goes on in the form that it has: a mapping stays at the same place with the hooks
that wait, a reader and a writer stay with their claim. Repositories, identifiers and databases stay
as they are.

## Main definitions

* `Handle.Goes` — a handle that goes on from another one.
* `Store.Frame`, `Store.Still` — steps that change no handle.
* `Store.Carries` — a step in which handles go on.

## Main results

* `Store.Carries.trans` — steps in which handles go on compose.
* `Store.carries_writeAt`, `Store.carries_resize`, `Store.carries_registerHook` — mappings.
* `Store.carries_readData`, `Store.carries_writeData`, `Store.carries_copy` — streams.
-/

set_option autoImplicit false

namespace ClaimStore

/-! ### Forms that last -/

/-- The hook was registered by a caller. -/
def Hook.isCallers : Hook → Bool
  | .record .. => true
  | .store .. | .hold .. => false

/-- A backing that goes on: it is at the same place, with the same view. -/
inductive Backing.Goes : Backing → Backing → Prop
  /-- The part of a file that is shown may change. -/
  | file (b b' : FileBacking) : Goes (.file b) (.file b')
  /-- The size of an entry may change where it is locked for writing. -/
  | entry {b b' : EntryBacking} (borrow_eq : b'.borrow = b.borrow) (view_eq : b'.view = b.view)
      (size_eq : b.view ≠ .write → b'.size = b.size) : Goes (.entry b) (.entry b')
  /-- The bytes of a buffer may change while there are any. -/
  | buffer {b b' : BufferBacking} (isSome_eq : b'.buffer.isSome = b.buffer.isSome)
      (capacity_eq : b'.capacity = b.capacity) : Goes (.buffer b) (.buffer b')

/-- A mapping that goes on: more hooks of callers may wait, until all are run. -/
structure Mapping.Goes (m m' : Mapping) : Prop where
  /-- It is writable or not, as before. -/
  readOnly_eq : m'.readOnly = m.readOnly
  /-- Its hooks were run or not, as before. -/
  fired_eq : m'.hooks.fired = m.hooks.fired
  /-- The hooks that wait go on waiting. -/
  pending_eq : ∃ hs, m'.hooks.pending = m.hooks.pending ++ hs ∧ ∀ h ∈ hs, h.isCallers = true
  /-- No hook waits once all were run. -/
  spent_eq : m.hooks.fired = true → m'.hooks = m.hooks
  /-- The backing goes on. -/
  backing_goes : m.backing.Goes m'.backing

/-- A sink that goes on: it is at the same place. -/
inductive Sink.Goes : Sink → Sink → Prop
  /-- The offset in a file may change. -/
  | file (id : FileId) (offset offset' : Option Nat) : Goes (.file id offset) (.file id offset')
  /-- An entry stays. -/
  | entry (t : TableId) (e : EntryId) : Goes (.entry t e) (.entry t e)
  /-- What was collected for a row may change. -/
  | row (d : DatabaseId) (key : String) (b b' : Bytes) : Goes (.row d key b) (.row d key b')

/-- A handle that goes on. -/
inductive Handle.Goes : Handle → Handle → Prop
  /-- A mapping goes on. -/
  | mapping {m m' : Mapping} (h : m.Goes m') : Goes (.mapping m) (.mapping m')
  /-- A reader moves. -/
  | reader (r : Reader) (position : Nat) : Goes (.reader r) (.reader { r with position })
  /-- A writer takes bytes. -/
  | writer {w : Writer} {sink : Sink} (h : w.sink.Goes sink) (written : Nat) :
      Goes (.writer w) (.writer { w with sink, written })
  /-- Any handle may stay. -/
  | refl (x : Handle) : Goes x x

/-- A backing goes on as it is. -/
lemma Backing.Goes.refl (b : Backing) : b.Goes b := by
  cases b with
  | file b => exact .file b b
  | entry b => exact .entry rfl rfl fun _ => rfl
  | buffer b => exact .buffer rfl rfl

/-- It goes on step after step. -/
lemma Backing.Goes.trans {b b' b'' : Backing} (h : b.Goes b') (h' : b'.Goes b'') : b.Goes b'' := by
  cases h with
  | file b b' =>
    cases h' with
    | file _ b'' => exact .file b b''
  | entry hb hv hs =>
    cases h' with
    | entry hb' hv' hs' =>
      exact .entry (hb'.trans hb) (hv'.trans hv) fun h => (hs' (hv ▸ h)).trans (hs h)
  | buffer hb hc =>
    cases h' with
    | buffer hb' hc' => exact .buffer (hb'.trans hb) (hc'.trans hc)

/-- A mapping goes on step after step. -/
lemma Mapping.Goes.trans {m m' m'' : Mapping} (h : m.Goes m') (h' : m'.Goes m'') :
    m.Goes m'' where
  readOnly_eq := h'.readOnly_eq.trans h.readOnly_eq
  fired_eq := h'.fired_eq.trans h.fired_eq
  pending_eq := by
    obtain ⟨hs, hp, hc⟩ := h.pending_eq
    obtain ⟨hs', hp', hc'⟩ := h'.pending_eq
    refine ⟨hs ++ hs', by rw [hp', hp, List.append_assoc], fun k hk => ?_⟩
    exact (List.mem_append.1 hk).elim (hc k) (hc' k)
  spent_eq hf := (h'.spent_eq (h.fired_eq.trans hf)).trans (h.spent_eq hf)
  backing_goes := h.backing_goes.trans h'.backing_goes

/-- A mapping with the same hooks whose backing goes on. -/
lemma Mapping.Goes.of_backing (m : Mapping) {b : Backing} (h : m.backing.Goes b) :
    m.Goes { m with backing := b } :=
  ⟨rfl, rfl, ⟨[], (List.append_nil _).symm, fun _ hk => nomatch hk⟩, fun _ => rfl, h⟩

/-- A sink goes on as it is. -/
lemma Sink.Goes.refl (k : Sink) : k.Goes k := by
  cases k with
  | file id offset => exact .file id offset offset
  | entry t e => exact .entry t e
  | row d key b => exact .row d key b b

/-- It goes on step after step. -/
lemma Sink.Goes.trans {k k' k'' : Sink} (h : k.Goes k') (h' : k'.Goes k'') : k.Goes k'' := by
  cases h with
  | file id o o' =>
    cases h' with
    | file _ _ o'' => exact .file id o o''
  | entry t e => exact h'
  | row d key b b' =>
    cases h' with
    | row _ _ _ b'' => exact .row d key b b''

/-- A handle goes on step after step. -/
lemma Handle.Goes.trans {x x' x'' : Handle} (h : x.Goes x') (h' : x'.Goes x'') : x.Goes x'' := by
  cases h with
  | mapping hm =>
    cases h' with
    | mapping hm' => exact .mapping (hm.trans hm')
    | refl => exact .mapping hm
  | reader r p =>
    cases h' with
    | reader _ p' => exact .reader r p'
    | refl => exact .reader r p
  | writer hk n =>
    cases h' with
    | writer hk' n' => exact .writer (hk.trans hk') n'
    | refl => exact .writer hk n
  | refl => exact h'

namespace Store

variable {κ : Type} {s s' s'' s₁ : Store κ} {hs : List HandleId}

/-! ### Steps that change no handle -/

/-- A step that changes no handle, no repository and no identifier. -/
structure Frame (s s' : Store κ) : Prop where
  /-- The handles stay. -/
  handles_eq : s'.handles = s.handles
  /-- The repositories stay. -/
  repositories_eq : s'.repositories = s.repositories
  /-- The identifiers stay. -/
  identifiers_eq : s'.claims.map (·.identifier) = s.claims.map (·.identifier)

/-- A step that changes no row either. -/
structure Still (s s' : Store κ) : Prop extends Frame s s' where
  /-- The databases stay. -/
  databases_eq : s'.databases = s.databases

/-- The same state changes no handle. -/
lemma Frame.refl (s : Store κ) : Frame s s := ⟨rfl, rfl, rfl⟩

/-- Two steps that change no handle, one after the other. -/
lemma Frame.trans (h : Frame s s') (h' : Frame s' s'') : Frame s s'' :=
  ⟨h'.handles_eq.trans h.handles_eq, h'.repositories_eq.trans h.repositories_eq,
    h'.identifiers_eq.trans h.identifiers_eq⟩

/-- The same state is still. -/
lemma Still.refl (s : Store κ) : Still s s := ⟨.refl s, rfl⟩

/-- Two still steps, one after the other. -/
lemma Still.trans (h : Still s s') (h' : Still s' s'') : Still s s'' :=
  ⟨h.toFrame.trans h'.toFrame, h'.databases_eq.trans h.databases_eq⟩

/-- A step outside the handles, the repositories, the claims and the databases. -/
lemma Still.of_eq (hh : s'.handles = s.handles) (hr : s'.repositories = s.repositories)
    (hc : s'.claims = s.claims) (hd : s'.databases = s.databases) : Still s s' :=
  ⟨⟨hh, hr, by rw [hc]⟩, hd⟩

/-- The number of references of a claim is no part of its identifier. -/
lemma map_identifier_modify (l : List Claim) (c : ClaimId) (f : Nat → Nat) :
    (l.modify c fun x => { x with references := f x.references }).map (·.identifier) =
      l.map (·.identifier) := by
  refine List.ext_getElem? fun i => ?_
  rw [List.getElem?_map, List.getElem?_map, List.getElem?_modify]
  cases l[i]? with
  | none => rfl
  | some x => by_cases hi : c = i <;> simp [hi]

/-- A reference that is taken changes no handle and no row. -/
lemma still_takeReference (s : Store κ) (c : ClaimId) : Still s (s.takeReference c) :=
  ⟨⟨rfl, rfl, map_identifier_modify _ c (· + 1)⟩, rfl⟩

/-- Nor does what is given back. -/
lemma still_release (s : Store κ) (r : Resource) : Still s (s.release r) := by
  rcases r with c | (⟨g, x⟩ | ⟨g, x⟩) | ⟨t, e⟩ | ⟨t, e⟩ | ⟨t, e⟩ | d
  · exact ⟨⟨rfl, rfl, map_identifier_modify _ c (· - 1)⟩, rfl⟩
  all_goals exact .of_eq rfl rfl rfl rfl

/-- Nor does any number of resources that are given back. -/
lemma still_releaseAll (s : Store κ) (rs : List Resource) : Still s (s.releaseAll rs) := by
  induction rs generalizing s with
  | nil => exact .refl s
  | cons r rs ih => exact (still_release s r).trans (ih _)

/-- Nor does a change of the disk. -/
lemma still_disk (s : Store κ) (d : Disk) : Still s { s with disk := d } :=
  .of_eq rfl rfl rfl rfl

/-- Nor does a change of a table. -/
lemma still_setTable (s : Store κ) (t : TableId) (x : EntryTable (Key κ)) :
    Still s (s.setTable t x) :=
  .of_eq rfl rfl rfl rfl

/-- Nor does a lease that is taken. -/
lemma still_takeWriteLease {g : RegistryId} {x : String} (h : s.takeWriteLease g x = .ok s') :
    Still s s' := by
  obtain ⟨r, -, rfl⟩ := takeWriteLease_ok h
  exact .of_eq rfl rfl rfl rfl

/-- Nor does a mapping that is written back. -/
lemma still_writeBack (s : Store κ) (m : Mapping) : Still s (s.writeBack m) := by
  unfold writeBack
  split
  · exact still_disk s _
  · exact .refl s

/-! ### Steps in which handles go on -/

/-- A step in which handles go on, and those that are not in the list stay as they are. -/
structure Carries (hs : List HandleId) (s s' : Store κ) : Prop where
  /-- No place is added or taken away. -/
  length_eq : s'.handles.length = s.handles.length
  /-- A handle that is live goes on. -/
  goes : ∀ i x, s.handle? i = some x → ∃ x', s'.handle? i = some x' ∧ x.Goes x'
  /-- An empty place stays empty. -/
  none_eq : ∀ i, s.handle? i = none → s'.handle? i = none
  /-- The other handles stay as they are. -/
  other_eq : ∀ i, i ∉ hs → s'.handle? i = s.handle? i
  /-- The repositories stay. -/
  repositories_eq : s'.repositories = s.repositories
  /-- The identifiers stay. -/
  identifiers_eq : s'.claims.map (·.identifier) = s.claims.map (·.identifier)
  /-- The databases stay. -/
  databases_eq : s'.databases = s.databases

/-- The same handles are live in the same places. -/
lemma handle?_congr (h : s'.handles = s.handles) (i : HandleId) : s'.handle? i = s.handle? i := by
  rw [handle?, handle?, h]

/-- A handle after one was replaced. -/
lemma handle?_setHandle {h : HandleId} {x x' : Handle} (hx : s.handle? h = some x) (i : HandleId) :
    (s.setHandle h x').handle? i = if i = h then some x' else s.handle? i := by
  have hlt := (List.getElem?_eq_some_iff.1 (handle?_eq_some.1 hx)).1
  unfold handle? setHandle
  by_cases hi : i = h
  · subst hi
    rw [List.getElem?_set_self hlt, if_pos rfl]
  · rw [List.getElem?_set_ne (Ne.symm hi), if_neg hi]

/-- In a still step all handles go on as they are. -/
lemma Still.carries (h : Still s s') : Carries hs s s' where
  length_eq := congrArg List.length h.handles_eq
  goes i x hx := ⟨x, (handle?_congr h.handles_eq i).trans hx, .refl x⟩
  none_eq i hi := (handle?_congr h.handles_eq i).trans hi
  other_eq i _ := handle?_congr h.handles_eq i
  repositories_eq := h.repositories_eq
  identifiers_eq := h.identifiers_eq
  databases_eq := h.databases_eq

namespace Carries

/-- Handles go on when nothing happens. -/
lemma refl (s : Store κ) : Carries hs s s := (Still.refl s).carries

/-- They go on step after step. -/
lemma trans (h : Carries hs s s') (h' : Carries hs s' s'') : Carries hs s s'' where
  length_eq := h'.length_eq.trans h.length_eq
  goes i x hx := by
    obtain ⟨x', hx', hg⟩ := h.goes i x hx
    obtain ⟨x'', hx'', hg'⟩ := h'.goes i x' hx'
    exact ⟨x'', hx'', hg.trans hg'⟩
  none_eq i hi := h'.none_eq i (h.none_eq i hi)
  other_eq i hi := (h'.other_eq i hi).trans (h.other_eq i hi)
  repositories_eq := h'.repositories_eq.trans h.repositories_eq
  identifiers_eq := h'.identifiers_eq.trans h.identifiers_eq
  databases_eq := h'.databases_eq.trans h.databases_eq

/-- What is live after the step was live before it. -/
lemma back (h : Carries hs s s') {i : HandleId} {x' : Handle} (hx' : s'.handle? i = some x') :
    ∃ x, s.handle? i = some x ∧ x.Goes x' := by
  cases hx : s.handle? i with
  | none =>
    rw [h.none_eq i hx] at hx'
    cases hx'
  | some x =>
    obtain ⟨y, hy, hg⟩ := h.goes i x hx
    obtain rfl := Option.some.inj (hy.symm.trans hx')
    exact ⟨x, rfl, hg⟩

/-- A handle goes on after a step that changes none. -/
lemma set (still : Still s s₁) {h : HandleId} (hmem : h ∈ hs) {x x' : Handle}
    (hx : s.handle? h = some x) (hgoes : x.Goes x') : Carries hs s (s₁.setHandle h x') := by
  have hx₁ : s₁.handle? h = some x := (handle?_congr still.handles_eq h).trans hx
  have hset : ∀ i, (s₁.setHandle h x').handle? i = if i = h then some x' else s.handle? i :=
    fun i => by rw [handle?_setHandle hx₁, handle?_congr still.handles_eq]
  refine ⟨?_, fun i y hy => ?_, fun i hi => ?_, fun i hi => ?_, still.repositories_eq,
    still.identifiers_eq, still.databases_eq⟩
  · exact (List.length_set ..).trans (congrArg List.length still.handles_eq)
  · by_cases hi : i = h
    · subst hi
      obtain rfl := Option.some.inj (hx.symm.trans hy)
      exact ⟨x', by rw [hset, if_pos rfl], hgoes⟩
    · exact ⟨y, by rw [hset, if_neg hi, hy], .refl y⟩
  · have hne : i ≠ h := by
      rintro rfl
      cases hx.symm.trans hi
    rw [hset, if_neg hne, hi]
  · have hne : i ≠ h := fun he => hi (he ▸ hmem)
    rw [hset, if_neg hne]

end Carries

/-! ### Mappings -/

section Mappings

variable {map : HandleId} {m : Mapping}

/-- A mapping whose backing goes on, after a step that changes no handle. -/
lemma carries_backing (still : Still s s₁) (hm : s.mapping? map = some m) {b : Backing}
    (h : m.backing.Goes b) :
    Carries [map] s (s₁.setHandle map (.mapping { m with backing := b })) :=
  .set still (List.mem_singleton.2 rfl) (mapping?_eq_some.1 hm) (.mapping (.of_backing m h))

/-- A mapping whose view is set goes on. -/
lemma carries_setView (hm : s.mapping? map = some m) (hv : m.backing.isValid = true) (v : Bytes) :
    Carries [map] s (s.setView map m v) := by
  unfold setView
  cases hb : m.backing with
  | file b =>
    dsimp only
    split
    · exact (still_disk s _).carries
    · exact .refl s
  | entry b =>
    dsimp only
    split
    · exact (still_setTable s _ _).carries
    · exact .refl s
  | buffer b =>
    have hsome : b.buffer.isSome = true := by
      rw [hb] at hv
      exact hv
    exact carries_backing (.refl s) hm (hb ▸ .buffer hsome.symm rfl)

/-- Bytes that can be changed are bytes that are shown. -/
lemma isValid_of_mutableView? {v : Bytes} (h : s.mutableView? m = some v) :
    m.backing.isValid = true := by
  rw [← isSome_view? s m, (mutableView?_eq_some.1 h).2]
  rfl

/-- A mapping goes on when it is written through. -/
lemma carries_writeAt (s : Store κ) (map : HandleId) (offset : Nat) (b : Bytes) :
    Carries [map] s (s.writeAt map offset b).1 := by
  unfold writeAt
  split
  · exact .refl s
  · next m hm =>
    split
    · exact .refl s
    · split
      · exact .refl s
      · next v hv =>
        split
        · exact carries_setView hm (isValid_of_mutableView? hv) _
        · exact .refl s

/-- It goes on when it is filled. -/
lemma carries_fillView (s : Store κ) (map : HandleId) (byte : UInt8) :
    Carries [map] s (s.fillView map byte).1 := by
  unfold fillView
  split
  · exact .refl s
  · next m hm =>
    split
    · exact .refl s
    · next v hv => exact carries_setView hm (isValid_of_mutableView? hv) _

/-- A mapping of a file goes on when its length changes. -/
lemma carries_resizeFile (hm : s.mapping? map = some m) {b : FileBacking}
    (hb : m.backing = .file b) (n : UInt64) : Carries [map] s (s.resizeFile map m b n).1 := by
  have changed : ∀ (d : Disk) (b' : FileBacking),
      Carries [map] s (({ s.writeBack m with disk := d } : Store κ).setHandle map
        (.mapping { m with backing := .file b' })) := fun d b' =>
    carries_backing ((still_writeBack s m).trans (still_disk _ d)) hm (hb ▸ .file b b')
  unfold resizeFile
  split
  · dsimp only
    split
    · exact changed _ _
    · exact changed _ _
  · exact .refl s
  · exact .refl s

/-- So does a mapping of an entry. -/
lemma carries_resizeEntry (hm : s.mapping? map = some m) {b : EntryBacking}
    (hb : m.backing = .entry b) (n : UInt64) : Carries [map] s (s.resizeEntry map m b n).1 := by
  unfold resizeEntry
  split
  · next t e hbor hview =>
    split
    · exact .refl s
    · refine carries_backing (still_setTable s _ _) hm ?_
      rw [hb]
      exact .entry rfl rfl fun h => absurd hview h
  · exact .refl s

/-- So does a mapping of a buffer. -/
lemma carries_resizeBuffer (hm : s.mapping? map = some m) {b : BufferBacking}
    (hb : m.backing = .buffer b) (n : UInt64) : Carries [map] s (s.resizeBuffer map m b n).1 := by
  unfold resizeBuffer
  split
  · exact .refl s
  · next v hv =>
    split
    · exact .refl s
    · refine carries_backing (.refl s) hm ?_
      rw [hb]
      exact .buffer (by rw [hv]; rfl) rfl

/-- A mapping goes on when its length changes, whatever it maps. -/
lemma carries_resize (s : Store κ) (map : HandleId) (n : UInt64) :
    Carries [map] s (s.resize map n).1 := by
  unfold resize
  split
  · exact .refl s
  · next m hm =>
    split
    · exact .refl s
    · split
      · next b hb => exact carries_resizeFile hm hb n
      · next b hb => exact carries_resizeEntry hm hb n
      · next b hb => exact carries_resizeBuffer hm hb n

/-- A flush changes no handle and no row. -/
lemma still_flush (s : Store κ) (map : HandleId) : Still s (s.flush map) := by
  unfold flush
  split
  · exact .refl s
  · exact still_writeBack s _

/-- A caller registers a hook at a mapping: it waits, or it runs at once. -/
lemma carries_registerHook [DecidableEq κ] (s : Store κ) (map : HandleId) (name : String)
    (failure : Option String) (probe : Option ClaimId) :
    Carries [map] s (s.registerHook map (.record name failure probe)) := by
  unfold registerHook register
  split
  · exact .refl s
  · next m hm =>
    split
    · have still : Still s (s.runHook .empty (.record name failure probe)).1 :=
        .of_eq rfl rfl rfl rfl
      exact Carries.set still (List.mem_singleton.2 rfl) (mapping?_eq_some.1 hm)
        (.mapping (.of_backing m (.refl m.backing)))
    · next hf =>
      refine .set (.refl s) (List.mem_singleton.2 rfl) (mapping?_eq_some.1 hm) (.mapping ?_)
      refine ⟨rfl, rfl, ⟨[_], rfl, fun k hk => ?_⟩, fun hfired => absurd hfired hf, .refl _⟩
      obtain rfl := List.mem_singleton.1 hk
      rfl

end Mappings

/-! ### Readers -/

section Readers

variable {reader : HandleId} {r : Reader}

/-- A reader goes on at another position. -/
lemma carries_position (hr : s.reader? reader = some r) (hmem : reader ∈ hs) (position : Nat) :
    Carries hs s (s.setHandle reader (.reader { r with position })) :=
  .set (.refl s) hmem (reader?_eq_some.1 hr) (.reader r position)

/-- A reader goes on when it is read. -/
lemma carries_deliver (s : Store κ) (hmem : reader ∈ hs) (n : Nat) :
    Carries hs s (s.deliver reader n).1 := by
  unfold deliver
  split
  · exact .refl s
  · next r hr =>
    split
    · exact .refl s
    · exact carries_position hr hmem _

/-- It goes on when it fills a buffer. -/
lemma carries_readData (s : Store κ) (reader : HandleId) (buffer : Bytes) (maxLen : Nat) :
    Carries [reader] s (s.readData reader buffer maxLen).1 :=
  readData_induction (P := Carries [reader] s)
    (fun s' n h => h.trans (carries_deliver s' (List.mem_singleton.2 rfl) n)) (.refl s) buffer
    maxLen

/-- It goes on when it is read to its end. -/
lemma carries_readToEnd (s : Store κ) (reader : HandleId) :
    Carries [reader] s (s.readToEnd reader).1 := by
  unfold readToEnd
  split
  · exact .refl s
  · split
    · exact .refl s
    · exact carries_deliver s (List.mem_singleton.2 rfl) _

/-- It goes on when it is moved. -/
lemma carries_seek (s : Store κ) (reader : HandleId) (offset : Nat) :
    Carries [reader] s (s.seek reader offset).1 := by
  unfold seek
  split
  · exact .refl s
  · next r hr =>
    split
    · exact .refl s
    · exact carries_position hr (List.mem_singleton.2 rfl) _

end Readers

/-! ### Writers -/

section Writers

variable {writer : HandleId}

/-- A sink that takes bytes goes on. -/
lemma still_writeSink {sink sink' : Sink} {b : Bytes} (h : s.writeSink sink b = .ok (s', sink')) :
    Still s s' ∧ sink.Goes sink' := by
  unfold writeSink at h
  split at h
  · obtain ⟨rfl, rfl⟩ := Prod.mk.inj (Except.ok.inj h)
    exact ⟨still_disk s _, .refl _⟩
  · obtain ⟨rfl, rfl⟩ := Prod.mk.inj (Except.ok.inj h)
    exact ⟨still_disk s _, .file _ _ _⟩
  · split at h
    · obtain ⟨rfl, rfl⟩ := Prod.mk.inj (Except.ok.inj h)
      exact ⟨still_setTable s _ _, .refl _⟩
    · cases h
    · cases h
  · obtain ⟨rfl, rfl⟩ := Prod.mk.inj (Except.ok.inj h)
    exact ⟨.refl s, .row _ _ _ _⟩

/-- A writer goes on when it takes bytes. -/
lemma carries_accept (s : Store κ) (hmem : writer ∈ hs) (b : Bytes) :
    Carries hs s (s.accept writer b).1 := by
  unfold accept
  split
  · exact .refl s
  · next w hw =>
    split
    · split
      · exact .refl s
      · next s' sink hsink =>
        obtain ⟨still, hgoes⟩ := still_writeSink hsink
        exact .set still hmem (writer?_eq_some.1 hw) (.writer hgoes _)
    · exact .refl s

/-- It goes on when it takes bytes in full. -/
lemma carries_writeAll (s : Store κ) (hmem : writer ∈ hs) (b : Bytes) :
    Carries hs s (s.writeAll writer b).1 := by
  unfold writeAll
  split
  · exact .refl s
  · exact carries_accept s hmem b

/-- It goes on when it takes a payload. -/
lemma carries_writeData (s : Store κ) (writer : HandleId) (b : Bytes) :
    Carries [writer] s (s.writeData writer b).1 := by
  have h := carries_writeAll s (List.mem_singleton.2 (rfl : writer = writer)) b
  unfold writeData
  split <;> next heq => rw [heq] at h; exact h

/-- Both handles of a copy go on. -/
lemma carries_copy {reader : HandleId} {r : Except IoError Nat}
    (h : s.copy reader writer = some (s', r)) : Carries [reader, writer] s s' :=
  copy_induction (P := Carries [reader, writer] s)
    (fun s' n h => h.trans (carries_deliver s' (by simp) n))
    (fun s' b _ h => h.trans (carries_writeAll s' (by simp) b)) (.refl s) h

end Writers

end Store

end ClaimStore
