import ClaimStore.Proofs.MappingOpens
import ClaimStore.Proofs.ValueViews

/-!
# Sessions

A session is all that is done with a store over time: the operations of repositories, of entry
tables and on handles, whatever fails on the way, and also mappings of files and of buffers that
belong to no repository, and changes of length that fail half-way. Each action leaves the mappings
as they are, opens one more, or does something with one of them.

## Main definitions

* `ClaimStore.Action` — something that is done with a store.
* `Store.act`, `Store.session` — the state after one action, and after many.
* `Store.Turns` — what an action makes of the mappings.

## Main results

* `Store.Turns.backing_eq` — a mapping that is read-only, or has no view any more, stays at its
  place.
* `Store.turns_act` — what every action makes of the mappings.
-/

set_option autoImplicit false

namespace ClaimStore

/-! ### Actions -/

/-- **Something that is done with a store.** -/
inductive Action (κ : Type) where
  /-- An operation, with what fails in it. -/
  | operate (f : Faults) (op : Operation κ)
  /-- Maps a file that belongs to no repository. -/
  | mapFile (p : Path) (n : UInt64) (readOnly : Bool) (gate : Option Gate)
  /-- Maps a buffer. -/
  | mapBuffer (b : Bytes) (readOnly : Bool) (capacity : Option Nat)
  /-- Changes the length of a mapping, with what fails in that. -/
  | resize (f : MappingFaults) (map : HandleId) (n : UInt64)

namespace Action

variable {κ : Type}

/-- The action unmaps this mapping. -/
def Unmaps (map : HandleId) (a : Action κ) : Prop := ∃ f, a = .operate f (.unmap map)

/-- The action drops this handle. -/
def Drops (h : HandleId) (a : Action κ) : Prop := ∃ f, a = .operate f (.drop h)

end Action

namespace Store

section Acts

variable {κ : Type} [DecidableEq κ] [ToString κ]

/-- The state after an action. -/
def act (s : Store κ) : Action κ → Store κ
  | .operate f op => s.stepUnder f op
  | .mapFile p n readOnly gate => (s.mapFile p n readOnly gate).1
  | .mapBuffer b readOnly capacity => (s.mapBuffer b readOnly capacity).1
  | .resize f map n => (s.resizeWith f map n).1

/-- The state after actions, one after the other. -/
def session (s : Store κ) (as : List (Action κ)) : Store κ := as.foldl act s

/-- No actions change nothing. -/
@[simp] theorem session_nil (s : Store κ) : s.session [] = s := rfl

/-- The first action of a session is made first. -/
@[simp] theorem session_cons (s : Store κ) (a : Action κ) (as : List (Action κ)) :
    s.session (a :: as) = (s.act a).session as := rfl

/-- **What every action preserves, every session preserves.** -/
theorem session_induction {P : Store κ → Prop} {s : Store κ} {as : List (Action κ)}
    (hact : ∀ s, ∀ a ∈ as, P s → P (s.act a)) (hs : P s) : P (s.session as) := by
  induction as generalizing s with
  | nil => exact hs
  | cons a as ih =>
    exact ih (fun s' a' ha' => hact s' a' (List.mem_cons_of_mem a ha'))
      (hact s a List.mem_cons_self hs)

end Acts

variable {κ : Type} {s s' : Store κ} {l : Ledger} {map : HandleId} {m : Mapping}

/-! ### What becomes of the mappings -/

/-- **What an action makes of the mappings.** -/
inductive Turns (s s' : Store κ) (a : Action κ) : Prop
  /-- They stay. -/
  | keeps (eq : s'.mapping? = s.mapping?)
  /-- One more is opened, in one of the forms. -/
  | opens {m : Mapping} (shaped : m.Shaped)
      (eq : ∀ i, s'.mapping? i = if i = s.handles.length then some m else s.mapping? i)
  /-- One that is writable and shows bytes is changed. -/
  | works {map : HandleId} {m m' : Mapping} (live : s.mapping? map = some m)
      (writable : m.readOnly = false) (shows_ : m.backing.closed ≠ m.backing)
      (readOnly_eq : m'.readOnly = m.readOnly) (shaped : m.Shaped → m'.Shaped)
      (eq : ∀ i, s'.mapping? i = if i = map then some m' else s.mapping? i)
  /-- One has other hooks. -/
  | hooks {map : HandleId} {m : Mapping} {u : UnmapHooks} (live : s.mapping? map = some m)
      (eq : ∀ i, s'.mapping? i = if i = map then some { m with hooks := u } else s.mapping? i)
  /-- One is unmapped. -/
  | ends {map : HandleId} {m : Mapping} (unmaps : a.Unmaps map) (live : s.mapping? map = some m)
      (eq : ∀ i, s'.mapping? i = if i = map then some m.ended else s.mapping? i)
  /-- One is dropped. -/
  | drops {h : HandleId} (drops : a.Drops h)
      (eq : ∀ i, s'.mapping? i = if i = h then none else s.mapping? i)

/-- The mappings after one handle was set. -/
lemma mapping?_of_handle? {j : HandleId} {o : Option Handle} {x : Option Mapping}
    (ho : ∀ m, o = some (.mapping m) ↔ x = some m)
    (heq : ∀ i, s'.handle? i = if i = j then o else s.handle? i) (i : HandleId) :
    s'.mapping? i = if i = j then x else s.mapping? i := by
  refine Option.ext fun m => ?_
  rw [mapping?_eq_some, heq]
  split
  · exact ho m
  · exact mapping?_eq_some.symm

/-- They stay, if none is replaced by none. -/
lemma mapping?_of_other {j : HandleId} {o : Option Handle} (ho : ∀ m, o ≠ some (.mapping m))
    (hj : s.mapping? j = none) (heq : ∀ i, s'.handle? i = if i = j then o else s.handle? i) :
    s'.mapping? = s.mapping? := by
  funext i
  rw [mapping?_of_handle? (x := none) (fun m => ⟨fun h => absurd h (ho m), nofun⟩) heq]
  split
  · next hi => rw [hi, hj]
  · rfl

/-- What is left of a mapping that was unmapped has one of the forms. -/
lemma shaped_ended (m : Mapping) : m.ended.Shaped := by
  obtain ⟨backing, readOnly, hooks⟩ := m
  cases backing with
  | file b =>
    refine Mapping.shaped_file (b := { b with opened := none, region := .unmapped }) ?_ _ _
    exact ⟨nofun, nofun⟩
  | entry b =>
    refine ⟨nofun, fun c hc hw => ?_⟩
    obtain rfl := Backing.entry.inj hc
    cases hw
  | buffer b => exact Mapping.shaped_buffer _ _ _

namespace Turns

variable {a : Action κ}

/-- **All mappings keep one of their forms.** -/
lemma shaped (h : Turns s s' a) (hs : ∀ i m, s.mapping? i = some m → m.Shaped) {i : HandleId}
    {m : Mapping} (hm : s'.mapping? i = some m) : m.Shaped := by
  have replaced : ∀ {j : HandleId} {x : Option Mapping}, (∀ m', x = some m' → m'.Shaped) →
      s'.mapping? i = (if i = j then x else s.mapping? i) → m.Shaped := by
    intro j x hx heq
    rw [heq] at hm
    split at hm
    · exact hx m hm
    · exact hs i m hm
  cases h with
  | keeps heq => exact hs i m (heq ▸ hm)
  | opens hshaped heq => exact replaced (fun _ h => Option.some.inj h ▸ hshaped) (heq i)
  | works live _ _ _ hshaped heq =>
    exact replaced (fun _ h => Option.some.inj h ▸ hshaped (hs _ _ live)) (heq i)
  | hooks live heq =>
    have hlive := hs _ _ live
    refine replaced (fun m' h => ?_) (heq i)
    obtain rfl := Option.some.inj h
    exact ⟨hlive.file, hlive.entry⟩
  | ends _ _ heq => exact replaced (fun _ h => Option.some.inj h ▸ shaped_ended _) (heq i)
  | drops _ heq => exact replaced (x := none) (fun _ h => nomatch h) (heq i)

/-- **A mapping that is read-only, or has no view any more, stays at its place** until it is
unmapped or dropped, and one without a view also when it is unmapped.

**Proof sketch.** By what the action makes of the mappings. What changes a mapping or ends it is
another one, as this one is read-only or shows nothing; new hooks leave the backing. -/
lemma backing_eq (h : Turns s s' a) (hm : s.mapping? map = some m)
    (hstill : m.readOnly = true ∧ ¬ a.Unmaps map ∨ m.backing.closed = m.backing)
    (hdrops : ¬ a.Drops map) :
    ∃ m', s'.mapping? map = some m' ∧ m'.backing = m.backing ∧ m'.readOnly = m.readOnly := by
  have hlt : map < s.handles.length := lt_of_handle? (mapping?_eq_some.1 hm)
  have other : ∀ {j : HandleId} {x : Option Mapping}, map ≠ j →
      s'.mapping? map = (if map = j then x else s.mapping? map) →
        ∃ m', s'.mapping? map = some m' ∧ m'.backing = m.backing ∧ m'.readOnly = m.readOnly :=
    fun hne heq => ⟨m, by rw [heq, if_neg hne, hm], rfl, rfl⟩
  have self : ∀ {j : HandleId} {x : Mapping}, s.mapping? j = some x → map = j → x = m :=
    fun hx hij => Option.some.inj (hx.symm.trans (hij ▸ hm))
  cases h with
  | keeps heq => exact ⟨m, heq ▸ hm, rfl, rfl⟩
  | opens _ heq => exact other (Nat.ne_of_lt hlt) (heq map)
  | @works j x x' live hro hshows _ _ heq =>
    refine other (fun hij => ?_) (heq map)
    obtain rfl := self live hij
    rcases hstill with ⟨htrue, -⟩ | hclosed
    · rw [hro] at htrue
      cases htrue
    · exact hshows hclosed
  | @hooks j x u live heq =>
    by_cases hij : map = j
    · obtain rfl := self live hij
      exact ⟨{ x with hooks := u }, (heq map).trans (if_pos hij), rfl, rfl⟩
    · exact other hij (heq map)
  | @ends j x hunmaps live heq =>
    by_cases hij : map = j
    · obtain rfl := self live hij
      refine ⟨x.ended, (heq map).trans (if_pos hij), ?_, rfl⟩
      exact hstill.elim (fun h => absurd (hij ▸ hunmaps) h.2) fun h => h
    · exact other hij (heq map)
  | drops hd heq => exact other (fun hij => hdrops (hij ▸ hd)) (heq map)

/-- The same handles are the same mappings. -/
lemma congr {s'' : Store κ} (h : Turns s s' a) (heq : s''.mapping? = s'.mapping?) :
    Turns s s'' a := by
  cases h with
  | keeps eq => exact .keeps (heq.trans eq)
  | opens shaped eq => exact .opens shaped fun i => heq ▸ eq i
  | works live hro hshows hro' shaped eq =>
    exact .works live hro hshows hro' shaped fun i => heq ▸ eq i
  | hooks live eq => exact .hooks live fun i => heq ▸ eq i
  | ends unmaps live eq => exact .ends unmaps live fun i => heq ▸ eq i
  | drops hd eq => exact .drops hd fun i => heq ▸ eq i

/-- The handles stay. -/
lemma of_handles (h : s'.handles = s.handles) : Turns s s' a := .keeps (mapping?_congr h)

/-- A handle is made. -/
lemma added {x : Handle} (h : Added x s s') (hx : ∀ m, x = .mapping m → m.Shaped) :
    Turns s s' a := by
  have hnone : s.mapping? s.handles.length = none := by
    cases hm : s.mapping? s.handles.length with
    | none => rfl
    | some m => exact absurd (lt_of_handle? (mapping?_eq_some.1 hm)) (Nat.lt_irrefl _)
  cases x with
  | mapping m =>
    exact .opens (hx m rfl) (mapping?_of_handle? (fun m' => by simp) h.handle?)
  | _ => exact .keeps (mapping?_of_other (by simp) hnone h.handle?)

/-- An open that answers with a handle makes one. -/
lemma makes {form : Store κ → Handle → Prop} {r : Store κ × Except Failure HandleId}
    (h : Makes form s r) (hform : ∀ s' x, form s' x → ∀ m, x = .mapping m → m.Shaped) :
    Turns s r.1 a := by
  cases h with
  | made hadded hf => exact added hadded (hform _ _ hf)
  | failed f still => exact of_handles still.handles_eq

/-- A mapping advances, if it is writable and shows bytes. -/
lemma advances {m' : Mapping} (h : Advances map m s m' s') (hm : s.mapping? map = some m)
    (hstill : m.readOnly = true ∨ m.backing.closed = m.backing → s' = s) : Turns s s' a := by
  by_cases hw : m.readOnly = true ∨ m.backing.closed = m.backing
  · exact of_handles (hstill hw ▸ rfl)
  · push Not at hw
    refine .works hm (Bool.eq_false_iff.2 hw.1) hw.2 h.readOnly_eq h.shaped fun i => ?_
    split
    · next hi => exact hi ▸ h.mapping_eq
    · next hi => exact h.other_eq i hi

end Turns

/-! ### Handles of other sorts -/

section Streams

/-- The mappings after a reader moved. -/
lemma mapping?_setReader {h : HandleId} {r r' : Reader} (hr : s.reader? h = some r) :
    (s.setHandle h (.reader r')).mapping? = s.mapping? := by
  have hx := reader?_eq_some.1 hr
  refine mapping?_of_other (by simp) ?_ (handle?_setHandle hx)
  rw [mapping?, hx]

/-- The mappings after a writer took bytes. -/
lemma mapping?_setWriter {h : HandleId} {w w' : Writer} (hw : s.writer? h = some w) :
    (s.setHandle h (.writer w')).mapping? = s.mapping? := by
  have hx := writer?_eq_some.1 hw
  refine mapping?_of_other (by simp) ?_ (handle?_setHandle hx)
  rw [mapping?, hx]

/-- A read leaves the mappings. -/
lemma mapping?_deliver (s : Store κ) (reader : HandleId) (n : Nat) :
    (s.deliver reader n).1.mapping? = s.mapping? := by
  unfold deliver
  split
  · rfl
  · next r hr =>
    split
    · rfl
    · exact mapping?_setReader hr

/-- A reader that is moved leaves the mappings. -/
lemma mapping?_seek (s : Store κ) (reader : HandleId) (offset : Nat) :
    (s.seek reader offset).1.mapping? = s.mapping? := by
  unfold seek
  split
  · rfl
  · next r hr =>
    split
    · rfl
    · exact mapping?_setReader hr

/-- A read to the end leaves the mappings. -/
lemma mapping?_readToEnd (s : Store κ) (reader : HandleId) :
    (s.readToEnd reader).1.mapping? = s.mapping? := by
  unfold readToEnd
  split
  · rfl
  · split
    · rfl
    · exact mapping?_deliver s reader _

/-- Bytes that a writer takes leave the mappings. -/
lemma mapping?_accept (s : Store κ) (writer : HandleId) (b : Bytes) :
    (s.accept writer b).1.mapping? = s.mapping? := by
  unfold accept
  split
  · rfl
  · next w hw =>
    split
    · split
      · rfl
      · next s' sink hsink =>
        have hh := (still_writeSink hsink).1.handles_eq
        have hw' : s'.writer? writer = some w :=
          writer?_eq_some.2 ((handle?_congr hh writer).trans (writer?_eq_some.1 hw))
        exact (mapping?_setWriter hw').trans (mapping?_congr hh)
    · rfl

/-- So do bytes that it takes in full. -/
lemma mapping?_writeAll (s : Store κ) (writer : HandleId) (b : Bytes) :
    (s.writeAll writer b).1.mapping? = s.mapping? := by
  unfold writeAll
  split
  · rfl
  · exact mapping?_accept s writer b

/-- So does a payload. -/
lemma mapping?_writeData (s : Store κ) (writer : HandleId) (b : Bytes) :
    (s.writeData writer b).1.mapping? = s.mapping? := by
  have h := mapping?_writeAll s writer b
  unfold writeData
  split <;> next heq => rw [heq] at h; exact h

/-- A close leaves the mappings. -/
lemma mapping?_close (s : Store κ) (writer : HandleId) :
    (s.close writer).mapping? = s.mapping? := by
  cases hw : s.writer? writer with
  | none => rw [close_none hw]
  | some w =>
    cases hopen : w.isOpen with
    | false => rw [close_closed hw hopen]
    | true =>
      have hx := writer?_eq_some.1 hw
      refine mapping?_of_other (by simp) ?_ ((ended_close hw hopen).handle? hx)
      rw [mapping?, hx]

end Streams

/-! ### Mappings that do not change -/

/-- Nothing is written through a mapping that is read-only or has no view any more. -/
lemma writeAt_still (hm : s.mapping? map = some m)
    (h : m.readOnly = true ∨ m.backing.closed = m.backing) (offset : Nat) (b : Bytes) :
    (s.writeAt map offset b).1 = s := by
  unfold writeAt
  rw [hm]
  dsimp only
  split
  · rfl
  · next hro =>
    rw [mutableView?_closed (h.resolve_left hro)]

/-- Nor is such a mapping filled. -/
lemma fillView_still (hm : s.mapping? map = some m)
    (h : m.readOnly = true ∨ m.backing.closed = m.backing) (byte : UInt8) :
    (s.fillView map byte).1 = s := by
  have hnone : s.mutableView? m = none := by
    rcases h with hro | hclosed
    · rw [mutableView?, if_pos hro]
    · exact mutableView?_closed hclosed
  unfold fillView
  rw [hm]
  dsimp only
  rw [hnone]

/-- Nor does its length change. -/
lemma resizeWith_still (hm : s.mapping? map = some m)
    (h : m.readOnly = true ∨ m.backing.closed = m.backing) (f : MappingFaults) (n : UInt64) :
    (s.resizeWith f map n).1 = s := by
  rcases h with hro | hclosed
  · rw [resizeWith, hm]
    dsimp only
    rw [if_pos hro]
  · rw [resizeWith_closed f hm hclosed]

/-- A change of length, whatever fails in it, changes a mapping that is writable and shows bytes. -/
lemma turns_resizeWith (a : Action κ) (f : MappingFaults) (map : HandleId) (n : UInt64) :
    Turns s (s.resizeWith f map n).1 a := by
  cases hm : s.mapping? map with
  | none => exact .of_handles (by simp [resizeWith, hm])
  | some m =>
    obtain ⟨m', h⟩ := advances_resizeWith f hm n
    exact .advances h hm fun hstill => resizeWith_still hm hstill f n

/-! ### Opens -/

section Opens

/-- A mapping of a file that belongs to no repository. -/
lemma turns_mapFile (a : Action κ) (p : Path) (n : UInt64) (readOnly : Bool)
    (gate : Option Gate) : Turns s (s.mapFile p n readOnly gate).1 a := by
  have shaped : ∀ {b : FileBacking} {m : Mapping}, b.Shaped →
      Handle.mapping ⟨.file { b with gate }, readOnly, .empty⟩ = .mapping m → m.Shaped := by
    intro b m hb hm
    obtain rfl := Handle.mapping.inj hm
    exact Mapping.shaped_file (hb.withGate gate) _ _
  unfold mapFile
  cases readOnly with
  | true =>
    simp only [if_true]
    split
    · exact .of_handles rfl
    · next b hb =>
      exact .added ((Still.refl s).added _) fun m => shaped (FileBacking.shaped_openReadOnly hb)
  | false =>
    simp only [Bool.false_eq_true, if_false]
    split
    · exact .of_handles rfl
    · next d b hb =>
      exact .added ((still_disk s d).added _) fun m => shaped (FileBacking.shaped_openWritable hb)

/-- A mapping of the file of a claim. -/
lemma turns_mapInFiles (a : Action κ) (D : Path) (w g : RegistryId) (c : ClaimId) (n : UInt64)
    (readOnly : Bool) : Turns s (s.mapInFiles D w g c n readOnly).1 a := by
  have shaped : ∀ {b : FileBacking} (gate : Option Gate) {u : UnmapHooks} {m : Mapping}, b.Shaped →
      Handle.mapping ⟨.file { b with gate }, readOnly, u⟩ = .mapping m → m.Shaped := by
    intro b gate u m hb hm
    obtain rfl := Handle.mapping.inj hm
    exact Mapping.shaped_file (hb.withGate gate) _ _
  unfold mapInFiles
  cases readOnly with
  | true =>
    simp only [if_true]
    split
    · exact .of_handles rfl
    · exact .of_handles rfl
    · split
      · exact .of_handles rfl
      · next b hb =>
        have still : Still s (s.takeReadLease g (s.identifier c)) := .of_eq rfl rfl rfl rfl
        exact .added ((still.trans (still_takeReference _ c)).added _) fun m =>
          shaped b.gate (FileBacking.shaped_openReadOnly hb)
  | false =>
    simp only [Bool.false_eq_true, if_false]
    split
    · exact .of_handles rfl
    · next leased hl =>
      have still := still_takeWriteLease hl
      split
      · exact .of_handles rfl
      · next d b hb =>
        exact .added (((still.trans (still_disk _ _)).trans (still_takeReference _ c)).added _)
          fun m => shaped _ (FileBacking.shaped_openWritable hb)

variable [ToString κ]

/-- A mapping of an entry. -/
lemma turns_mapEntry (a : Action κ) (t : TableId) (e : EntryId) (n : UInt64) (readOnly : Bool) :
    Turns s (s.mapEntry t e n readOnly).1 a := by
  unfold mapEntry
  split
  · exact .of_handles rfl
  · refine .added ((still_setTable s t _).added _) fun m hm => ?_
    obtain rfl := Handle.mapping.inj hm
    refine ⟨nofun, fun b hb hw => ?_⟩
    obtain rfl := Backing.entry.inj hb
    cases readOnly with
    | true => cases hw
    | false => rfl

variable [DecidableEq κ]

/-- A mapping of the entry under a key. -/
lemma turns_mapKey (a : Action κ) (t : TableId) (key : Key κ) (n : UInt64) (readOnly : Bool) :
    Turns s (s.mapKey t key n readOnly).1 a := by
  unfold mapKey
  split
  · exact turns_mapEntry a t _ n readOnly
  · refine .added ((Still.refl s).added _) fun m hm => ?_
    obtain rfl := Handle.mapping.inj hm
    refine ⟨nofun, fun b hb hw => ?_⟩
    obtain rfl := Backing.entry.inj hb
    cases hw

/-- A mapping of the content of a claim. -/
lemma turns_mapIn (a : Action κ) {b : Backend} (hb : s.Knows b) (c : ClaimId) (n : UInt64)
    (readOnly : Bool) : Turns s (s.mapIn b c n readOnly).1 a := by
  cases b with
  | files D w g => exact turns_mapInFiles a D w g c n readOnly
  | volatile t w =>
    refine .makes (makes_mapIn hb c n readOnly) fun s' x hx m hm => ?_
    obtain ⟨k, hshows, rfl⟩ := hx
    obtain rfl := Handle.mapping.inj hm
    cases hshows
    refine ⟨nofun, fun b' hb' hw => ?_⟩
    obtain rfl := Backing.entry.inj hb'
    cases readOnly with
    | true => cases hw
    | false => rfl
  | database d p w =>
    refine .makes (makes_mapIn hb c n readOnly) fun s' x hx m hm => ?_
    obtain ⟨k, hshows, rfl⟩ := hx
    obtain rfl := Handle.mapping.inj hm
    cases hshows
    exact Mapping.shaped_buffer _ _ _

end Opens

/-! ### Operations -/

section Operations

variable [DecidableEq κ] [ToString κ]

omit [DecidableEq κ] [ToString κ] in
/-- An operation in a repository. -/
lemma turns_inRepository {a : Action κ} {α : Type} (hs : s.Sound) {r : RepositoryId} {c : ClaimId}
    {act : Store κ → Backend → Store κ × Except Failure α}
    (h : ∀ b, s.Knows b → Turns s (act s b).1 a) : Turns s (s.inRepository r c act).1 a := by
  unfold inRepository
  split
  · next b hb => exact h b (hs.knows hb)
  · exact .of_handles rfl

omit [DecidableEq κ] [ToString κ] in
/-- An operation in the repository of a claim. -/
lemma turns_routed {a : Action κ} {α : Type} (hs : s.Sound) {c : ClaimId}
    {act : Store κ → Backend → Store κ × Except Failure α}
    (h : ∀ b, s.Knows b → Turns s (act s b).1 a) : Turns s (s.routed c act).1 a := by
  unfold routed
  split
  · next r b hb => exact h b (hs.knows (backend?_of_repositoryOf hb))
  · exact .of_handles rfl

omit [ToString κ] in
/-- Readers and writers are no mappings. -/
lemma turns_readIn {a : Action κ} {b : Backend} (hb : s.Knows b) (c : ClaimId) :
    Turns s (s.readIn b c).1 a :=
  .makes (makes_readIn hb c) fun _ _ ⟨_, _, hx⟩ _ hm => nomatch hx.symm.trans hm

omit [ToString κ] in
/-- A writer is no mapping. -/
lemma turns_writeIn {a : Action κ} {b : Backend} (hb : s.Knows b) (c : ClaimId) (append : Bool) :
    Turns s (s.writeIn b c append).1 a :=
  .makes (makes_writeIn hb c append) fun _ _ ⟨_, _, hx⟩ _ hm => nomatch hx.symm.trans hm

omit [ToString κ] in
/-- A hook is registered. -/
lemma turns_registerHook (a : Action κ) (map : HandleId) (name : String) (failure : Option String)
    (probe : Option ClaimId) :
    Turns s (s.registerHook map (.record name failure probe)) a := by
  unfold registerHook
  split
  · exact .of_handles rfl
  · next m hm =>
    have hh : (s.register m.hooks (.record name failure probe)).1.handles = s.handles := by
      unfold register
      split <;> rfl
    refine .hooks (u := (s.register m.hooks (.record name failure probe)).2) hm fun i => ?_
    rw [mapping?_setHandle (mapping?_congr hh ▸ hm), mapping?_congr hh]

/-- An operation on repositories or claims opens no mapping. -/
lemma turns_setup {a : Action κ} {op : Operation κ} (hop : op.group = .setup) :
    Turns s (s.perform op) a := by
  cases op with
  | openRepository kind => exact .of_handles (founds_openRepository s kind).handles_eq
  | closeRepository r => exact .of_handles rfl
  | addClaim x r => exact .of_handles rfl
  | acquire c => exact .added ((still_takeReference s c).added (.reference c)) (by simp)
  | removeContent r c => exact .of_handles (frame_removeContent s r c).handles_eq
  | _ => cases hop

/-- An open of content opens at most one mapping. -/
lemma turns_opening {a : Action κ} (hs : s.Sound) {op : Operation κ} (hop : op.group = .opening) :
    Turns s (s.perform op) a := by
  cases op with
  | mapContent r c n readOnly =>
    exact turns_inRepository hs fun b hb => turns_mapIn _ hb c n readOnly
  | readContent r c => exact turns_inRepository hs fun b hb => turns_readIn hb c
  | writeContent r c append => exact turns_inRepository hs fun b hb => turns_writeIn hb c append
  | mapClaim c n readOnly => exact turns_routed hs fun b hb => turns_mapIn _ hb c n readOnly
  | readClaim c => exact turns_routed hs fun b hb => turns_readIn hb c
  | writeClaim c append => exact turns_routed hs fun b hb => turns_writeIn hb c append
  | _ => cases hop

/-- An operation on a mapping changes it only where it is writable and shows bytes. -/
lemma turns_mapping {a : Action κ} {op : Operation κ} (hop : op.group = .mapping) :
    Turns s (s.perform op) a := by
  cases op with
  | writeAt map offset b =>
    cases hm : s.mapping? map with
    | none => exact .of_handles (by simp [perform, Store.writeAt, hm])
    | some m =>
      obtain ⟨m', h⟩ := advances_writeAt hm offset b
      exact .advances h hm fun hstill => writeAt_still hm hstill offset b
  | fillView map byte =>
    cases hm : s.mapping? map with
    | none => exact .of_handles (by simp [perform, Store.fillView, hm])
    | some m =>
      obtain ⟨m', h⟩ := advances_fillView hm byte
      exact .advances h hm fun hstill => fillView_still hm hstill byte
  | resize map n =>
    show Turns s (s.resize map n).1 _
    have heq : s.resize map n = s.resizeWith .quiet map n :=
      (resizeUnder_quiet s map n).symm.trans (resizeWith_eq (f := .quiet) rfl rfl s map n).symm
    rw [heq]
    exact turns_resizeWith a .quiet map n
  | flush map => exact .of_handles (still_flush s map).handles_eq
  | registerHook map name failure probe => exact turns_registerHook _ map name failure probe
  | _ => cases hop

/-- An operation on a reader or a writer leaves the mappings. -/
lemma turns_stream {a : Action κ} {op : Operation κ} (hop : op.group = .stream) :
    Turns s (s.perform op) a := by
  cases op with
  | readRaw reader n => exact .keeps (mapping?_deliver s reader _)
  | readData reader buffer maxLen =>
    exact .keeps (readData_induction (P := fun s' => s'.mapping? = s.mapping?)
      (fun s' n h => (mapping?_deliver s' reader n).trans h) rfl buffer maxLen)
  | readToEnd reader => exact .keeps (mapping?_readToEnd s reader)
  | seek reader offset => exact .keeps (mapping?_seek s reader offset)
  | writeRaw writer b => exact .keeps (mapping?_accept s writer _)
  | writeData writer b => exact .keeps (mapping?_writeData s writer b.bytes)
  | copy reader writer =>
    rcases s.perform_copy reader writer with heq | ⟨s', r, hcopy, heq⟩ <;> rw [heq]
    · exact .of_handles rfl
    · exact .keeps (copy_induction (P := fun s' => s'.mapping? = s.mapping?)
        (fun s' n h => (mapping?_deliver s' reader n).trans h)
        (fun s' b _ h => (mapping?_writeAll s' writer b).trans h) rfl hcopy)
  | _ => cases hop

/-- An operation that ends a handle ends that mapping, or drops it, or leaves the mappings. -/
lemma turns_ending {f : Faults} {op : Operation κ} (hop : op.group = .ending) :
    Turns s (s.perform op) (.operate f op) := by
  cases op with
  | unmap map =>
    cases hm : s.mapping? map with
    | none => exact .of_handles (congrArg Store.handles (unmap_none hm))
    | some m =>
      exact .ends ⟨f, rfl⟩ hm (mapping?_of_handle? (by simp)
        ((ended_unmap hm).handle? (mapping?_eq_some.1 hm)))
  | close writer => exact .keeps (mapping?_close s writer)
  | drop h =>
    cases hx : s.handle? h with
    | none => exact .of_handles (congrArg Store.handles (drop_none hx))
    | some x =>
      exact .drops ⟨f, rfl⟩ (mapping?_of_handle? (by simp) ((ended_drop hx).handle? hx))
  | _ => cases hop

/-- A call on a table opens at most one mapping. -/
lemma turns_calls (a : Action κ) : TableCalls s fun _ s' => Turns s s' a where
  none _ := .of_handles rfl
  addTable _ _ := .of_handles rfl
  insertEntry t _ _ := by
    unfold insertEntry
    split
    · exact .of_handles rfl
    · exact .added ((still_setTable s t _).added _) (by simp)
  borrowEntry t _ _ := by
    unfold borrowEntry
    split
    · exact .of_handles rfl
    · exact .added ((still_setTable s t _).added _) (by simp)
  cloneBorrow _ t _ _ := .added ((still_setTable s t _).added _) (by simp)
  removeEntry _ _ _ := .of_handles rfl
  lockValue _ _ t _ _ := by
    unfold lockValue
    split
    · exact .of_handles rfl
    · exact .added ((still_setTable s t _).added _) (by simp)
  storeValue _ offset b t e _ := .of_handles (still_storeValue s t e offset b).handles_eq
  resizeValue _ _ n t e _ _ := .of_handles (still_resizeValue s t e n).handles_eq
  appendValue _ _ b t e _ _ := .of_handles (still_appendValue s t e b.bytes).handles_eq
  mapKey t key n readOnly _ := turns_mapKey a t key n readOnly
  mapBorrow _ n readOnly t e _ := turns_mapEntry a t e n readOnly

/-- **What an operation makes of the mappings.** -/
lemma turns_step (hs : s.Sound) {f : Faults} (op : Operation κ) :
    Turns s (s.step op) (.operate f op) := by
  unfold step
  split
  swap
  · exact .of_handles rfl
  next happ =>
  cases hop : op.group with
  | setup => exact turns_setup hop
  | opening => exact turns_opening hs hop
  | mapping => exact turns_mapping hop
  | stream => exact turns_stream hop
  | ending => exact turns_ending hop
  | table => exact (turns_calls (.operate f op)).perform hop happ

/-- **What an action makes of the mappings.** -/
lemma turns_act (hs : s.Sound) (a : Action κ) : Turns s (s.act a) a := by
  cases a with
  | operate f op =>
    rcases s.stepUnder_cases f op with h | alike
    · exact .of_handles (congrArg Store.handles h)
    · exact (turns_step hs op).congr (mapping?_congr alike.handles_eq)
  | mapFile p n readOnly gate => exact turns_mapFile _ p n readOnly gate
  | mapBuffer b readOnly capacity =>
    refine .added ((Still.refl s).added _) fun m hm => ?_
    obtain rfl := Handle.mapping.inj hm
    exact Mapping.shaped_buffer _ _ _
  | resize f map n => exact turns_resizeWith _ f map n

end Operations

end Store

end ClaimStore
