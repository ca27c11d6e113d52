import ClaimStore.Proofs.Effects
import ClaimStore.Proofs.ReaderBytes

/-!
# Drafts

What a writer or a writable mapping is going to store can be told from how it was opened and from
the operations on it that succeeded since: these make a draft, which gives bytes for whatever is
stored at the moment when it is applied. What a handle on a row has not saved yet is changed by an
operation just as its draft says.

## Main definitions

* `ClaimStore.Edit`, `ClaimStore.Draft` — changes of content, and how they begin.
* `Store.edit?` — the change that an operation makes, if it succeeds.
* `ClaimStore.Drafts`, `Drafts.after`, `ClaimStore.draftsOf` — the drafts, after one operation and
  after a run.

## Main results

* `Store.unsaved_step` — an operation changes what a handle has not saved by its edit.
-/

set_option autoImplicit false

namespace ClaimStore

/-! ### Changes of content -/

/-- A change of content. -/
inductive Edit where
  /-- Bytes are added. -/
  | write (b : Bytes)
  /-- Bytes are laid over a range. -/
  | patch (offset : Nat) (b : Bytes)
  /-- All bytes become the same. -/
  | fill (byte : UInt8)
  /-- The content is cut or zero-padded. -/
  | resize (n : Nat)
  deriving DecidableEq, Repr

/-- The content after a change. -/
def Edit.apply : Edit → Bytes → Bytes
  | .write b, v => v ++ b
  | .patch offset b, v => Bytes.patch offset b v
  | .fill byte, v => .replicate v.size byte
  | .resize n, v => v.fit n

/-- What changes are applied to. -/
inductive Draft.Start where
  /-- Nothing, whatever is stored. -/
  | replace
  /-- What is stored, or nothing. -/
  | append
  /-- What is stored, or nothing, cut or zero-padded to `n` bytes. -/
  | map (n : Nat)
  deriving DecidableEq, Repr

/-- The bytes that changes are applied to. -/
def Draft.Start.bytes : Draft.Start → Option Bytes → Bytes
  | .replace, _ => .empty
  | .append, row => row.getD .empty
  | .map n, row => (row.getD .empty).fit n

/-- Changes that are not stored yet, oldest first. -/
structure Draft where
  /-- What they are applied to. -/
  start : Draft.Start
  /-- The changes. -/
  edits : List Edit
  deriving DecidableEq, Repr

namespace Draft

/-- **What a draft makes of what is stored.** -/
def result (δ : Draft) (row : Option Bytes) : Bytes :=
  δ.edits.foldl (fun v e => e.apply v) (δ.start.bytes row)

/-- One more change. -/
def amend (δ : Draft) (e : Edit) : Draft := { δ with edits := δ.edits ++ [e] }

/-- A new draft leads to what it starts from. -/
@[simp] lemma result_new (start : Draft.Start) (row : Option Bytes) :
    (⟨start, []⟩ : Draft).result row = start.bytes row := rfl

/-- An edit that is added comes last. -/
@[simp] lemma result_amend (δ : Draft) (e : Edit) (row : Option Bytes) :
    (δ.amend e).result row = e.apply (δ.result row) := by
  rw [result, amend, List.foldl_append, List.foldl_cons, List.foldl_nil, result]

end Draft

/-! ### Drafts of handles -/

/-- A change of a handle, if the answer is a success. -/
def Edit.made {ε α : Type} (h : HandleId) (e : Edit) : Except ε α → Option (HandleId × Edit)
  | .ok _ => some (h, e)
  | .error _ => none

/-- The draft that an open begins with, if the answer is a handle. -/
def Draft.Start.made (start : Draft.Start) :
    Except Failure HandleId → Option (HandleId × Draft.Start)
  | .ok h => some (h, start)
  | .error _ => none

namespace Store

variable {κ : Type}

/-- The change of content that an operation makes, if it succeeds, and the handle that it changes.
A copy writes what its reader delivers up to the end. -/
def edit? (s : Store κ) : Operation κ → Option (HandleId × Edit)
  | .writeAt map offset b => Edit.made map (.patch offset b) (s.writeAt map offset b).2
  | .fillView map byte => (s.fillView map byte).2.map fun _ => (map, .fill byte)
  | .resize map n => Edit.made map (.resize n.toNat) (s.resize map n).2
  | .writeRaw writer b =>
    Edit.made writer (.write (s.offered writer b.bytes)) (s.writeRaw writer b.bytes).2
  | .writeData writer b => Edit.made writer (.write b.bytes) (s.writeData writer b.bytes).2
  | .copy reader writer =>
    match s.copy reader writer, (s.readToEnd reader).2 with
    | some (_, .ok _), .ok b => some (writer, .write b)
    | _, _ => none
  | _ => none

variable [DecidableEq κ] [ToString κ]

/-- The draft that an operation begins, if it opens a writer or a writable mapping. -/
def begun? (s : Store κ) : Operation κ → Option (HandleId × Draft.Start)
  | .writeContent r c append =>
    Draft.Start.made (if append then .append else .replace) (s.writeContent r c append).2
  | .writeClaim c append =>
    Draft.Start.made (if append then .append else .replace) (s.writeClaim c append).2
  | .mapContent r c n false => Draft.Start.made (.map n.toNat) (s.mapContent r c n false).2
  | .mapClaim c n false => Draft.Start.made (.map n.toNat) (s.mapClaim c n false).2
  | _ => none

end Store

/-- The drafts of handles. -/
def Drafts : Type := HandleId → Option Draft

namespace Drafts

/-- There is none. -/
def empty : Drafts := fun _ => none

/-- One more draft, if one was begun. -/
def begin (D : Drafts) : Option (HandleId × Draft.Start) → Drafts
  | some (h, start) => fun i => if i = h then some ⟨start, []⟩ else D i
  | none => D

/-- One more change of a draft, if one was made. -/
def amend (D : Drafts) : Option (HandleId × Edit) → Drafts
  | some (h, e) => fun i => if i = h then (D i).map (·.amend e) else D i
  | none => D

/-- An edit amends the draft of its own handle. -/
lemma amend_some (D : Drafts) (h i : HandleId) (e : Edit) :
    D.amend (some (h, e)) i = if i = h then (D i).map (·.amend e) else D i := rfl

variable {κ : Type} [DecidableEq κ] [ToString κ]

/-- The drafts after an operation. -/
def after (D : Drafts) (s : Store κ) (op : Operation κ) : Drafts :=
  if s.applies op then (D.begin (s.begun? op)).amend (s.edit? op) else D

/-- The drafts after operations, one after the other. -/
def run (D : Drafts) (s : Store κ) : List (Operation κ) → Drafts
  | [] => D
  | op :: ops => (D.after s op).run (s.step op) ops

end Drafts

/-- The drafts of a run from an empty store. -/
def draftsOf {κ : Type} [DecidableEq κ] [ToString κ] (name : String) (ops : List (Operation κ)) :
    Drafts :=
  Drafts.empty.run (Store.onDirectory name) ops

/-! ### Handles that are edited -/

namespace Store

variable {κ : Type} {s s' : Store κ} {h : HandleId} {x : Handle} {d : DatabaseId} {key : String}
  {v : Bytes}

/-- A handle has bytes that it has not saved. -/
def Unsaved (s : Store κ) (h : HandleId) (d : DatabaseId) (key : String) (v : Bytes) : Prop :=
  ∃ x, s.handle? h = some x ∧ x.unsaved? = some (d, key, v)

/-- A handle with unsaved bytes is a mapping of a buffer or an open writer to a row. -/
lemma unsaved_cases (hx : x.unsaved? = some (d, key, v)) :
    (∃ m b hs, x = .mapping m ∧ m.backing = .buffer b ∧ b.buffer = some v ∧
      m.hooks.pending = .store d key :: hs) ∨
      ∃ w l, x = .writer w ∧ w.lease = some l ∧ w.sink = .row d key v := by
  cases x with
  | mapping m =>
    obtain ⟨backing, readOnly, ⟨_ | ⟨k, hs⟩, fired⟩⟩ := m
    · cases hx
    · cases k with
      | store d' key' =>
        cases backing with
        | buffer b =>
          obtain ⟨v', hv, heq⟩ := Option.map_eq_some_iff.1 hx
          obtain ⟨rfl, rfl, rfl⟩ : d' = d ∧ key' = key ∧ v' = v := by simpa using heq
          exact .inl ⟨_, b, hs, rfl, rfl, hv, rfl⟩
        | file => cases hx
        | entry => cases hx
      | hold => cases hx
      | record => cases hx
  | writer w =>
    obtain ⟨c, sink, n, _ | l⟩ := w
    · cases hx
    · cases sink with
      | row d' key' v' =>
        obtain ⟨rfl, rfl, rfl⟩ : d' = d ∧ key' = key ∧ v' = v := by simpa [Handle.unsaved?] using hx
        exact .inr ⟨_, l, rfl, rfl, rfl⟩
      | file => cases hx
      | entry => cases hx
  | _ => cases hx

/-- The bytes of a handle after a change, if it is a change of this handle. -/
def editedBy (o : Option (HandleId × Edit)) (h : HandleId) (v : Bytes) : Bytes :=
  match o with
  | some (h', e) => if h' = h then e.apply v else v
  | none => v

/-- Without an edit the bytes stay. -/
@[simp] lemma editedBy_none (h : HandleId) (v : Bytes) : editedBy none h v = v := rfl

/-- An edit that was made changes the bytes of its handle. -/
@[simp] lemma editedBy_ok {ε α : Type} (h : HandleId) (e : Edit) (a : α) (v : Bytes) :
    editedBy (Edit.made h e (.ok a : Except ε α)) h v = e.apply v := if_pos rfl

/-- An edit that failed changes none. -/
@[simp] lemma editedBy_error {ε α : Type} (h : HandleId) (e : Edit) (f : ε) (v : Bytes) :
    editedBy (Edit.made h e (.error f : Except ε α)) h v = v := rfl

/-- A change of another handle. -/
lemma editedBy_of_ne {o : Option (HandleId × Edit)} (ho : ∀ p, o = some p → p.1 ≠ h) :
    editedBy o h v = v := by
  cases o with
  | none => rfl
  | some p => exact if_neg (ho p rfl)

/-! #### Mappings -/

section Mappings

variable {m : Mapping} {b : BufferBacking} {hs : List Hook}

/-- A mapping of a buffer after its bytes were changed. -/
lemma unsaved_setBuffer (hm : s.mapping? h = some m) (hp : m.hooks.pending = .store d key :: hs)
    (v : Bytes) :
    Unsaved (s.setHandle h (.mapping { m with backing := .buffer { b with buffer := some v } })) h d
      key v := by
  refine ⟨_, (handle?_setHandle (mapping?_eq_some.1 hm) h).trans (if_pos rfl), ?_⟩
  simp [Handle.unsaved?, hp]

/-- What is no mapping has no bytes to be changed in place. -/
lemma mapping?_of_writer {w : Writer} (hx : s.handle? h = some (.writer w)) :
    s.mapping? h = none := by
  rw [mapping?, hx]

/-- A write into a mapping. -/
lemma unsaved_writeAt (hu : Unsaved s h d key v) (offset : Nat) (bytes : Bytes) :
    Unsaved (s.writeAt h offset bytes).1 h d key
      (editedBy (Edit.made h (.patch offset bytes) (s.writeAt h offset bytes).2) h v) := by
  obtain ⟨x, hx, hux⟩ := hu
  have same : Unsaved s h d key v := ⟨x, hx, hux⟩
  rcases unsaved_cases hux with ⟨m, b, hs, rfl, hb, hv, hp⟩ | ⟨w, l, rfl, hl, hk⟩
  · have hm := mapping?_eq_some.2 hx
    have hview : s.view? m = some v := by rw [view?, hb, ← hv]
    unfold writeAt
    rw [hm]
    dsimp only
    split
    · exact same
    · next hro =>
      rw [mutableView?, if_neg hro, hview]
      dsimp only
      split
      · rw [setView, hb, editedBy_ok]
        exact unsaved_setBuffer hm hp (Bytes.patch offset bytes v)
      · exact same
  · rw [writeAt, mapping?_of_writer hx]
    exact same

/-- A fill of a mapping. -/
lemma unsaved_fillView (hu : Unsaved s h d key v) (byte : UInt8) :
    Unsaved (s.fillView h byte).1 h d key
      (editedBy ((s.fillView h byte).2.map fun _ => (h, .fill byte)) h v) := by
  obtain ⟨x, hx, hux⟩ := hu
  have same : Unsaved s h d key v := ⟨x, hx, hux⟩
  rcases unsaved_cases hux with ⟨m, b, hs, rfl, hb, hv, hp⟩ | ⟨w, l, rfl, hl, hk⟩
  · have hm := mapping?_eq_some.2 hx
    have hview : s.view? m = some v := by rw [view?, hb, ← hv]
    unfold fillView
    rw [hm]
    dsimp only
    rw [mutableView?, hview]
    split
    · exact same
    · next hro =>
      split at hro
      · cases hro
      · obtain rfl := Option.some.inj hro
        rw [setView, hb, Option.map_some, editedBy, if_pos rfl]
        exact unsaved_setBuffer hm hp (Bytes.replicate v.size byte)
  · rw [fillView, mapping?_of_writer hx]
    exact same

/-- A change of length of a mapping. -/
lemma unsaved_resize (hu : Unsaved s h d key v) (n : UInt64) :
    Unsaved (s.resize h n).1 h d key
      (editedBy (Edit.made h (.resize n.toNat) (s.resize h n).2) h v) := by
  obtain ⟨x, hx, hux⟩ := hu
  have same : Unsaved s h d key v := ⟨x, hx, hux⟩
  rcases unsaved_cases hux with ⟨m, b, hs, rfl, hb, hv, hp⟩ | ⟨w, l, rfl, hl, hk⟩
  · have hm := mapping?_eq_some.2 hx
    unfold resize
    rw [hm]
    dsimp only
    split
    · exact same
    · rw [hb]
      dsimp only
      unfold resizeBuffer
      rw [hv]
      dsimp only
      split
      · exact same
      · next v' hv' =>
        have hfit : v' = v.fit n.toNat := by
          unfold BufferBacking.resized at hv'
          split at hv'
          · exact (Except.ok.inj hv').symm
          · split at hv'
            · cases hv'
            · exact (Except.ok.inj hv').symm
        rw [hfit, editedBy_ok]
        exact unsaved_setBuffer hm hp (v.fit n.toNat)
  · rw [resize, mapping?_of_writer hx]
    exact same

/-- A hook that a caller registers. -/
lemma unsaved_registerHook [DecidableEq κ] (hu : Unsaved s h d key v) (name : String)
    (failure : Option String) (probe : Option ClaimId) :
    Unsaved (s.registerHook h (.record name failure probe)) h d key v := by
  obtain ⟨x, hx, hux⟩ := hu
  have same : Unsaved s h d key v := ⟨x, hx, hux⟩
  rcases unsaved_cases hux with ⟨m, b, hs, rfl, hb, hv, hp⟩ | ⟨w, l, rfl, hl, hk⟩
  · have hm := mapping?_eq_some.2 hx
    unfold registerHook register
    rw [hm]
    dsimp only
    split
    · refine ⟨_, ?_, hux⟩
      exact (handle?_setHandle (s := (s.runHook .empty (.record name failure probe)).1) hx
        h).trans (if_pos rfl)
    · refine ⟨_, (handle?_setHandle hx h).trans (if_pos rfl), ?_⟩
      simp [Handle.unsaved?, UnmapHooks.push, hp, hb, hv]
  · rw [registerHook, mapping?_of_writer hx]
    exact same

end Mappings

/-! #### Readers -/

section Readers

variable {reader : HandleId}

/-- What is no reader is not the handle of one. -/
lemma ne_of_reader? (hx : s.handle? h = some x) (hr : ∀ r, x ≠ .reader r) {r : Reader}
    (hreader : s.reader? reader = some r) : h ≠ reader := by
  rintro rfl
  exact hr r (Option.some.inj (hx.symm.trans (reader?_eq_some.1 hreader)))

/-- What a read leaves alone. -/
lemma handle?_deliver (hx : s.handle? h = some x) (hr : ∀ r, x ≠ .reader r) (n : Nat) :
    (s.deliver reader n).1.handle? h = some x := by
  unfold deliver
  split
  · exact hx
  · next r hreader =>
    split
    · exact hx
    · rw [handle?_setHandle (reader?_eq_some.1 hreader), if_neg (ne_of_reader? hx hr hreader), hx]

/-- A handle that is no reader stays when a buffer is filled. -/
lemma handle?_readData (hx : s.handle? h = some x) (hr : ∀ r, x ≠ .reader r) (buffer : Bytes)
    (maxLen : Nat) : (s.readData reader buffer maxLen).1.handle? h = some x :=
  readData_induction (P := fun s => s.handle? h = some x)
    (fun _ n hx => handle?_deliver hx hr n) hx buffer maxLen

/-- It stays when a reader goes to its end. -/
lemma handle?_readToEnd (hx : s.handle? h = some x) (hr : ∀ r, x ≠ .reader r) :
    (s.readToEnd reader).1.handle? h = some x := by
  unfold readToEnd
  split
  · exact hx
  · split
    · exact hx
    · exact handle?_deliver hx hr _

/-- It stays when a reader is moved. -/
lemma handle?_seek (hx : s.handle? h = some x) (hr : ∀ r, x ≠ .reader r) (offset : Nat) :
    (s.seek reader offset).1.handle? h = some x := by
  unfold seek
  split
  · exact hx
  · next r hreader =>
    split
    · exact hx
    · rw [handle?_setHandle (reader?_eq_some.1 hreader), if_neg (ne_of_reader? hx hr hreader), hx]

end Readers

/-- A handle with unsaved bytes is no reader. -/
lemma not_reader_of_unsaved (hx : x.unsaved? = some (d, key, v)) (r : Reader) : x ≠ .reader r := by
  rintro rfl
  cases hx

/-! #### Writers -/

section Writers

/-- What is no writer takes no bytes. -/
lemma writer?_of_mapping {m : Mapping} (hx : s.handle? h = some (.mapping m)) :
    s.writer? h = none := by
  rw [writer?, hx]

/-- **A writer to a row takes all bytes.** -/
lemma accept_row {w : Writer} {l : Lease} (hx : s.handle? h = some (.writer w))
    (hl : w.lease = some l) (hk : w.sink = .row d key v) (b : Bytes) :
    ∃ w', s.accept h b = (s.setHandle h (.writer w'), .ok b.size) ∧ w'.lease = some l ∧
      w'.sink = .row d key (v ++ b) := by
  have hopen : w.isOpen = true := by rw [Writer.isOpen, hl]; rfl
  refine ⟨{ w with sink := .row d key (v ++ b), written := w.written + b.size }, ?_, hl, rfl⟩
  rw [accept, writer?_eq_some.2 hx]
  dsimp only
  rw [if_pos hopen, hk]
  rfl

/-- A writer that takes bytes. -/
lemma unsaved_accept (hu : Unsaved s h d key v) (b : Bytes) :
    Unsaved (s.accept h b).1 h d key
      (editedBy (Edit.made h (.write b) (s.accept h b).2) h v) := by
  obtain ⟨x, hx, hux⟩ := hu
  rcases unsaved_cases hux with ⟨m, b', hs, rfl, hb, hv, hp⟩ | ⟨w, l, rfl, hl, hk⟩
  · rw [accept, writer?_of_mapping hx]
    exact ⟨_, hx, hux⟩
  · obtain ⟨w', hwrite, hl', hk'⟩ := accept_row hx hl hk b
    rw [hwrite, editedBy_ok]
    refine ⟨.writer w', (handle?_setHandle hx h).trans (if_pos rfl), ?_⟩
    simp [Handle.unsaved?, hl', hk', Edit.apply]

/-- A writer that takes a payload. An empty one changes nothing. -/
lemma unsaved_writeAll (hu : Unsaved s h d key v) (b : Bytes) :
    Unsaved (s.writeAll h b).1 h d key
      (editedBy (Edit.made h (.write b) (s.writeAll h b).2) h v) := by
  unfold writeAll
  split
  · next hempty =>
    rw [editedBy_ok, Edit.apply, Bytes.isEmpty_iff.1 hempty, Bytes.append_empty]
    exact hu
  · exact unsaved_accept hu b

/-- A writer that is given a payload, as one operation on content. -/
lemma unsaved_writeData (hu : Unsaved s h d key v) (b : Bytes) :
    Unsaved (s.writeData h b).1 h d key
      (editedBy (Edit.made h (.write b) (s.writeData h b).2) h v) := by
  have hall := unsaved_writeAll hu b
  unfold writeData
  split <;> next heq => rw [heq] at hall; exact hall

/-! #### Copies -/

/-- The rest of a source, in two parts. -/
lemma slice_append_slice (c : Bytes) (p n : Nat) :
    c.slice p n ++ c.slice (p + (c.slice p n).size) c.size = c.slice p c.size := by
  rw [Bytes.slice_append_slice]
  apply Bytes.ext
  rw [Bytes.toList_slice, Bytes.toList_slice, List.take_eq_take_iff, List.length_drop,
    Bytes.length_toList]
  omega

/-- Where a chunk is empty, nothing is left. -/
lemma slice_eq_empty {c : Bytes} {p : Nat} (h : c.slice p copyChunk = .empty) :
    c.slice p c.size = .empty := by
  have hsize := congrArg Bytes.size h
  rw [Bytes.size_slice, Bytes.size_empty] at hsize
  refine Bytes.size_eq_zero_iff.1 ?_
  rw [Bytes.size_slice]
  unfold copyChunk at hsize
  omega

/-- **A copy into a writer to a row** writes what its reader delivers up to the end.

**Proof sketch.** Induction on the rounds. A round that delivers nothing finds the reader at the end
of the content, since a chunk is not empty. Any other round moves one slice, and the rest of the
content follows by the induction hypothesis. -/
lemma copyRounds_row {reader : HandleId} {content : Bytes} {r : Reader} {w : Writer} {l : Lease}
    (hr : s.handle? reader = some (.reader r)) (hcontent : s.sourceBytes r.source = .ok content)
    (hx : s.handle? h = some (.writer w)) (hl : w.lease = some l) (hk : w.sink = .row d key v)
    {k total : Nat} {res : Except IoError Nat}
    (hcopy : copyRounds reader h k s total = some (s', res)) :
    (∃ n, res = .ok n) ∧ Unsaved s' h d key (v ++ content.slice r.position content.size) := by
  have hne : h ≠ reader := by
    rintro rfl
    cases hx.symm.trans hr
  induction k generalizing s r w v total with
  | zero => cases hcopy
  | succ k ih =>
    obtain ⟨r', hread, hsource, hposition⟩ : ∃ r', s.deliver reader copyChunk =
        (s.setHandle reader (.reader r'), .ok (content.slice r.position copyChunk)) ∧
          r'.source = r.source ∧
            r'.position = r.position + (content.slice r.position copyChunk).size :=
      ⟨_, deliver_reader hr hcontent copyChunk, rfl, rfl⟩
    have hx₁ : (s.setHandle reader (.reader r')).handle? h = some (.writer w) := by
      rw [handle?_setHandle hr, if_neg hne, hx]
    have hr₁ : (s.setHandle reader (.reader r')).handle? reader = some (.reader r') := by
      rw [handle?_setHandle hr, if_pos rfl]
    rw [copyRounds, readRaw_copyChunk hr, hread] at hcopy
    dsimp only at hcopy
    split at hcopy
    · next hempty =>
      obtain ⟨rfl, rfl⟩ := Prod.mk.inj (Option.some.inj hcopy)
      have hslice := slice_eq_empty (Bytes.isEmpty_iff.1 hempty)
      rw [hslice, Bytes.append_empty]
      exact ⟨⟨total, rfl⟩, .writer w, hx₁, by simp [Handle.unsaved?, hl, hk]⟩
    · next hfull =>
      obtain ⟨w', hwrite, hl', hk'⟩ :=
        accept_row hx₁ hl hk (content.slice r.position copyChunk)
      rw [writeAll, if_neg hfull, hwrite] at hcopy
      dsimp only at hcopy
      have hr₂ : ((s.setHandle reader (.reader r')).setHandle h (.writer w')).handle? reader =
          some (.reader r') := by
        rw [handle?_setHandle hx₁, if_neg hne.symm, hr₁]
      have hx₂ : ((s.setHandle reader (.reader r')).setHandle h (.writer w')).handle? h =
          some (.writer w') := by
        rw [handle?_setHandle hx₁, if_pos rfl]
      have hdone := ih hr₂ (hsource ▸ hcontent) hx₂ hl' hk' hcopy
      have happend : v ++ content.slice r.position copyChunk ++
          content.slice r'.position content.size = v ++ content.slice r.position content.size := by
        rw [hposition, ← slice_append_slice content r.position copyChunk]
        apply Bytes.ext
        simp
      rw [← happend]
      exact hdone

/-- A copy into a handle that has unsaved bytes.

**Proof sketch.** A copy from nothing does nothing. A mapping takes no bytes, so the copy ends at
once or fails. A writer of a row takes all that is left to the reader, round after round. -/
lemma unsaved_copy (hu : Unsaved s h d key v) {reader : HandleId} {res : Except IoError Nat}
    (hcopy : s.copy reader h = some (s', res)) :
    Unsaved s' h d key (editedBy (s.edit? (.copy reader h)) h v) := by
  cases hr : s.reader? reader with
  | none =>
    have hnothing : s.copy reader h = some (s, .ok 0) := by rw [copy, hr]
    have hend : (s.readToEnd reader).2 = .ok .empty := by rw [readToEnd, hr]
    obtain ⟨rfl, rfl⟩ := Prod.mk.inj (Option.some.inj (hnothing.symm.trans hcopy))
    rw [edit?, hnothing, hend, editedBy, if_pos rfl, Edit.apply, Bytes.append_empty]
    exact hu
  | some r =>
    have hr' := reader?_eq_some.1 hr
    have hcopy' := hcopy
    rw [copy, hr] at hcopy'
    dsimp only at hcopy'
    split at hcopy'
    · obtain ⟨rfl, rfl⟩ := Prod.mk.inj (Option.some.inj hcopy')
      rw [edit?, hcopy]
      exact hu
    · next content hcontent =>
      obtain ⟨x, hx, hux⟩ := hu
      rcases unsaved_cases hux with ⟨m, b, hs, rfl, hb, hv, hp⟩ | ⟨w, l, rfl, hl, hk⟩
      · -- a mapping takes no bytes, so the copy fails unless there are none
        obtain ⟨r', hread⟩ : ∃ r', s.deliver reader copyChunk =
            (s.setHandle reader (.reader r'), .ok (content.slice r.position copyChunk)) :=
          ⟨_, deliver_reader hr' hcontent copyChunk⟩
        have hne : h ≠ reader := by
          rintro rfl
          cases hx.symm.trans hr'
        have hx₁ : (s.setHandle reader (.reader r')).handle? h = some (.mapping m) := by
          rw [handle?_setHandle hr', if_neg hne, hx]
        rw [copyRounds, readRaw_copyChunk hr', hread] at hcopy'
        dsimp only at hcopy'
        split at hcopy'
        · next hempty =>
          obtain ⟨rfl, rfl⟩ := Prod.mk.inj (Option.some.inj hcopy')
          rw [edit?, hcopy, readToEnd_reader hr' hcontent, deliver_reader hr' hcontent,
            slice_eq_empty (Bytes.isEmpty_iff.1 hempty), editedBy, if_pos rfl, Edit.apply,
            Bytes.append_empty]
          exact ⟨_, hx₁, hux⟩
        · next hfull =>
          rw [writeAll, if_neg hfull, accept, writer?_of_mapping hx₁] at hcopy'
          obtain ⟨rfl, rfl⟩ := Prod.mk.inj (Option.some.inj hcopy')
          rw [edit?, hcopy]
          exact ⟨_, hx₁, hux⟩
      · obtain ⟨⟨n, rfl⟩, hdone⟩ := copyRounds_row hr' hcontent hx hl hk hcopy'
        rw [edit?, hcopy, readToEnd_reader hr' hcontent, deliver_reader hr' hcontent, editedBy,
          if_pos rfl]
        exact hdone

end Writers

/-! ### Operations -/

/-- What is edited is worked on. -/
lemma mem_carried_of_edit? {op : Operation κ} {p : HandleId × Edit} (h : s.edit? op = some p) :
    p.1 ∈ op.carried := by
  have made : ∀ {ε α : Type} {i : HandleId} {e : Edit} {ans : Except ε α},
      Edit.made i e ans = some p → p.1 = i := by
    intro ε α i e ans h
    cases ans with
    | ok a => exact (congrArg Prod.fst (Option.some.inj h)).symm
    | error f => cases h
  cases op with
  | writeAt map offset b => exact List.mem_singleton.2 (made h)
  | fillView map byte =>
    obtain ⟨v, -, rfl⟩ := Option.map_eq_some_iff.1 h
    exact List.mem_singleton.2 rfl
  | resize map n => exact List.mem_singleton.2 (made h)
  | writeRaw writer b => exact List.mem_singleton.2 (made h)
  | writeData writer b => exact List.mem_singleton.2 (made h)
  | copy reader writer =>
    unfold edit? at h
    dsimp only at h
    split at h
    · obtain rfl := Option.some.inj h
      exact List.mem_cons_of_mem _ (List.mem_singleton.2 rfl)
    · cases h
  | _ => cases h

variable [DecidableEq κ] [ToString κ] {l : Ledger}

/-- **An operation changes what a handle has not saved by its edit**, unless it ends the handle.

**Proof sketch.** A handle that is not worked on stays as it is, and the edit is of another one. For
one that is worked on, by the operation: readers change nothing, and the others change the bytes by
their edit. A handle with unsaved bytes is no reader, so a copy from it does nothing. -/
lemma unsaved_step (ht : Tells l s) (hs : s.Sound) (hu : Unsaved s h d key v) {op : Operation κ}
    (hfin : ¬ Finishes s h op) : Unsaved (s.step op) h d key (editedBy (s.edit? op) h v) := by
  obtain ⟨x, hx, hux⟩ := hu
  have hr := not_reader_of_unsaved hux
  by_cases hmem : h ∈ op.carried
  swap
  · -- it is another handle that is worked on, if any
    have hne : ∀ p, s.edit? op = some p → p.1 ≠ h := by
      rintro p hp rfl
      exact hmem (mem_carried_of_edit? hp)
    rw [editedBy_of_ne hne]
    exact ⟨x, (ht.effect_step hs op).handle?_eq hx hmem hfin, hux⟩
  cases op with
  | writeAt map offset b =>
    obtain rfl := List.mem_singleton.1 hmem
    exact unsaved_writeAt ⟨x, hx, hux⟩ offset b
  | fillView map byte =>
    obtain rfl := List.mem_singleton.1 hmem
    exact unsaved_fillView ⟨x, hx, hux⟩ byte
  | resize map n =>
    obtain rfl := List.mem_singleton.1 hmem
    exact unsaved_resize ⟨x, hx, hux⟩ n
  | registerHook map name failure probe =>
    obtain rfl := List.mem_singleton.1 hmem
    exact unsaved_registerHook ⟨x, hx, hux⟩ name failure probe
  | readRaw reader n => exact ⟨x, handle?_deliver hx hr _, hux⟩
  | readData reader buffer maxLen => exact ⟨x, handle?_readData hx hr buffer maxLen, hux⟩
  | readToEnd reader => exact ⟨x, handle?_readToEnd hx hr, hux⟩
  | seek reader offset => exact ⟨x, handle?_seek hx hr offset, hux⟩
  | writeRaw writer b =>
    obtain rfl := List.mem_singleton.1 hmem
    exact unsaved_accept ⟨x, hx, hux⟩ _
  | writeData writer b =>
    obtain rfl := List.mem_singleton.1 hmem
    exact unsaved_writeData ⟨x, hx, hux⟩ b.bytes
  | copy reader writer =>
    show Unsaved (s.perform (.copy reader writer)) h d key _
    rw [perform]
    by_cases hw : h = writer
    · subst hw
      cases hcopy : s.copy reader h with
      | none =>
        rw [edit?, hcopy]
        exact ⟨x, hx, hux⟩
      | some p => exact unsaved_copy ⟨x, hx, hux⟩ hcopy
    · -- it is copied from, but it is no reader
      obtain rfl : h = reader := by simpa [Operation.carried, hw] using hmem
      have hnone : s.reader? h = none :=
        Option.eq_none_iff_forall_ne_some.2 fun r hread =>
          hr r (Option.some.inj (hx.symm.trans (reader?_eq_some.1 hread)))
      have hcopy : s.copy h writer = some (s, .ok 0) := by rw [copy, hnone]
      rw [editedBy_of_ne, hcopy]
      · exact ⟨x, hx, hux⟩
      · intro p hp
        rw [edit?, hcopy, readToEnd, hnone] at hp
        obtain rfl := Option.some.inj hp
        exact Ne.symm hw
  | _ => cases hmem

end Store

end ClaimStore
