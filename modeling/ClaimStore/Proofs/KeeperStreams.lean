import ClaimStore.Proofs.KeeperMappings
import ClaimStore.Proofs.FillLoop

/-!
# Readers and writers of keepers

While a reader of a keeper is open, it is at the same position in the same bytes as a reader of the
shelf; a writer has collected the same bytes. The store answers to their uses as the shelf does, and
when they are dropped it is to callers what the shelf is.

## Main definitions

* `Keeper.Reading` — a reader, in the store and on the shelf.
* `Keeper.Writing`, `Keeper.Closed` — a writer before and after it is closed.
* `Keeper.Collects` — a writer, in the store and on the shelf.

## Main results

* `Keeper.Reading.readRaw_eq`, `Keeper.Writing.writeRaw_eq` — a raw read or write of bytes that are
  moved at once.
* `Keeper.Reading.readData_eq` — what reading into a buffer delivers.
* `Keeper.Reading.use_eq`, `Keeper.Collects.use_eq` — a use of a reader and of a writer.
* `Keeper.Reading.drop`, `Keeper.Collects.drop` — the end of a reader and of a writer.
-/

set_option autoImplicit false

namespace ClaimStore

open Store

namespace Keeper

variable {κ : Type} [DecidableEq κ] [ToString κ] {b : Backend} {K : Keeper κ b}
  {r : RepositoryId} {c : ClaimId} {h : HandleId} {s : Store κ}

/-! ### Readers -/

variable (K) in
/-- A reader, in the store and on the shelf. -/
structure Reading (r : RepositoryId) (c : ClaimId) (h : HandleId) (s : Store κ)
    (ρ : Shelf.Reader) (a : Reader) : Prop extends Serves K r s ρ.shelf where
  /-- The handle is the newest one. -/
  place_eq : h = ρ.shelf.handles.length
  /-- The handle is the reader. -/
  handles_eq : s.handles = ρ.shelf.handles ++ [some (.reader a)]
  /-- The reader is of the claim. -/
  claim_eq : a.claim = c
  /-- The reader holds a reference. -/
  claims_eq : s.claims = ρ.shelf.claims.modify c fun x => { x with references := x.references + 1 }
  /-- The contents are the same. -/
  keeps : K.Keeps s ρ.shelf.contents
  /-- The same bytes are read. -/
  delivers : Delivers s a.source ρ.content
  /-- As many are moved at once as the backend admits. -/
  atOnce_eq : ∀ n, K.AdmitsTransfer n → a.source.atOnce n = n
  /-- Both are as far. -/
  position_eq : a.position = ρ.position
  /-- The position is inside the bytes. -/
  position_le : ρ.position ≤ ρ.content.size

variable {ρ : Shelf.Reader} {a : Reader}

/-- The handle is live. -/
lemma Reading.reader?_eq (hr : K.Reading r c h s ρ a) : s.reader? h = some a := by
  rw [reader?_eq_some, hr.place_eq]
  exact handle?_of_concat hr.handles_eq

/-- The length shown is that of the bytes on the shelf. -/
lemma Reading.readerLength_eq (hr : K.Reading r c h s ρ a) : s.readerLength a = ρ.content.size :=
  hr.delivers.2 a rfl

/-- A reader that is somewhere else. -/
lemma Reading.move (hr : K.Reading r c h s ρ a) {p : Nat} (hp : p ≤ ρ.content.size) :
    K.Reading r c h (s.setHandle h (.reader { a with position := p })) { ρ with position := p }
      { a with position := p } where
  sound := (hr.sound.setPosition hr.reader?_eq p).sound
  backend_eq := hr.backend_eq
  own := hr.own
  references := hr.references
  log_eq := hr.log_eq
  place_eq := hr.place_eq
  handles_eq := by
    show s.handles.set h _ = _
    rw [hr.handles_eq, hr.place_eq, set_concat]
  claim_eq := hr.claim_eq
  claims_eq := hr.claims_eq
  keeps := K.keeps_besides (s := s) ⟨rfl, rfl, rfl, rfl⟩ hr.keeps
  delivers := hr.delivers
  atOnce_eq := hr.atOnce_eq
  position_eq := rfl
  position_le := hp

/-- **What is delivered** are the bytes at the position. -/
lemma Reading.deliver_eq (hr : K.Reading r c h s ρ a) (n : Nat) :
    s.deliver h n = (s.setHandle h (.reader { a with
        position := ρ.position + (ρ.content.slice ρ.position n).size }),
      .ok (ρ.content.slice ρ.position n)) := by
  rw [deliver_reader (reader?_eq_some.1 hr.reader?_eq) hr.delivers.1, hr.position_eq]

/-- **A raw read** of a number of bytes that are moved at once delivers them. -/
lemma Reading.readRaw_eq (hr : K.Reading r c h s ρ a) {n : Nat} (hn : K.AdmitsTransfer n) :
    s.readRaw h n = s.deliver h n := by
  rw [readRaw_eq_deliver (reader?_eq_some.1 hr.reader?_eq), hr.atOnce_eq n hn]

/-- A reader that delivers is one that delivers on the shelf. -/
lemma Reading.deliver (hr : K.Reading r c h s ρ a) (n : Nat) :
    ∃ a', K.Reading r c h (s.deliver h n).1 (ρ.deliver n).1 a' := by
  rw [hr.deliver_eq]
  refine ⟨_, hr.move ?_⟩
  have hle := hr.position_le
  rw [Bytes.size_slice]
  omega

/-- **Reading into a buffer** delivers all that is wanted. -/
lemma Reading.readData_eq (hr : K.Reading r c h s ρ a) (buffer : Bytes) (n : Nat) :
    s.readData h buffer n = ((s.deliver h n).1, .ok (ρ.content.slice ρ.position n)) := by
  rw [readData_reader (reader?_eq_some.1 hr.reader?_eq) hr.delivers.1 hr.readerLength_eq,
    hr.position_eq]

/-- **A use of a reader has the same reply in the store and on the shelf**, if a raw read is moved
at once. -/
lemma Reading.use_eq (hr : K.Reading r c h s ρ a) {u : ReaderUse}
    (hu : ∀ n, u = .readRaw n → K.AdmitsTransfer n) :
    (s.useReader h u).2 = (ρ.use u).2 ∧
      ∃ a', K.Reading r c h (s.useReader h u).1 (ρ.use u).1 a' := by
  cases u with
  | length =>
    refine ⟨?_, a, hr⟩
    simp only [useReader, Shelf.Reader.use, hr.reader?_eq, Option.map_some, hr.readerLength_eq,
      Reply.ofOption]
  | position =>
    refine ⟨?_, a, hr⟩
    simp only [useReader, Shelf.Reader.use, hr.reader?_eq, Option.map_some, hr.position_eq,
      Reply.ofOption]
  | readRaw n =>
    simp only [useReader, Shelf.Reader.use, hr.readRaw_eq (hu n rfl)]
    refine ⟨?_, hr.deliver n⟩
    rw [hr.deliver_eq]
    rfl
  | readData buffer n =>
    simp only [useReader, Shelf.Reader.use, hr.readData_eq]
    exact ⟨rfl, hr.deliver n⟩
  | readToEnd =>
    have hend := readToEnd_reader (reader?_eq_some.1 hr.reader?_eq) hr.delivers.1
    simp only [useReader, Shelf.Reader.use, hend]
    refine ⟨?_, hr.deliver _⟩
    rw [hr.deliver_eq]
    rfl
  | seek offset =>
    simp only [useReader, Shelf.Reader.use, Store.seek, hr.reader?_eq, hr.readerLength_eq]
    split
    · exact ⟨rfl, a, hr⟩
    · next hle => exact ⟨rfl, _, hr.move (Nat.not_lt.1 hle)⟩

/-- A reader that is dropped leaves nothing but an empty place. -/
lemma Reading.drop (hr : K.Reading r c h s ρ a) : K.Mirrors r (s.drop h) ρ.shelf.addPlace := by
  have hdrop : s.drop h = s.discard h := by
    unfold Store.drop
    rw [reader?_eq_some.1 hr.reader?_eq]
  rw [hdrop, hr.place_eq]
  refine hr.toServes.discard hr.handles_eq ?_ hr.keeps
  show (s.releaseAll (a.source.resources ++ [.reference a.claim])).claims = _
  rw [releaseAll_concat, hr.claim_eq]
  have hsource : ∀ c, .reference c ∉ a.source.resources := by
    intro c
    cases a.source <;> simp [Source.resources]
  show (s.releaseAll a.source.resources).claims.modify c _ = _
  rw [(behind_releaseAll s hsource).claims_eq, hr.claims_eq, modify_references]

/-! ### Writers -/

variable (K) in
/-- A writer that is open, in the store and on the shelf. -/
structure Writing (r : RepositoryId) (c : ClaimId) (h : HandleId) (s : Store κ)
    (ω : Shelf.Writer) (w : Writer) (l : Lease) : Prop extends Serves K r s ω.shelf where
  /-- The handle is the newest one. -/
  place_eq : h = ω.shelf.handles.length
  /-- The handle is the writer. -/
  handles_eq : s.handles = ω.shelf.handles ++ [some (.writer w)]
  /-- The writer is of the claim. -/
  claim_eq : w.claim = c
  /-- Both have written as much. -/
  written_eq : w.written = ω.written
  /-- The writer is open in the store. -/
  lease_eq : w.lease = some l
  /-- The writer is open on the shelf. -/
  isOpen_eq : ω.isOpen = true
  /-- The writer holds a reference. -/
  claims_eq : s.claims = ω.shelf.claims.modify c fun x => { x with references := x.references + 1 }
  /-- The same bytes were collected, and the rest is on the shelf. -/
  writes : K.Writes s ω.shelf.contents ω.identifier w.sink ω.content

variable (K) in
/-- A writer that was closed, in the store and on the shelf. -/
structure Closed (r : RepositoryId) (c : ClaimId) (h : HandleId) (s : Store κ)
    (ω : Shelf.Writer) (w : Writer) : Prop extends Serves K r s ω.shelf where
  /-- The handle is the newest one. -/
  place_eq : h = ω.shelf.handles.length
  /-- The handle is the writer. -/
  handles_eq : s.handles = ω.shelf.handles ++ [some (.writer w)]
  /-- The writer is of the claim. -/
  claim_eq : w.claim = c
  /-- Both have written as much. -/
  written_eq : w.written = ω.written
  /-- The writer was closed in the store. -/
  lease_eq : w.lease = none
  /-- The writer was closed on the shelf. -/
  isOpen_eq : ω.isOpen = false
  /-- The writer holds a reference. -/
  claims_eq : s.claims = ω.shelf.claims.modify c fun x => { x with references := x.references + 1 }
  /-- The contents are on the shelf. -/
  keeps : K.Keeps s ω.shelf.contents

variable (K) in
/-- A writer, in the store and on the shelf. -/
def Collects (r : RepositoryId) (c : ClaimId) (h : HandleId) (s : Store κ) (ω : Shelf.Writer) :
    Prop :=
  (∃ w l, K.Writing r c h s ω w l) ∨ ∃ w, K.Closed r c h s ω w

variable {ω : Shelf.Writer} {w : Writer} {lease : Lease}

/-- The handle is live. -/
lemma Writing.writer?_eq (hw : K.Writing r c h s ω w lease) : s.writer? h = some w := by
  rw [writer?_eq_some, hw.place_eq]
  exact handle?_of_concat hw.handles_eq

/-- The handle is live. -/
lemma Closed.writer?_eq (hw : K.Closed r c h s ω w) : s.writer? h = some w := by
  rw [writer?_eq_some, hw.place_eq]
  exact handle?_of_concat hw.handles_eq

/-- A writer with a lease is open. -/
lemma Writing.isOpen (hw : K.Writing r c h s ω w lease) : w.isOpen = true := by
  rw [Writer.isOpen, hw.lease_eq]
  rfl

/-- A writer without a lease is closed. -/
lemma Closed.isOpen (hw : K.Closed r c h s ω w) : w.isOpen = false := by
  rw [Writer.isOpen, hw.lease_eq]
  rfl

/-- **Bytes that are written** are collected, unless a limit is hit. -/
lemma Writing.accept_eq (hw : K.Writing r c h s ω w lease) (p : Payload) :
    (K.Limited ∧ ∃ requested available,
      (s.accept h p.bytes).2 = .error (.overCapacity requested available)) ∨
      ((s.accept h p.bytes).2 = .ok p.bytes.size ∧
        K.Collects r c h (s.accept h p.bytes).1 (ω.write p.bytes)) := by
  have hsound := (hw.sound.accept h p.size_lt).sound
  rcases K.writeSink_eq p.bytes hw.writes with
    ⟨hlimited, requested, available, hfull⟩ | ⟨s₁, sink, hb, heq, hwrites⟩
  · left
    refine ⟨hlimited, requested, available, ?_⟩
    unfold Store.accept
    simp only [hw.writer?_eq, hw.isOpen, if_true, hfull]
  · right
    have hraw : s.accept h p.bytes =
        (s₁.setHandle h (.writer { w with sink, written := w.written + p.bytes.size }),
          .ok p.bytes.size) := by
      unfold Store.accept
      simp only [hw.writer?_eq, hw.isOpen, if_true, heq]
    rw [hraw] at hsound ⊢
    refine ⟨rfl, .inl ⟨{ w with sink, written := w.written + p.bytes.size }, lease, {
      toServes := hw.toServes.congr hsound hb.repositories_eq hb.log_eq
      place_eq := hw.place_eq
      handles_eq := ?_
      claim_eq := hw.claim_eq
      written_eq := congrArg (· + p.bytes.size) hw.written_eq
      lease_eq := hw.lease_eq
      isOpen_eq := hw.isOpen_eq
      claims_eq := hb.claims_eq.trans hw.claims_eq
      writes := K.writes_besides (s := s₁) ⟨rfl, rfl, rfl, rfl⟩ hwrites }⟩⟩
    show s₁.handles.set h _ = _
    rw [hb.handles_eq, hw.handles_eq, hw.place_eq, set_concat]
    rfl

/-- **A raw write** of bytes that are moved at once takes all of them. -/
lemma Writing.writeRaw_eq (hw : K.Writing r c h s ω w lease) {p : Payload}
    (hp : K.AdmitsTransfer p.bytes.size) : s.writeRaw h p.bytes = s.accept h p.bytes := by
  rw [Store.writeRaw, Store.offered, hw.writer?_eq]
  dsimp only
  rw [K.atOnce_eq hw.writes hp, Bytes.take_size]

/-- **A writer that is closed** puts what it collected on the shelf. -/
lemma Writing.close (hw : K.Writing r c h s ω w lease) :
    ∃ w', K.Closed r c h (s.close h) ω.close w' := by
  have hsound := (hw.sound.close h).sound
  obtain ⟨hb, hkeeps⟩ := K.commit_eq hw.writes
  have hopen : ∀ c, .reference c ∉ w.openResources := by
    intro c
    rw [Writer.openResources, hw.lease_eq]
    cases w.sink <;> simp
  have hback := hb.trans (behind_releaseAll _ hopen)
  have hclose : s.close h = ((s.commit w.sink).releaseAll w.openResources).setHandle h
      (.writer { w with lease := none }) := by
    unfold Store.close
    simp only [hw.writer?_eq, hw.isOpen, if_true]
  rw [hclose] at hsound ⊢
  rw [Shelf.Writer.close, hw.isOpen_eq, if_pos rfl]
  exact ⟨{ w with lease := none }, {
    toServes := (hw.toServes.congr hsound hback.repositories_eq hback.log_eq).withContents _
    place_eq := hw.place_eq
    handles_eq := by
      show List.set (Store.handles _) h _ = _
      rw [hback.handles_eq, hw.handles_eq, hw.place_eq, set_concat]
      rfl
    claim_eq := hw.claim_eq
    written_eq := hw.written_eq
    lease_eq := rfl
    isOpen_eq := rfl
    claims_eq := hback.claims_eq.trans hw.claims_eq
    keeps := K.keeps_besides (s := (s.commit w.sink).releaseAll w.openResources)
      ⟨rfl, rfl, rfl, rfl⟩ (K.keeps_releaseAll hkeeps _) }⟩

/-- A writer is not closed again. -/
lemma Closed.close_eq (hw : K.Closed r c h s ω w) : s.close h = s ∧ ω.close = ω := by
  constructor
  · unfold Store.close
    simp only [hw.writer?_eq, hw.isOpen, Bool.false_eq_true, if_false]
  · rw [Shelf.Writer.close, hw.isOpen_eq, if_neg Bool.false_ne_true]

/-- **A use of a writer that is open** has the same reply in the store and on the shelf, if a raw
write is moved at once. -/
lemma Writing.use_eq (hw : K.Writing r c h s ω w lease) {u : WriterUse}
    (hu : ∀ p, u = .writeRaw p → K.AdmitsTransfer p.bytes.size) :
    K.Full (s.useWriter h u).2 ∨
      ((s.useWriter h u).2 = (ω.use u).2 ∧
        K.Collects r c h (s.useWriter h u).1 (ω.use u).1) := by
  have hsame : K.Collects r c h s ω := .inl ⟨w, lease, hw⟩
  cases u with
  | written =>
    refine .inr ⟨?_, hsame⟩
    simp only [useWriter, Shelf.Writer.use, hw.writer?_eq, Option.map_some, hw.written_eq,
      Reply.ofOption]
  | writeRaw p =>
    simp only [useWriter, Shelf.Writer.use, hw.isOpen_eq, if_true, hw.writeRaw_eq (hu p rfl)]
    rcases hw.accept_eq p with ⟨hlimited, requested, available, hfull⟩ | ⟨hok, hcollects⟩
    · rw [hfull]
      exact .inl ⟨hlimited, rfl⟩
    · rw [hok]
      exact .inr ⟨rfl, hcollects⟩
  | writeData p =>
    simp only [useWriter, Shelf.Writer.use, hw.isOpen_eq, if_true]
    unfold Store.writeData Store.writeAll
    cases p.bytes.isEmpty with
    | true => exact .inr ⟨rfl, hsame⟩
    | false =>
      simp only [Bool.false_eq_true, if_false]
      rcases hw.accept_eq p with ⟨hlimited, requested, available, hfull⟩ | ⟨hok, hcollects⟩
      · rw [← Prod.eta (s.accept h p.bytes), hfull]
        exact .inl ⟨hlimited, rfl⟩
      · rw [← Prod.eta (s.accept h p.bytes), hok]
        exact .inr ⟨rfl, hcollects⟩
  | flush => exact .inr ⟨rfl, hsame⟩
  | close =>
    obtain ⟨w', hclosed⟩ := hw.close
    exact .inr ⟨rfl, .inr ⟨w', hclosed⟩⟩

/-- **A use of a writer that was closed** has the same reply in the store and on the shelf. -/
lemma Closed.use_eq (hw : K.Closed r c h s ω w) (u : WriterUse) :
    (s.useWriter h u).2 = (ω.use u).2 ∧ K.Collects r c h (s.useWriter h u).1 (ω.use u).1 := by
  have hsame : K.Collects r c h s ω := .inr ⟨w, hw⟩
  have hclosed : ∀ p, s.accept h p = (s, .error .writerClosed) := by
    intro p
    unfold Store.accept
    simp only [hw.writer?_eq, hw.isOpen, Bool.false_eq_true, if_false]
  cases u with
  | written =>
    refine ⟨?_, hsame⟩
    simp only [useWriter, Shelf.Writer.use, hw.writer?_eq, Option.map_some, hw.written_eq,
      Reply.ofOption]
  | writeRaw p =>
    simp only [useWriter, Shelf.Writer.use, hw.isOpen_eq, Store.writeRaw, hclosed,
      Bool.false_eq_true, if_false]
    exact ⟨rfl, hsame⟩
  | writeData p =>
    simp only [useWriter, Shelf.Writer.use, hw.isOpen_eq, Bool.false_eq_true, if_false]
    unfold Store.writeData Store.writeAll
    rw [hclosed]
    cases p.bytes.isEmpty <;> exact ⟨rfl, hsame⟩
  | flush => exact ⟨rfl, hsame⟩
  | close =>
    obtain ⟨hstore, hshelf⟩ := hw.close_eq
    simp only [useWriter, Shelf.Writer.use, hstore, hshelf]
    exact ⟨trivial, hsame⟩

/-- **A use of a writer has the same reply in the store and on the shelf**, if a raw write is moved
at once. -/
lemma Collects.use_eq (hw : K.Collects r c h s ω) {u : WriterUse}
    (hu : ∀ p, u = .writeRaw p → K.AdmitsTransfer p.bytes.size) :
    K.Full (s.useWriter h u).2 ∨
      ((s.useWriter h u).2 = (ω.use u).2 ∧
        K.Collects r c h (s.useWriter h u).1 (ω.use u).1) := by
  rcases hw with ⟨w, l, hw⟩ | ⟨w, hw⟩
  · exact hw.use_eq hu
  · exact .inr (hw.use_eq u)

/-- A writer that was closed is dropped. -/
lemma Closed.discard (hw : K.Closed r c h s ω w) : K.Mirrors r (s.discard h) ω.shelf.addPlace := by
  rw [hw.place_eq]
  refine hw.toServes.discard hw.handles_eq ?_ hw.keeps
  have hres : ∃ rs : List Resource, w.resources = rs ++ [.reference c] ∧
      ∀ c', .reference c' ∉ rs := by
    rw [Writer.resources, Writer.openResources, hw.lease_eq, Writer.keptResources, hw.claim_eq]
    cases w.sink with
    | file => exact ⟨[], rfl, fun _ => List.not_mem_nil⟩
    | entry t e => exact ⟨[.owner t e], rfl, fun _ => by simp⟩
    | row d key buffer => exact ⟨[.database d], rfl, fun _ => by simp⟩
  obtain ⟨rs, hrs, hnone⟩ := hres
  show (s.releaseAll w.resources).claims = _
  rw [hrs, releaseAll_concat]
  show (s.releaseAll rs).claims.modify c _ = _
  rw [(behind_releaseAll s hnone).claims_eq, hw.claims_eq, modify_references]

/-- **A writer that is dropped** was closed, and leaves nothing but an empty place. -/
lemma Collects.drop (hw : K.Collects r c h s ω) :
    K.Mirrors r (s.drop h) ω.close.shelf.addPlace := by
  have hdrop : ∀ {w}, s.writer? h = some w → s.drop h = (s.close h).discard h := by
    intro w hw
    unfold Store.drop
    rw [writer?_eq_some.1 hw]
  rcases hw with ⟨w, l, hw⟩ | ⟨w, hw⟩
  · obtain ⟨w', hclosed⟩ := hw.close
    rw [hdrop hw.writer?_eq]
    exact hclosed.discard
  · obtain ⟨hstore, hshelf⟩ := hw.close_eq
    rw [hdrop hw.writer?_eq, hstore, hshelf]
    exact hw.discard

end Keeper

end ClaimStore
