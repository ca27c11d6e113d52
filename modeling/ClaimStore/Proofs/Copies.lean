import ClaimStore.Proofs.ReaderTurns

/-!
# Copies that end

A copy moves chunks until its reader delivers nothing. It ends, unless its writer makes the content
longer ahead of the reader: then the reader never comes to the end. That can only be a writer to the
file of the reader, since a value that is read has no writer, and a row is read in a copy.

## Main definitions

* `Store.Chases` — a reader runs after a writer.

## Main results

* `Store.writeSink_ahead`, `Store.writeSink_behind` — writes ahead of a place in a file, and behind
  it.
* `Store.Chases.copyRounds_eq_none` — a reader that runs after its writer never comes to the end.
* `Store.Ordered.copyRounds_ne_none` — any other copy ends.
* `Store.Ordered.copy_eq_none_iff` — a copy does not end exactly if its reader runs after its
  writer.
-/

set_option autoImplicit false

namespace ClaimStore

/-! ### Files that grow -/

/-- The length of a file after bytes were laid over it. -/
lemma FileData.size_overwrite (f : FileData) (offset : Nat) (p : Bytes) :
    (f.overwrite offset p).bytes.size = max f.bytes.size (offset + p.size) := by
  simp only [overwrite, Bytes.patch, Bytes.size_append, Bytes.size_fit, Bytes.size_drop]
  omega

namespace Disk

variable {d : Disk} {id : FileId}

/-- A file that holds bytes is there. -/
lemma lt_of_bytes (h : 0 < (d.bytes id).size) : id < d.contents.size := by
  by_contra hge
  rw [bytes, data, Array.getElem?_eq_none (Nat.le_of_not_lt hge)] at h
  exact Nat.lt_irrefl 0 h

/-- The length of a file that holds bytes, after more were appended. -/
lemma size_append (h : 0 < (d.bytes id).size) (b : Bytes) :
    ((d.append id b).bytes id).size = (d.bytes id).size + b.size := by
  rw [append, bytes_modify, if_pos ⟨rfl, lt_of_bytes h⟩, FileData.size_overwrite]
  exact Nat.max_eq_right (Nat.le_add_right ..)

/-- The length of a file that holds bytes, after some were written at an offset. -/
lemma size_writeAt (h : 0 < (d.bytes id).size) (offset : Nat) {b : Bytes}
    (hb : b.isEmpty = false) :
    ((d.writeAt id offset b).bytes id).size = max (d.bytes id).size (offset + b.size) := by
  rw [writeAt, hb]
  simp only [Bool.false_eq_true, if_false]
  rw [bytes_modify, if_pos ⟨rfl, lt_of_bytes h⟩, FileData.size_overwrite]
  rfl

/-- Another file stays. -/
lemma bytes_append_ne {id' : FileId} (hne : id' ≠ id) (b : Bytes) :
    (d.append id' b).bytes id = d.bytes id := by
  rw [append, bytes_modify, if_neg fun h => hne h.1]

/-- A write to one file leaves the bytes of the others. -/
lemma bytes_writeAt_ne {id' : FileId} (hne : id' ≠ id) (offset : Nat) (b : Bytes) :
    (d.writeAt id' offset b).bytes id = d.bytes id := by
  unfold writeAt
  split
  · rfl
  · rw [bytes_modify, if_neg fun h => hne h.1]

end Disk

namespace Store

variable {κ : Type} {s s₁ s' : Store κ} {reader writer : HandleId} {r : Reader}

/-! ### One write -/

/-- A raw write that succeeds is one into the sink of its writer, which is open. -/
lemma accept_ok {b : Bytes} {n : Nat} (h : s.accept writer b = (s', .ok n)) :
    ∃ w sink s₁, s.handle? writer = some (.writer w) ∧ w.isOpen = true ∧
      s.writeSink w.sink b = .ok (s₁, sink) ∧
      s' = s₁.setHandle writer (.writer { w with sink, written := w.written + b.size }) := by
  unfold accept at h
  split at h
  · cases h
  · next w hw =>
    split at h
    · next hopen =>
      split at h
      · cases h
      · next s₁ sink hsink =>
        obtain ⟨rfl, -⟩ := Prod.mk.inj h
        exact ⟨w, sink, s₁, writer?_eq_some.1 hw, hopen, hsink, rfl⟩
    · cases h

/-- What becomes of a file that holds bytes when more are taken into a sink: a sink of the file
makes it longer where it reaches past its end, and moves on; any other leaves it. -/
lemma writeSink_grows {sink sink' : Sink} {b : Bytes} (hb : b.isEmpty = false)
    (h : s.writeSink sink b = .ok (s', sink')) {id : FileId} (hid : 0 < (s.disk.bytes id).size) :
    (∃ target, sink = .file id target ∧ sink' = .file id (target.map (· + b.size)) ∧
      (s'.disk.bytes id).size = max (s.disk.bytes id).size
        (target.getD (s.disk.bytes id).size + b.size)) ∨
    (∀ target, sink ≠ .file id target) ∧ (∀ target, sink' ≠ .file id target) ∧
      s'.disk.bytes id = s.disk.bytes id := by
  unfold writeSink at h
  cases sink with
  | file id' target =>
    by_cases hne : id' = id
    · subst hne
      refine .inl ⟨target, rfl, ?_⟩
      cases target with
      | none =>
        obtain ⟨rfl, rfl⟩ := Prod.mk.inj (Except.ok.inj h)
        exact ⟨rfl, (Disk.size_append hid b).trans (Nat.max_eq_right (Nat.le_add_right ..)).symm⟩
      | some offset =>
        obtain ⟨rfl, rfl⟩ := Prod.mk.inj (Except.ok.inj h)
        exact ⟨rfl, Disk.size_writeAt hid offset hb⟩
    · refine .inr ?_
      cases target with
      | none =>
        obtain ⟨rfl, rfl⟩ := Prod.mk.inj (Except.ok.inj h)
        exact ⟨fun _ => by simp [hne], fun _ => by simp [hne], Disk.bytes_append_ne hne b⟩
      | some offset =>
        obtain ⟨rfl, rfl⟩ := Prod.mk.inj (Except.ok.inj h)
        exact ⟨fun _ => by simp [hne], fun _ => by simp [hne], Disk.bytes_writeAt_ne hne offset b⟩
  | entry t e =>
    dsimp only at h
    split at h
    · obtain ⟨rfl, rfl⟩ := Prod.mk.inj (Except.ok.inj h)
      exact .inr ⟨fun _ => by simp, fun _ => by simp, rfl⟩
    · cases h
    · cases h
  | row d key buffer =>
    obtain ⟨rfl, rfl⟩ := Prod.mk.inj (Except.ok.inj h)
    exact .inr ⟨fun _ => by simp, fun _ => by simp, rfl⟩

/-- **A sink that writes behind a place in a file**, and not past the end, leaves the file as long
as it is, and is behind the place again where that moves as far. -/
lemma writeSink_behind {sink sink' : Sink} {b : Bytes} (hb : b.isEmpty = false)
    (h : s.writeSink sink b = .ok (s', sink')) {id : FileId} {p : Nat}
    (hend : p + b.size ≤ (s.disk.bytes id).size)
    (hbehind : ∀ target, sink = .file id target → target.getD (s.disk.bytes id).size ≤ p) :
    (s'.disk.bytes id).size ≤ (s.disk.bytes id).size ∧
      ∀ target, sink' = .file id target → target.getD (s'.disk.bytes id).size ≤ p + b.size := by
  have hpos := Bytes.isEmpty_eq_false_iff.1 hb
  have hheld : 0 < (s.disk.bytes id).size := by omega
  rcases writeSink_grows hb h hheld with ⟨target, rfl, rfl, hsize⟩ | ⟨-, hsink', hbytes⟩
  · have hle := hbehind target rfl
    cases target with
    | none =>
      -- bytes that are appended are written at the end, and so past it
      rw [Option.getD_none] at hle
      omega
    | some offset =>
      rw [Option.getD_some] at hle hsize
      refine ⟨by omega, ?_⟩
      rintro _ heq
      obtain rfl := (Sink.file.inj heq).2
      rw [Option.map_some, Option.getD_some]
      omega
  · exact ⟨Nat.le_of_eq (congrArg Bytes.size hbytes), fun target heq => absurd heq (hsink' target)⟩

/-- **A sink that writes ahead of a place in a file** is ahead of it again where that moves as far,
and so is the end of the file. -/
lemma writeSink_ahead {b : Bytes} (hb : b.isEmpty = false) {id : FileId} {target : Option Nat}
    {p : Nat} (hend : p < (s.disk.bytes id).size)
    (hahead : p < target.getD (s.disk.bytes id).size) :
    ∃ s' target', s.writeSink (.file id target) b = .ok (s', .file id target') ∧
      s'.handles = s.handles ∧ p + b.size < (s'.disk.bytes id).size ∧
        p + b.size < target'.getD (s'.disk.bytes id).size := by
  obtain ⟨s', sink', hwrite, hhandles⟩ : ∃ s' sink',
      s.writeSink (.file id target) b = .ok (s', sink') ∧ s'.handles = s.handles := by
    cases target with
    | none => exact ⟨_, _, rfl, rfl⟩
    | some offset => exact ⟨_, _, rfl, rfl⟩
  rcases writeSink_grows hb hwrite (Nat.zero_lt_of_lt hend) with
    ⟨target', heq, rfl, hsize⟩ | ⟨hno, -, -⟩
  · obtain rfl := (Sink.file.inj heq).2
    refine ⟨s', _, hwrite, hhandles, by omega, ?_⟩
    cases target with
    | none =>
      rw [Option.getD_none] at hahead hsize
      rw [Option.map_none, Option.getD_none]
      omega
    | some offset =>
      rw [Option.getD_some] at hahead
      rw [Option.map_some, Option.getD_some]
      omega
  · exact absurd rfl (hno target)

/-! ### Copies that never end -/

/-- **A reader runs after a writer**: the writer is open and writes to the file of the reader, and
both the end of the file and the place where it writes next are ahead of the reader. -/
def Chases (s : Store κ) (reader writer : HandleId) : Prop :=
  ∃ r w id n target, s.handle? reader = some (.reader r) ∧
    s.handle? writer = some (.writer w) ∧ w.isOpen = true ∧ r.source = .file (.file id) n ∧
    w.sink = .file id target ∧ r.position < (s.disk.bytes id).size ∧
    r.position < target.getD (s.disk.bytes id).size

/-- Whether a reader runs after a writer, where both are live. -/
lemma chases_iff {w : Writer} (hr : s.handle? reader = some (.reader r))
    (hw : s.handle? writer = some (.writer w)) : s.Chases reader writer ↔
      w.isOpen = true ∧ ∃ id n target, r.source = .file (.file id) n ∧ w.sink = .file id target ∧
        r.position < (s.disk.bytes id).size ∧ r.position < target.getD (s.disk.bytes id).size := by
  constructor
  · rintro ⟨r', w', id, n, target, hr', hw', hopen, h⟩
    obtain rfl := Handle.reader.inj (Option.some.inj (hr.symm.trans hr'))
    obtain rfl := Handle.writer.inj (Option.some.inj (hw.symm.trans hw'))
    exact ⟨hopen, id, n, target, h⟩
  · rintro ⟨hopen, id, n, target, h⟩
    exact ⟨r, w, id, n, target, hr, hw, hopen, h⟩

/-- A chunk is not empty before the end. -/
lemma chunk_isEmpty {content : Bytes} {p : Nat} (h : p < content.size) :
    (content.slice p copyChunk).isEmpty = false := by
  rw [Bytes.isEmpty_eq_false_iff, Bytes.size_slice]
  exact Nat.lt_min.2 ⟨by decide, Nat.sub_pos_of_lt h⟩

/-- **A reader that runs after its writer never comes to the end.**

**Proof sketch.** Induction on the rounds. A round moves the reader by what it delivers, which is at
least one byte, and the writer by as much; so the end of the file stays ahead. -/
lemma Chases.copyRounds_eq_none (h : s.Chases reader writer) (k total : Nat) :
    copyRounds reader writer k s total = none := by
  induction k generalizing s total with
  | zero => rfl
  | succ k ih =>
    obtain ⟨r, w, id, n, target, hr, hw, hopen, hsource, hsink, hend, hahead⟩ := h
    have hcontent : s.sourceBytes r.source = .ok (s.disk.bytes id) := by rw [hsource]; rfl
    obtain ⟨b, hb⟩ : ∃ b, b = (s.disk.bytes id).slice r.position copyChunk := ⟨_, rfl⟩
    have hfull : b.isEmpty = false := hb ▸ chunk_isEmpty hend
    have hne : reader ≠ writer := by
      rintro rfl
      cases hr.symm.trans hw
    obtain ⟨s₁, hs₁⟩ : ∃ s₁, s₁ = s.setHandle reader
        (.reader { r with position := r.position + b.size }) := ⟨_, rfl⟩
    have hr₁ : s₁.handle? reader = some (.reader { r with position := r.position + b.size }) := by
      rw [hs₁, handle?_setHandle hr, if_pos rfl]
    have hw₁ : s₁.handle? writer = some (.writer w) := by
      rw [hs₁, handle?_setHandle hr, if_neg hne.symm, hw]
    have hdisk : s₁.disk = s.disk := by rw [hs₁]; rfl
    rw [← hdisk] at hend hahead
    obtain ⟨s₂, target', hwritten, hhandles, hend', hahead'⟩ := writeSink_ahead hfull hend hahead
    have hw₂ : s₂.handle? writer = some (.writer w) := (handle?_congr hhandles writer).trans hw₁
    have hr₂ : s₂.handle? reader = some (.reader { r with position := r.position + b.size }) :=
      (handle?_congr hhandles reader).trans hr₁
    rw [copyRounds, readRaw_copyChunk hr, deliver_reader hr hcontent, ← hb, ← hs₁]
    dsimp only
    rw [if_neg (Bool.eq_false_iff.1 hfull), writeAll, if_neg (Bool.eq_false_iff.1 hfull), accept,
      writer?_eq_some.2 hw₁]
    dsimp only
    rw [if_pos hopen, hsink, hwritten]
    dsimp only
    refine ih ?_ _
    refine ⟨{ r with position := r.position + b.size },
      { w with sink := .file id target', written := w.written + b.size }, id, n, target', ?_, ?_,
      hopen, hsource, rfl, hend', hahead'⟩
    · rw [handle?_setHandle hw₂, if_neg hne, hr₂]
    · rw [handle?_setHandle hw₂, if_pos rfl]

/-! ### Copies that end -/

section Ends

variable [DecidableEq κ] [ToString κ]

/-- A chunk is written at once, so that its write is an operation. -/
lemma step_writeRaw_chunk (s : Store κ) (writer : HandleId) {b : Bytes} (hb : b.size ≤ copyChunk)
    (hsize : b.size < 2 ^ 64) :
    s.step (.writeRaw writer ⟨b, hsize⟩) = (s.accept writer b).1 := by
  have hoffered : s.offered writer b = b := by
    unfold offered
    split
    · rfl
    · next w _ => rw [w.sink.atOnce_of_le (hb.trans (by decide)), Bytes.take_size]
  show (s.accept writer (s.offered writer b)).1 = _
  rw [hoffered]

/-- The write of a chunk leaves a store in order. -/
lemma Ordered.accept (h : Ordered s) (writer : HandleId) {b : Bytes} (hb : b.size ≤ copyChunk) :
    Ordered (s.accept writer b).1 := by
  have hsize : b.size < 2 ^ 64 := Nat.lt_of_le_of_lt hb (by decide)
  have hact := h.act (.operate .quiet (.writeRaw writer ⟨b, hsize⟩))
  rwa [Store.act, stepUnder_quiet, step_writeRaw_chunk s writer hb hsize] at hact

/-- The write of a chunk leaves content that is not a file. -/
lemma Ordered.sourceBytes_accept (h : Ordered s) (hr : s.handle? reader = some (.reader r))
    (hfile : ∀ id n, r.source ≠ .file (.file id) n) {content b : Bytes}
    (hcontent : s.sourceBytes r.source = .ok content) (hchunk : b.size ≤ copyChunk) {n : Nat}
    (hwrite : s.accept writer b = (s', .ok n)) : s'.sourceBytes r.source = .ok content := by
  have hsize : b.size < 2 ^ 64 := Nat.lt_of_le_of_lt hchunk (by decide)
  have hact := h.sourceBytes_act hr (fun i n hi => ?_)
    (.operate .quiet (.writeRaw writer ⟨b, hsize⟩))
  · rw [Store.act, stepUnder_quiet, step_writeRaw_chunk s writer hchunk hsize, hwrite] at hact
    exact hact.trans hcontent
  · cases i with
    | file id => exact hfile id n hi
    | directory d =>
      -- a directory has no bytes to read
      rw [hi] at hcontent
      cases hcontent

/-- What a reader that does not run after its writer reads is not longer after a write of what it
read last, and it does not run after the writer then.

**Proof sketch.** What is not a file is not touched by a write. In a file that both handles have
open, the writer stood at or before the place that was read, so what it writes ends at or before the
place where the reader stands now: the file does not grow, and the writer is still behind. -/
lemma Ordered.not_chases_accept (h₁ : Ordered s₁) (hr : s.handle? reader = some (.reader r))
    (hno : ¬ s.Chases reader writer) {content b : Bytes}
    (hcontent : s.sourceBytes r.source = .ok content)
    (hb : b = content.slice r.position copyChunk) (hfull : b.isEmpty = false)
    (hchunk : b.size ≤ copyChunk)
    (hs₁ : s₁ = s.setHandle reader (.reader { r with position := r.position + b.size }))
    {n : Nat} (hwrite : s₁.accept writer b = (s', .ok n)) :
    s'.handle? reader = some (.reader { r with position := r.position + b.size }) ∧
      ¬ s'.Chases reader writer ∧
      ∀ content', s'.sourceBytes r.source = .ok content' → content'.size ≤ content.size := by
  have hr₁ : s₁.handle? reader = some (.reader { r with position := r.position + b.size }) := by
    rw [hs₁, handle?_setHandle hr, if_pos rfl]
  have hcontent₁ : s₁.sourceBytes r.source = .ok content := by
    rw [hs₁, sourceBytes_setHandle, hcontent]
  have hkept : (∀ i n, r.source ≠ .file (.file i) n) → s'.sourceBytes r.source = .ok content :=
    fun hfile => h₁.sourceBytes_accept hr₁ hfile hcontent₁ hchunk hwrite
  obtain ⟨w, sink, s₂, hw₁, hopen, hsink, rfl⟩ := accept_ok hwrite
  have hne : reader ≠ writer := by
    rintro rfl
    cases hr₁.symm.trans hw₁
  have hw : s.handle? writer = some (.writer w) := by
    rw [hs₁, handle?_setHandle hr, if_neg hne.symm] at hw₁
    exact hw₁
  have hhandles := (still_writeSink hsink).1.handles_eq
  have hw₂ := (handle?_congr hhandles writer).trans hw₁
  have hr' : (s₂.setHandle writer
      (.writer { w with sink, written := w.written + b.size })).handle? reader =
        some (.reader { r with position := r.position + b.size }) := by
    rw [handle?_setHandle hw₂, if_neg hne, handle?_congr hhandles, hr₁]
  have hw' : (s₂.setHandle writer
      (.writer { w with sink, written := w.written + b.size })).handle? writer =
        some (.writer { w with sink, written := w.written + b.size }) := by
    rw [handle?_setHandle hw₂, if_pos rfl]
  refine ⟨hr', ?_⟩
  rw [chases_iff hr' hw']
  by_cases hfile : ∃ id n, r.source = .file (.file id) n
  · obtain ⟨id, n', hsource⟩ := hfile
    obtain rfl : s.disk.bytes id = content := by
      rw [hsource] at hcontent
      exact Except.ok.inj hcontent
    have hdisk : s₁.disk = s.disk := by rw [hs₁]; rfl
    have hsize : b.size ≤ (s.disk.bytes id).size - r.position := by
      rw [hb, Bytes.size_slice]
      exact Nat.min_le_right ..
    have hpos := Bytes.isEmpty_eq_false_iff.1 hfull
    have hbehind : ∀ target, w.sink = .file id target →
        target.getD (s₁.disk.bytes id).size ≤ r.position := fun target htarget =>
      Nat.le_of_not_lt fun hlt => hno ((chases_iff hr hw).2
        ⟨hopen, id, n', target, hsource, htarget, by omega, hdisk ▸ hlt⟩)
    obtain ⟨hlength, hbehind'⟩ := writeSink_behind hfull hsink (by rw [hdisk]; omega) hbehind
    constructor
    · rintro ⟨-, i, n, target, hi, htarget, -, hahead⟩
      obtain rfl := Item.file.inj (Source.file.inj (hi.symm.trans hsource)).1
      exact Nat.not_lt.2 (hbehind' target htarget) hahead
    · intro content' hcontent'
      rw [sourceBytes_setHandle, hsource] at hcontent'
      obtain rfl := Except.ok.inj hcontent'
      exact hdisk ▸ hlength
  · constructor
    · rintro ⟨-, i, n, -, hi, -⟩
      exact hfile ⟨i, n, hi⟩
    · intro content' hcontent'
      have hkept := hkept fun i n hi => hfile ⟨i, n, hi⟩
      exact Nat.le_of_eq (congrArg Bytes.size (Except.ok.inj (hkept.symm.trans hcontent')).symm)

/-- **Any other copy ends.**

**Proof sketch.** Induction on the rounds. A round that delivers something leaves less up to the end
of what is read, which is not longer than before. -/
lemma Ordered.copyRounds_ne_none (h : Ordered s) (hr : s.handle? reader = some (.reader r))
    (hno : ¬ s.Chases reader writer) {k : Nat} (total : Nat) (hk : 0 < k)
    (hleft : ∀ content, s.sourceBytes r.source = .ok content → content.size - r.position < k) :
    copyRounds reader writer k s total ≠ none := by
  induction k generalizing s r total with
  | zero => exact absurd hk (Nat.lt_irrefl 0)
  | succ k ih =>
    cases hcontent : s.sourceBytes r.source with
    | error e =>
      rw [copyRounds, readRaw_copyChunk hr, deliver_error hr hcontent]
      exact Option.some_ne_none _
    | ok content =>
      have hlt := hleft content hcontent
      obtain ⟨b, hb⟩ : ∃ b, b = content.slice r.position copyChunk := ⟨_, rfl⟩
      obtain ⟨s₁, hs₁⟩ : ∃ s₁, s₁ = s.setHandle reader
          (.reader { r with position := r.position + b.size }) := ⟨_, rfl⟩
      have h₁ : Ordered s₁ := by
        have hturn := h.turn reader (.ask (.readRaw copyChunk))
        rw [Store.turn, ask, readRaw_copyChunk hr, deliver_reader hr hcontent, ← hb, ← hs₁] at hturn
        exact hturn
      rw [copyRounds, readRaw_copyChunk hr, deliver_reader hr hcontent, ← hb, ← hs₁]
      dsimp only
      cases hfull : b.isEmpty with
      | true => exact Option.some_ne_none _
      | false =>
        have hsize : b.size ≤ content.size - r.position := by
          rw [hb, Bytes.size_slice]
          exact Nat.min_le_right ..
        have hchunk : b.size ≤ copyChunk := by
          rw [hb, Bytes.size_slice]
          exact Nat.min_le_left ..
        have hpos := Bytes.isEmpty_eq_false_iff.1 hfull
        rw [writeAll, if_neg (Bool.eq_false_iff.1 hfull)]
        simp only [Bool.false_eq_true, if_false]
        cases hwrite : s₁.accept writer b with | mk s₂ res =>
        cases res with
        | error e => exact Option.some_ne_none _
        | ok n =>
          have h₂ : Ordered s₂ := by
            have hwritten := h₁.accept writer hchunk
            rwa [hwrite] at hwritten
          obtain ⟨hr₂, hno₂, hcontent₂⟩ :=
            h₁.not_chases_accept hr hno hcontent hb hfull hchunk hs₁ hwrite
          refine ih h₂ hr₂ hno₂ (total + n) (by omega) fun content' hcontent' => ?_
          have hle := hcontent₂ content' hcontent'
          dsimp only
          omega

/-- **A copy does not end exactly if its reader runs after its writer.** -/
lemma Ordered.copy_eq_none_iff (h : Ordered s) (reader writer : HandleId) :
    s.copy reader writer = none ↔ s.Chases reader writer := by
  cases hr : s.reader? reader with
  | none =>
    refine iff_of_false (by rw [copy, hr]; exact Option.some_ne_none _) ?_
    rintro ⟨r, w, id, n, target, hlive, -⟩
    cases (reader?_eq_some.2 hlive).symm.trans hr
  | some r =>
    have hlive := reader?_eq_some.1 hr
    cases hcontent : s.sourceBytes r.source with
    | error e =>
      refine iff_of_false ?_ ?_
      · rw [copy, hr]
        dsimp only
        rw [hcontent]
        exact Option.some_ne_none _
      · rintro ⟨r', w, id, n, target, hlive', -, -, hsource, -⟩
        obtain rfl := Handle.reader.inj (Option.some.inj (hlive.symm.trans hlive'))
        rw [hsource] at hcontent
        cases hcontent
    | ok content =>
      have hcopy : s.copy reader writer = copyRounds reader writer (content.size + 1) s 0 := by
        rw [copy, hr]
        dsimp only
        rw [hcontent]
      rw [hcopy]
      refine ⟨fun hnone => ?_, fun hchases => hchases.copyRounds_eq_none _ _⟩
      by_contra hno
      refine h.copyRounds_ne_none hlive hno 0 (Nat.succ_pos _) (fun content' hcontent' => ?_) hnone
      obtain rfl := Except.ok.inj (hcontent.symm.trans hcontent')
      omega

end Ends

end Store

end ClaimStore
