import ClaimStore.Proofs.ReaderBytes

/-!
# The fill loop

The loop fills a buffer through raw reads of which each may deliver less than there is room for, be
interrupted, or fail, and may leave anything in the part of the buffer that it was given. What the
buffer holds in the end is what was delivered, in order. The loop ends if interruptions do: every
other raw read but the last delivers at least one byte, and there is room for finitely many.

## Main definitions

* `ByteSource.Call` — one raw read, as what it was given, what it left there and what it answered.
* `ByteSource.calls` — the raw reads that the loop makes in so many rounds.
* `ByteSource.logged` — a reader that keeps a log of its raw reads.
* `ByteSource.Stops` — where the loop stops.
* `ByteSource.Fills` — what the loop has done when it has ended.

## Main results

* `ByteSource.Honest.fill_fills` — a loop that has ended has done so.
* `ByteSource.Honest.fill_ne_none` — a loop ends if only finitely many answers are interruptions.
* `ByteSource.fill_logged` — the log of the loop is the list of its calls.
* `ByteSource.readData_fills` — reading into a buffer.
* `Store.byteSource_readData_ne_none` — how many rounds a reader of the store needs.
* `Store.fill_byteSource` — the loop on a reader of the store, however much it moves at once.
* `Store.readData_limited`, `Store.readData_reader` — a read of the store into a buffer.
-/

set_option autoImplicit false

namespace ClaimStore

namespace Bytes

/-- An emptied buffer that is made longer holds zeros. -/
lemma fit_take_zero (n : Nat) (b : Bytes) : (b.take 0).fit n = zeros n := by
  rw [take_zero, fit_of_size_le (Nat.zero_le n), size_empty, Nat.sub_zero, empty_append]

end Bytes

namespace ByteSource

variable {σ : Type}

/-! ### Raw reads -/

/-- One raw read. -/
structure Call where
  /-- The part of the buffer that the reader was given. -/
  room : Bytes
  /-- The part as the reader left it. -/
  part : Bytes
  /-- Its answer. -/
  answer : ReadAnswer
  deriving DecidableEq, Repr

/-- The bytes that a raw read delivered. -/
def Call.bytes (c : Call) : Bytes :=
  match c.answer with
  | .delivered n => c.part.take n
  | _ => .empty

/-- The raw read was interrupted. -/
def Call.isInterrupted (c : Call) : Bool := c.answer == .interrupted

/-- After the raw read the loop goes on. -/
def Call.GoesOn (c : Call) : Prop :=
  c.answer = .interrupted ∨ ∃ n, 0 < n ∧ c.answer = .delivered n

/-- The bytes that raw reads delivered, in order. -/
def deliveries : List Call → Bytes
  | [] => .empty
  | c :: cs => c.bytes ++ deliveries cs

/-- The raw reads are those of the reader, one after the other. -/
def Makes (r : ByteSource σ) : σ → List Call → σ → Prop
  | s, [], s' => s' = s
  | s, c :: cs, s' =>
    (r.read s c.room).2 = (c.part, c.answer) ∧ r.Makes (r.read s c.room).1 cs s'

/-- **A reader is honest**: it never claims to have delivered more than there was room for. -/
def Honest (r : ByteSource σ) : Prop :=
  ∀ s room n, (r.read s room).2.2 = .delivered n → n ≤ room.size

/-- The raw reads that the loop makes in so many rounds. -/
def calls (r : ByteSource σ) : Nat → Bytes → Nat → σ → List Call
  | 0, _, _, _ => []
  | rounds + 1, buffer, filled, s =>
    if buffer.size ≤ filled then []
    else
      match r.read s (buffer.drop filled) with
      | (s', part, .delivered n) =>
        ⟨buffer.drop filled, part, .delivered n⟩ ::
          if n = 0 then []
          else r.calls rounds (Bytes.patch filled part buffer) (filled + n) s'
      | (s', part, .interrupted) =>
        ⟨buffer.drop filled, part, .interrupted⟩ ::
          r.calls rounds (Bytes.patch filled part buffer) filled s'
      | (_, part, .failed e) => [⟨buffer.drop filled, part, .failed e⟩]

/-- A reader that keeps a log of its raw reads. -/
def logged (r : ByteSource σ) : ByteSource (σ × List Call) where
  read s room :=
    (((r.read s.1 room).1, s.2 ++ [⟨room, (r.read s.1 room).2.1, (r.read s.1 room).2.2⟩]),
      (r.read s.1 room).2)
  size_read s room := r.size_read s.1 room
  remaining s := r.remaining s.1

/-! ### What the loop does -/

/-- **Where the loop stops**: at the limit, at the first raw read that delivers nothing, or at the
first one that fails. The answer is the number of bytes in the buffer, or the failure. -/
inductive Stops (limit : Nat) (b : Bytes) : List Call → Except IoError Nat → Prop
  /-- The buffer is full. -/
  | full {calls : List Call} (on : ∀ c ∈ calls, c.GoesOn) (size_eq : b.size = limit) :
      Stops limit b calls (.ok b.size)
  /-- A raw read delivered nothing. -/
  | atEnd {calls : List Call} {last : Call} (on : ∀ c ∈ calls, c.GoesOn)
      (ended : last.answer = .delivered 0) : Stops limit b (calls ++ [last]) (.ok b.size)
  /-- A raw read failed. -/
  | broken {calls : List Call} {last : Call} {e : IoError} (on : ∀ c ∈ calls, c.GoesOn)
      (failed : last.answer = .failed e) : Stops limit b (calls ++ [last]) (.error e)

/-- **What the loop has done when it has ended**, with the raw reads that it made. -/
structure Fills (r : ByteSource σ) (limit : Nat) (s : σ) (calls : List Call) (s' : σ) (b : Bytes)
    (out : Except IoError Nat) : Prop where
  /-- The raw reads are those of the reader, up to the state that is left. -/
  makes : r.Makes s calls s'
  /-- The buffer holds what they delivered, in order, and nothing else. -/
  content_eq : b = deliveries calls
  /-- That is not more than the limit. -/
  size_le : b.size ≤ limit
  /-- Every raw read is asked for exactly what is left below the limit, and never for nothing. -/
  asks : ∀ before c after, calls = before ++ c :: after →
    0 < c.room.size ∧ (deliveries before).size + c.room.size = limit
  /-- The loop stops as told. -/
  stops : Stops limit b calls out
  /-- Its raw reads are at most one for each byte, those that were interrupted, and the last. -/
  length_le : calls.length ≤ limit + calls.countP Call.isInterrupted + 1

/-! ### Lists of calls -/

/-- The deliveries of two histories are joined. -/
lemma deliveries_append (cs ds : List Call) :
    deliveries (cs ++ ds) = deliveries cs ++ deliveries ds := by
  induction cs with
  | nil => exact (Bytes.empty_append _).symm
  | cons c cs ih => rw [List.cons_append, deliveries, deliveries, ih, Bytes.append_assoc]

/-- A list of calls that starts with one after which the loop goes on stops where the rest does. -/
lemma Stops.cons {limit : Nat} {b : Bytes} {cs : List Call} {out : Except IoError Nat} {c : Call}
    (hc : c.GoesOn) (h : Stops limit b cs out) : Stops limit b (c :: cs) out := by
  have hon : ∀ {ds : List Call}, (∀ d ∈ ds, d.GoesOn) → ∀ d ∈ c :: ds, d.GoesOn := by
    intro ds hds
    exact List.forall_mem_cons.2 ⟨hc, hds⟩
  cases h with
  | full on size_eq => exact .full (hon on) size_eq
  | atEnd on ended => exact .atEnd (hon on) ended
  | broken on failed => exact .broken (hon on) failed

/-- Calls after which the loop goes on were interrupted or delivered a byte. -/
lemma length_le_of_goesOn {cs : List Call} (hon : ∀ c ∈ cs, c.GoesOn)
    (hparts : ∀ c ∈ cs, ∀ n, c.answer = .delivered n → n ≤ c.part.size) :
    cs.length ≤ (deliveries cs).size + cs.countP Call.isInterrupted := by
  induction cs with
  | nil => exact Nat.zero_le _
  | cons c cs ih =>
    obtain ⟨hc, hcs⟩ := List.forall_mem_cons.1 hon
    obtain ⟨hpart, hpartss⟩ := List.forall_mem_cons.1 hparts
    have hrest := ih hcs hpartss
    rw [List.length_cons, deliveries, Bytes.size_append, List.countP_cons]
    rcases hc with hinterrupted | ⟨n, hn, hdelivered⟩
    · have hcount : c.isInterrupted = true := beq_iff_eq.2 hinterrupted
      rw [if_pos hcount]
      omega
    · have hsize : c.bytes.size = n := by
        rw [Call.bytes, hdelivered]
        exact (Bytes.size_take ..).trans (Nat.min_eq_left (hpart n hdelivered))
      omega

/-! ### One round -/

/-- **What one round of the loop does**, whatever number of rounds is left after it. -/
inductive Round (r : ByteSource σ) (buffer : Bytes) (filled : Nat) (s : σ) : Prop
  /-- The buffer was full. -/
  | full (size_eq : buffer.size = filled)
      (fill_eq : ∀ rounds, r.fill (rounds + 1) buffer filled s =
        some (s, buffer.take filled, .ok filled))
      (calls_eq : ∀ rounds, r.calls (rounds + 1) buffer filled s = [])
  /-- A raw read was made, and the loop goes on behind what it delivered. -/
  | on (c : Call) (buffer₁ : Bytes) (s₁ : σ) (lt_size : filled < buffer.size)
      (room_eq : c.room = buffer.drop filled) (read_eq : r.read s c.room = (s₁, c.part, c.answer))
      (goesOn : c.GoesOn) (size_eq : buffer₁.size = buffer.size)
      (le_size : filled + c.bytes.size ≤ buffer.size)
      (take_eq : buffer₁.take (filled + c.bytes.size) = buffer.take filled ++ c.bytes)
      (fill_eq : ∀ rounds, r.fill (rounds + 1) buffer filled s =
        r.fill rounds buffer₁ (filled + c.bytes.size) s₁)
      (calls_eq : ∀ rounds, r.calls (rounds + 1) buffer filled s =
        c :: r.calls rounds buffer₁ (filled + c.bytes.size) s₁)
  /-- A raw read was made, and it was the last. -/
  | last (c : Call) (s₁ : σ) (out : Except IoError Nat) (lt_size : filled < buffer.size)
      (room_eq : c.room = buffer.drop filled) (read_eq : r.read s c.room = (s₁, c.part, c.answer))
      (bytes_eq : c.bytes = .empty)
      (answer_eq : c.answer = .delivered 0 ∧ out = .ok filled ∨
        ∃ e, c.answer = .failed e ∧ out = .error e)
      (fill_eq : ∀ rounds, r.fill (rounds + 1) buffer filled s =
        some (s₁, buffer.take filled, out))
      (calls_eq : ∀ rounds, r.calls (rounds + 1) buffer filled s = [c])

/-- **Every round is one of the three.**

**Proof sketch.** A full buffer ends the loop. Otherwise the next answer decides: bytes are put
behind those before and the loop goes on, unless there are none; an interruption changes nothing
that was filled; a failure ends the loop. -/
lemma Honest.round {r : ByteSource σ} (hr : r.Honest) {buffer : Bytes} {filled : Nat}
    (hle : filled ≤ buffer.size) (s : σ) : r.Round buffer filled s := by
  by_cases hfull : buffer.size ≤ filled
  · refine .full (Nat.le_antisymm hfull hle) (fun rounds => ?_) (fun rounds => ?_)
    · rw [fill, if_pos hfull]
    · rw [calls, if_pos hfull]
  have hlt := Nat.lt_of_not_le hfull
  obtain ⟨s₁, part, answer, hread⟩ :
      ∃ s₁ part answer, r.read s (buffer.drop filled) = (s₁, part, answer) := ⟨_, _, _, rfl⟩
  have hpart : part.size = buffer.size - filled := by
    have hsize := r.size_read s (buffer.drop filled)
    rwa [hread, Bytes.size_drop] at hsize
  have hpatch : (Bytes.patch filled part buffer).size = buffer.size :=
    Bytes.size_patch (by omega)
  have hfront := Bytes.take_patch_offset part hle
  cases answer with
  | delivered n =>
    have hn : n ≤ buffer.size - filled := by
      have hhonest := hr s (buffer.drop filled) n (by rw [hread])
      rwa [Bytes.size_drop] at hhonest
    have hbytes : (part.take n).size = n := (Bytes.size_take ..).trans (Nat.min_eq_left (by omega))
    by_cases hzero : n = 0
    · subst hzero
      refine .last ⟨buffer.drop filled, part, .delivered 0⟩ s₁ (.ok filled) hlt rfl hread
        (Bytes.take_zero _) (.inl ⟨rfl, rfl⟩) (fun rounds => ?_) (fun rounds => ?_)
      · rw [fill, if_neg hfull, hread]
        dsimp only
        rw [if_pos rfl, hfront]
      · rw [calls, if_neg hfull, hread]
        rfl
    · have hcut : (Bytes.patch filled part buffer).take (filled + n) =
          buffer.take filled ++ part.take n := by
        rw [Bytes.take_patch filled buffer (by omega), Bytes.fit_of_le_size hle]
      refine .on ⟨buffer.drop filled, part, .delivered n⟩ (Bytes.patch filled part buffer) s₁ hlt
        rfl hread (.inr ⟨n, Nat.pos_of_ne_zero hzero, rfl⟩) hpatch ?_ ?_ (fun rounds => ?_)
        (fun rounds => ?_)
      · rw [Call.bytes, hbytes]
        omega
      · rw [Call.bytes, hbytes, hcut]
      · rw [fill, if_neg hfull, hread, Call.bytes, hbytes]
        dsimp only
        rw [if_neg hzero]
      · rw [calls, if_neg hfull, hread, Call.bytes, hbytes]
        dsimp only
        rw [if_neg hzero]
  | interrupted =>
    refine .on ⟨buffer.drop filled, part, .interrupted⟩ (Bytes.patch filled part buffer) s₁ hlt
      rfl hread (.inl rfl) hpatch hle ?_ (fun rounds => ?_) (fun rounds => ?_)
    · exact hfront.trans (Bytes.append_empty _).symm
    · rw [fill, if_neg hfull, hread]
      rfl
    · rw [calls, if_neg hfull, hread]
      rfl
  | failed e =>
    refine .last ⟨buffer.drop filled, part, .failed e⟩ s₁ (.error e) hlt rfl hread rfl
      (.inr ⟨e, rfl, rfl⟩) (fun rounds => ?_) (fun rounds => ?_)
    · rw [fill, if_neg hfull, hread]
      dsimp only
      rw [hfront]
    · rw [calls, if_neg hfull, hread]

/-! ### The whole loop -/

section Ended

variable {r : ByteSource σ} {rounds : Nat} {buffer b : Bytes} {filled : Nat} {s s' : σ}
  {out : Except IoError Nat}

/-- The calls of a loop that has ended lead to the state that it leaves. -/
lemma Honest.makes (hr : r.Honest) (hle : filled ≤ buffer.size)
    (h : r.fill rounds buffer filled s = some (s', b, out)) :
    r.Makes s (r.calls rounds buffer filled s) s' := by
  induction rounds generalizing buffer filled s with
  | zero => cases h
  | succ rounds ih =>
    cases hr.round hle s with
    | full _ hfill hcalls =>
      obtain ⟨rfl, -⟩ := Prod.mk.inj (Option.some.inj ((hfill rounds).symm.trans h))
      rw [hcalls]
      exact rfl
    | on c buffer₁ s₁ _ _ hread _ hsize hfits _ hfill hcalls =>
      rw [hfill] at h
      rw [hcalls, Makes, hread]
      exact ⟨rfl, ih (hfits.trans_eq hsize.symm) h⟩
    | last c s₁ out' _ _ hread _ _ hfill hcalls =>
      obtain ⟨rfl, -⟩ := Prod.mk.inj (Option.some.inj ((hfill rounds).symm.trans h))
      rw [hcalls, Makes, hread]
      exact ⟨rfl, rfl⟩

/-- **What is in the buffer** is what was there, and after it what the calls delivered. -/
lemma Honest.content_eq (hr : r.Honest) (hle : filled ≤ buffer.size)
    (h : r.fill rounds buffer filled s = some (s', b, out)) :
    b = buffer.take filled ++ deliveries (r.calls rounds buffer filled s) := by
  induction rounds generalizing buffer filled s with
  | zero => cases h
  | succ rounds ih =>
    cases hr.round hle s with
    | full _ hfill hcalls =>
      obtain ⟨-, hb⟩ := Prod.mk.inj (Option.some.inj ((hfill rounds).symm.trans h))
      rw [hcalls, ← (Prod.mk.inj hb).1]
      exact (Bytes.append_empty _).symm
    | on c buffer₁ s₁ _ _ _ _ hsize hfits hfront hfill hcalls =>
      rw [hfill] at h
      rw [ih (hfits.trans_eq hsize.symm) h, hcalls, hfront, deliveries, Bytes.append_assoc]
    | last c s₁ out' _ _ _ hbytes _ hfill hcalls =>
      obtain ⟨-, hb⟩ := Prod.mk.inj (Option.some.inj ((hfill rounds).symm.trans h))
      rw [hcalls, ← (Prod.mk.inj hb).1, deliveries, hbytes]
      exact (Bytes.append_empty _).symm

/-- What is in the buffer is not more than the buffer has room for. -/
lemma Honest.size_le (hr : r.Honest) (hle : filled ≤ buffer.size)
    (h : r.fill rounds buffer filled s = some (s', b, out)) : b.size ≤ buffer.size := by
  induction rounds generalizing buffer filled s with
  | zero => cases h
  | succ rounds ih =>
    cases hr.round hle s with
    | full _ hfill _ | last _ _ _ _ _ _ _ _ hfill _ =>
      obtain ⟨-, hb⟩ := Prod.mk.inj (Option.some.inj ((hfill rounds).symm.trans h))
      rw [← (Prod.mk.inj hb).1, Bytes.size_take]
      exact Nat.min_le_right ..
    | on c buffer₁ s₁ _ _ _ _ hsize hfits _ hfill _ =>
      rw [hfill] at h
      exact (ih (hfits.trans_eq hsize.symm) h).trans_eq hsize

/-- **Every call is asked for exactly what is left below the limit.** -/
lemma Honest.asks (hr : r.Honest) (hle : filled ≤ buffer.size) {before after : List Call} {c : Call}
    (h : r.calls rounds buffer filled s = before ++ c :: after) :
    0 < c.room.size ∧ filled + (deliveries before).size + c.room.size = buffer.size := by
  induction rounds generalizing buffer filled s before with
  | zero => exact absurd h.symm (by simp [calls])
  | succ rounds ih =>
    cases hr.round hle s with
    | full _ _ hcalls => exact absurd (h.symm.trans (hcalls rounds)) (by simp)
    | on c' buffer₁ s₁ hlt hroom _ _ hsize hfits _ _ hcalls =>
      rw [hcalls] at h
      cases before with
      | nil =>
        obtain ⟨rfl, -⟩ := List.cons.inj h
        rw [hroom, Bytes.size_drop, deliveries, Bytes.size_empty]
        omega
      | cons d before =>
        obtain ⟨rfl, hrest⟩ := List.cons.inj h
        obtain ⟨hpos, hsum⟩ := ih (hfits.trans_eq hsize.symm) hrest
        rw [deliveries, Bytes.size_append]
        omega
    | last c' s₁ out' hlt hroom _ _ _ _ hcalls =>
      rw [hcalls] at h
      obtain ⟨rfl, rfl, rfl⟩ : before = [] ∧ c = c' ∧ after = [] := by
        cases before with
        | nil => exact ⟨rfl, (List.cons.inj h).1.symm, (List.cons.inj h).2.symm⟩
        | cons d before => exact absurd (List.cons.inj h).2.symm (by simp)
      rw [hroom, Bytes.size_drop, deliveries, Bytes.size_empty]
      omega

/-- **Where a loop that has ended stopped.**

**Proof sketch.** Induction on the rounds that are left: the calls before the last are deliveries or
interruptions, and both leave room in the buffer. -/
lemma Honest.stops (hr : r.Honest) (hle : filled ≤ buffer.size)
    (h : r.fill rounds buffer filled s = some (s', b, out)) :
    Stops buffer.size b (r.calls rounds buffer filled s) out := by
  induction rounds generalizing buffer filled s with
  | zero => cases h
  | succ rounds ih =>
    cases hr.round hle s with
    | full hsize hfill hcalls =>
      obtain ⟨-, hb⟩ := Prod.mk.inj (Option.some.inj ((hfill rounds).symm.trans h))
      obtain ⟨rfl, rfl⟩ := Prod.mk.inj hb
      have hcount : (buffer.take filled).size = filled :=
        (Bytes.size_take ..).trans (Nat.min_eq_left hle)
      have hfull : Stops buffer.size (buffer.take filled) [] (.ok (buffer.take filled).size) :=
        .full nofun (hcount.trans hsize.symm)
      rw [hcount] at hfull
      rwa [hcalls]
    | on c buffer₁ s₁ _ _ _ hon hsize hfits _ hfill hcalls =>
      rw [hfill] at h
      rw [hcalls, ← hsize]
      exact (ih (hfits.trans_eq hsize.symm) h).cons hon
    | last c s₁ out' _ _ _ _ hanswer hfill hcalls =>
      obtain ⟨-, hb⟩ := Prod.mk.inj (Option.some.inj ((hfill rounds).symm.trans h))
      obtain ⟨rfl, rfl⟩ := Prod.mk.inj hb
      have hnone : ∀ c' ∈ ([] : List Call), c'.GoesOn := nofun
      rw [hcalls]
      rcases hanswer with ⟨hend, rfl⟩ | ⟨e, hfailed, rfl⟩
      · have hsize : (buffer.take filled).size = filled :=
          (Bytes.size_take ..).trans (Nat.min_eq_left hle)
        have hlast : Stops buffer.size (buffer.take filled) [c] (.ok (buffer.take filled).size) :=
          .atEnd hnone hend
        rwa [hsize] at hlast
      · exact .broken hnone hfailed

end Ended

/-! ### The end of the loop -/

variable {r : ByteSource σ}

/-- The part of a call of the loop has room for what the call delivered. -/
lemma Honest.parts (hr : r.Honest) {cs : List Call} {s s' : σ} (h : r.Makes s cs s') :
    ∀ c ∈ cs, ∀ n, c.answer = .delivered n → n ≤ c.part.size := by
  induction cs generalizing s with
  | nil => exact nofun
  | cons c cs ih =>
    obtain ⟨hread, hrest⟩ := h
    refine List.forall_mem_cons.2 ⟨fun n hn => ?_, ih hrest⟩
    have hroom := hr s c.room n (by rw [hread]; exact hn)
    have hsize := r.size_read s c.room
    rw [hread] at hsize
    exact hroom.trans_eq hsize.symm

/-- **More rounds than there are calls change nothing.** -/
lemma Honest.fill_of_lt (hr : r.Honest) {rounds rounds' : Nat} {buffer : Bytes} {filled : Nat}
    {s : σ} {x : σ × Bytes × Except IoError Nat} (hle : filled ≤ buffer.size)
    (h : r.fill rounds buffer filled s = some x)
    (hlt : (r.calls rounds buffer filled s).length < rounds') :
    r.fill rounds' buffer filled s = some x ∧
      r.calls rounds' buffer filled s = r.calls rounds buffer filled s := by
  induction rounds generalizing rounds' buffer filled s with
  | zero => cases h
  | succ rounds ih =>
    obtain ⟨more, rfl⟩ := Nat.exists_eq_succ_of_ne_zero (Nat.ne_zero_of_lt hlt)
    cases hr.round hle s with
    | full _ hfill hcalls | last _ _ _ _ _ _ _ _ hfill hcalls =>
      exact ⟨(hfill more).trans ((hfill rounds).symm.trans h),
        (hcalls more).trans (hcalls rounds).symm⟩
    | on c buffer₁ s₁ _ _ _ _ hsize hfits _ hfill hcalls =>
      rw [hfill] at h
      rw [hcalls, List.length_cons] at hlt
      obtain ⟨hsame, hlog⟩ := ih (hfits.trans_eq hsize.symm) h (Nat.lt_of_succ_lt_succ hlt)
      exact ⟨(hfill more).trans hsame, by rw [hcalls, hcalls, hlog]⟩

/-- The calls of a loop that has not ended: one for each round, and each of them was interrupted
or delivered a byte for which there was room. -/
lemma Honest.length_calls_of_none (hr : r.Honest) {rounds : Nat} {buffer : Bytes} {filled : Nat}
    {s : σ} (hle : filled ≤ buffer.size) (h : r.fill rounds buffer filled s = none) :
    (r.calls rounds buffer filled s).length = rounds ∧
      rounds ≤ buffer.size - filled +
        (r.calls rounds buffer filled s).countP Call.isInterrupted := by
  induction rounds generalizing buffer filled s with
  | zero => exact ⟨rfl, Nat.zero_le _⟩
  | succ rounds ih =>
    cases hr.round hle s with
    | full _ hfill _ | last _ _ _ _ _ _ _ _ hfill _ =>
      exact absurd ((hfill rounds).symm.trans h) (by simp)
    | on c buffer₁ s₁ hlt hroom hread hon hsize hfits _ hfill hcalls =>
      rw [hfill] at h
      obtain ⟨hlength, hbound⟩ := ih (hfits.trans_eq hsize.symm) h
      have hone : ∀ c' ∈ [c], c'.GoesOn := List.forall_mem_singleton.2 hon
      have hmakes : r.Makes s [c] s₁ := ⟨by rw [hread], by rw [hread]; rfl⟩
      have hstep := length_le_of_goesOn hone (hr.parts hmakes)
      rw [deliveries, deliveries, Bytes.append_empty, List.length_singleton,
        List.countP_singleton] at hstep
      rw [hcalls, List.length_cons, hlength, List.countP_cons]
      refine ⟨rfl, ?_⟩
      rw [hsize] at hbound
      omega

/-- **The loop ends** if only finitely many answers are interruptions. -/
lemma Honest.fill_ne_none (hr : r.Honest) {buffer : Bytes} {filled K : Nat} {s : σ}
    (hle : filled ≤ buffer.size)
    (hK : ∀ rounds, (r.calls rounds buffer filled s).countP Call.isInterrupted ≤ K) :
    r.fill (buffer.size + K + 1) buffer filled s ≠ none := by
  intro h
  have hbound := (hr.length_calls_of_none hle h).2
  have hfew := hK (buffer.size + K + 1)
  omega

/-- **A loop that has ended has done what it should.** -/
lemma Honest.fill_fills (hr : r.Honest) {rounds : Nat} {buffer b : Bytes} {s s' : σ}
    {out : Except IoError Nat} (h : r.fill rounds buffer 0 s = some (s', b, out)) :
    r.Fills buffer.size s (r.calls rounds buffer 0 s) s' b out := by
  have hle := Nat.zero_le buffer.size
  have hmakes := hr.makes hle h
  have hstops := hr.stops hle h
  have hcontent := hr.content_eq hle h
  rw [Bytes.take_zero, Bytes.empty_append] at hcontent
  have hsize := hr.size_le hle h
  refine ⟨hmakes, hcontent, hsize, fun before c after hsplit => ?_, hstops, ?_⟩
  · have hasks := hr.asks hle hsplit
    rwa [Nat.zero_add] at hasks
  have hparts := hr.parts hmakes
  generalize r.calls rounds buffer 0 s = cs at hstops hcontent hparts
  rw [hcontent] at hsize
  cases hstops with
  | full on _ =>
    have hlength := length_le_of_goesOn on hparts
    omega
  | @atEnd ds last on _ | @broken ds last _ on _ =>
    have hlength := length_le_of_goesOn on fun c hc => hparts c (List.mem_append_left _ hc)
    rw [deliveries_append, Bytes.size_append] at hsize
    rw [List.length_append, List.length_singleton, List.countP_append]
    omega

/-- **The log of the loop** is the list of its calls. -/
lemma fill_logged (rounds : Nat) (buffer : Bytes) (filled : Nat) (s : σ) (log : List Call) :
    r.logged.fill rounds buffer filled (s, log) =
      (r.fill rounds buffer filled s).map fun x =>
        ((x.1, log ++ r.calls rounds buffer filled s), x.2) := by
  induction rounds generalizing buffer filled s log with
  | zero => rfl
  | succ rounds ih =>
    rw [fill, fill, calls]
    by_cases hfull : buffer.size ≤ filled
    · rw [if_pos hfull, if_pos hfull, if_pos hfull, Option.map_some, List.append_nil]
    rw [if_neg hfull, if_neg hfull, if_neg hfull]
    obtain ⟨s₁, part, answer, hread⟩ :
        ∃ s₁ part answer, r.read s (buffer.drop filled) = (s₁, part, answer) := ⟨_, _, _, rfl⟩
    have hlogged : r.logged.read (s, log) (buffer.drop filled) =
        ((s₁, log ++ [⟨buffer.drop filled, part, answer⟩]), part, answer) := by
      rw [logged]
      dsimp only
      rw [hread]
    rw [hread, hlogged]
    cases answer with
    | delivered n =>
      dsimp only
      by_cases hzero : n = 0
      · rw [if_pos hzero, if_pos hzero, if_pos hzero, Option.map_some]
      · rw [if_neg hzero, if_neg hzero, if_neg hzero, ih, List.append_assoc, List.singleton_append]
    | interrupted =>
      dsimp only
      rw [ih, List.append_assoc, List.singleton_append]
    | failed e => rfl

/-! ### Reading into a buffer -/

/-- The raw reads of reading into a buffer, which starts with zeros whatever the buffer held. -/
def dataCalls (r : ByteSource σ) (rounds maxLen : Nat) (s : σ) : List Call :=
  r.calls rounds (Bytes.zeros (min (r.remaining s) maxLen)) 0 s

/-- **Reading into a buffer.** Of a reader that never claims to have delivered more than there was
room for, and of whose answers only finitely many are interruptions, the loop ends, with what it
should have done, whatever the buffer held before. The calls are those that the reader logs. -/
theorem readData_fills {σ : Type} (r : ByteSource σ) (honest : r.Honest) (s : σ) (maxLen : Nat)
    (finite : ∃ K, ∀ rounds, (r.dataCalls rounds maxLen s).countP Call.isInterrupted ≤ K) :
    ∃ calls s' b out, r.Fills (min (r.remaining s) maxLen) s calls s' b out ∧
      ∀ rounds, calls.length < rounds → ∀ buffer,
        r.readData rounds buffer maxLen s = some (s', b, out) ∧
        r.logged.readData rounds buffer maxLen (s, []) = some ((s', calls), b, out) := by
  obtain ⟨K, hK⟩ := finite
  have hsize := Bytes.size_zeros (min (r.remaining s) maxLen)
  unfold dataCalls at hK
  generalize hroom : Bytes.zeros (min (r.remaining s) maxLen) = room at hK hsize
  have hle := Nat.zero_le room.size
  obtain ⟨⟨s', b, out⟩, hended⟩ := Option.ne_none_iff_exists'.1 (honest.fill_ne_none hle hK)
  generalize room.size + K + 1 = enough at hended
  refine ⟨r.calls enough room 0 s, s', b, out, hsize ▸ honest.fill_fills hended,
    fun rounds hlt buffer => ?_⟩
  obtain ⟨hsame, hcalls⟩ := honest.fill_of_lt hle hended hlt
  have hdata : r.readData rounds buffer maxLen s = some (s', b, out) := by
    rw [readData, Bytes.fit_take_zero, hroom, hsame]
  have hlog : r.logged.readData rounds buffer maxLen (s, []) =
      some ((s', r.calls rounds room 0 s), b, out) := by
    have hremaining : r.logged.remaining (s, []) = r.remaining s := rfl
    rw [readData, Bytes.fit_take_zero, hremaining, hroom, fill_logged, hsame]
    rfl
  exact ⟨hdata, hcalls ▸ hlog⟩

/-- A reader that answers as it is told, one answer after the other and then with the end of its
content, and that leaves sevens all over the part it is given. -/
def scripted (length : Nat) : ByteSource (List ReadAnswer) where
  read script room :=
    match script with
    | [] => ([], room, .delivered 0)
    | .delivered n :: rest => (rest, .replicate room.size 7, .delivered (min n room.size))
    | answer :: rest => (rest, .replicate room.size 7, answer)
  size_read script room := by
    split
    · rfl
    · exact Bytes.size_replicate ..
    · exact Bytes.size_replicate ..
  remaining _ := length

/-- The source of the example answers with no more than it was asked for. -/
lemma honest_scripted (length : Nat) : (scripted length).Honest := by
  intro script room n h
  unfold scripted at h
  dsimp only at h
  split at h
  · exact (ReadAnswer.delivered.inj h) ▸ Nat.zero_le _
  · exact (ReadAnswer.delivered.inj h) ▸ Nat.min_le_right ..
  · next hne =>
    subst h
    exact (hne n rfl).elim

/-- It is interrupted as often as it is told to be. -/
lemma countP_calls_scripted (length rounds : Nat) (buffer : Bytes) (filled : Nat)
    (script : List ReadAnswer) :
    ((scripted length).calls rounds buffer filled script).countP Call.isInterrupted ≤
      script.length := by
  induction rounds generalizing buffer filled script with
  | zero => exact Nat.zero_le _
  | succ rounds ih =>
    rw [calls]
    split
    · exact Nat.zero_le _
    · cases script with
      | nil => exact Nat.le_refl 0
      | cons answer rest =>
        rw [List.length_cons]
        cases answer with
        | delivered n =>
          dsimp only [scripted]
          split
          · exact Nat.zero_le _
          · exact (ih ..).trans (Nat.le_succ _)
        | interrupted =>
          dsimp only [scripted]
          exact (List.countP_cons_of_pos (by rfl)).trans_le (Nat.succ_le_succ (ih ..))
        | failed e => exact Nat.zero_le _

/-- Five bytes of six are wanted, and come in two reads between interruptions; then a read fails.
The buffer held two bytes before. -/
theorem readData_fills_scripted :
    let script : List ReadAnswer :=
      [.interrupted, .delivered 2, .interrupted, .delivered 1, .failed (.os .isADirectory)]
    (scripted 6).Honest ∧
      (∃ K, ∀ rounds, ((scripted 6).dataCalls rounds 5 script).countP Call.isInterrupted ≤ K) ∧
      (∃ calls s' b out, (scripted 6).Fills 5 script calls s' b out ∧
        ∀ rounds, calls.length < rounds → ∀ buffer,
          (scripted 6).readData rounds buffer 5 script = some (s', b, out) ∧
          (scripted 6).logged.readData rounds buffer 5 (script, []) = some ((s', calls), b, out)) ∧
      (scripted 6).readData 6 (.ofList [1, 2]) 5 script =
        some ([], .ofList [7, 7, 7], .error (.os .isADirectory)) := by
  intro script
  have hfinite : ∃ K, ∀ rounds,
      ((scripted 6).dataCalls rounds 5 script).countP Call.isInterrupted ≤ K :=
    ⟨5, fun rounds => countP_calls_scripted 6 rounds _ 0 script⟩
  exact ⟨honest_scripted 6, hfinite,
    readData_fills (scripted 6) (honest_scripted 6) script 5 hfinite, by decide⟩

end ByteSource

/-! ### Readers of the store -/

namespace Store

variable {κ : Type} (reader : HandleId)

/-- A reader of the store is honest. -/
lemma honest_byteSource : (byteSource (κ := κ) reader).Honest := by
  intro s room n h
  unfold byteSource at h
  dsimp only at h
  split at h
  · next hread =>
    obtain rfl := ReadAnswer.delivered.inj h
    exact size_readRaw_le (congrArg Prod.snd hread)
  · cases h

/-- A reader of the store is never interrupted. -/
lemma countP_calls_byteSource (rounds : Nat) (buffer : Bytes) (filled : Nat) (s : Store κ) :
    ((byteSource reader).calls rounds buffer filled s).countP ByteSource.Call.isInterrupted =
      0 := by
  induction rounds generalizing buffer filled s with
  | zero => rfl
  | succ rounds ih =>
    rw [ByteSource.calls]
    by_cases hfull : buffer.size ≤ filled
    · rw [if_pos hfull]
      rfl
    rw [if_neg hfull]
    unfold byteSource at ih ⊢
    dsimp only at ih ⊢
    cases hread : s.readRaw reader (buffer.drop filled).size with
    | mk s₁ answer =>
      cases answer with
      | ok b =>
        dsimp only
        split
        · rfl
        · exact (List.countP_cons_of_neg (by simp [ByteSource.Call.isInterrupted])).trans (ih ..)
      | error e => rfl

/-- **One round more than there is room is enough** for a reader of the store. -/
lemma byteSource_readData_ne_none (s : Store κ) (buffer : Bytes) (maxLen : Nat) :
    (byteSource reader).readData (min ((byteSource reader).remaining s) maxLen + 1) buffer maxLen
      s ≠ none := by
  rw [ByteSource.readData, Bytes.fit_take_zero]
  have h := (honest_byteSource reader).fill_ne_none (K := 0) (s := s) (Nat.zero_le _)
    fun rounds => Nat.le_of_eq (countP_calls_byteSource reader rounds
      (Bytes.zeros (min ((byteSource reader).remaining s) maxLen)) 0 s)
  rwa [Bytes.size_zeros, Nat.add_zero] at h

section Reads

variable {s : Store κ} {reader : HandleId} {r : Reader} {content : Bytes}
  (hr : s.handle? reader = some (.reader r))
  (hcontent : s.sourceBytes r.source = .ok content)
include hr hcontent

/-- A raw read of the loop: the reader moves past what is moved at once, and this is what the call
delivered. -/
lemma call_byteSource {c : ByteSource.Call} {s₁ : Store κ}
    (hread : (byteSource reader).read s c.room = (s₁, c.part, c.answer)) :
    s₁ = (s.deliver reader (r.source.atOnce c.room.size)).1 ∧
      c.bytes = content.slice r.position (r.source.atOnce c.room.size) ∧
      c.answer = .delivered c.bytes.size := by
  rw [read_byteSource hr hcontent] at hread
  obtain ⟨hstate, hcall⟩ := Prod.mk.inj hread
  obtain ⟨hpart, hanswer⟩ := Prod.mk.inj hcall
  have hbytes : c.bytes = content.slice r.position (r.source.atOnce c.room.size) := by
    rw [ByteSource.Call.bytes, ← hanswer, ← hpart]
    exact Bytes.take_patch_zero _ _
  exact ⟨hstate.symm, hbytes, hbytes ▸ hanswer.symm⟩

/-- **The loop** fills what is left of the room by as many transfers as it takes, and delivers what
one of all the bytes would.

**Proof sketch.** Induction on the rounds. A round that delivers bytes leaves the reader behind
them, with that much less room; the rest is delivered from there on. A round that delivers nothing
although there is room has found the end of the content. -/
lemma fill_byteSource {rounds : Nat} {buffer : Bytes} {filled : Nat} (hle : filled ≤ buffer.size)
    (hrounds : buffer.size - filled < rounds) :
    (byteSource reader).fill rounds buffer filled s =
      some ((s.deliver reader (buffer.size - filled)).1,
        buffer.take filled ++ content.slice r.position (buffer.size - filled),
        .ok (filled + (content.slice r.position (buffer.size - filled)).size)) := by
  induction rounds generalizing s r buffer filled with
  | zero => exact absurd hrounds (Nat.not_lt_zero _)
  | succ rounds ih =>
    cases (honest_byteSource reader).round hle s with
    | full hsize hfill _ =>
      have hnone : content.slice r.position 0 = .empty :=
        Bytes.size_eq_zero_iff.1 (by rw [Bytes.size_slice, Nat.zero_min])
      rw [hfill, hsize, Nat.sub_self, deliver_reader hr hcontent, hnone, Bytes.size_empty,
        Nat.add_zero, setHandle_self hr, Bytes.append_empty, Nat.add_zero]
    | on c buffer₁ s₁ hlt hroom hread hon hsize hfits hfront hfill _ =>
      obtain ⟨rfl, hbytes, hanswer⟩ := call_byteSource hr hcontent hread
      rw [hroom, Bytes.size_drop] at hbytes hfill
      have hpos : 0 < c.bytes.size := by
        rcases hon with hinterrupted | ⟨n, hn, hdelivered⟩
        · cases hanswer.symm.trans hinterrupted
        · exact (ReadAnswer.delivered.inj (hanswer.symm.trans hdelivered)) ▸ hn
      have hreader : (s.deliver reader (r.source.atOnce (buffer.size - filled))).1.handle? reader =
          some (.reader { r with position := r.position + c.bytes.size }) := by
        rw [deliver_reader hr hcontent, handle?_setHandle hr, if_pos rfl, ← hbytes]
      have hsame : (s.deliver reader (r.source.atOnce (buffer.size - filled))).1.sourceBytes
          r.source = .ok content := by
        rw [sourceBytes_deliver, hcontent]
      have hrest := ih hreader hsame (hfits.trans_eq hsize.symm) (by omega)
      have hleft : buffer.size - filled =
          c.bytes.size + (buffer₁.size - (filled + c.bytes.size)) := by omega
      -- both parts together are what is delivered of all that is left
      have hboth : content.slice r.position (buffer.size - filled) = c.bytes ++
          content.slice (r.position + c.bytes.size) (buffer₁.size - (filled + c.bytes.size)) := by
        rw [hleft, ← Bytes.slice_append_slice, hbytes, Bytes.slice_size]
      rw [hfill, hrest, deliver_deliver hr hcontent, ← hbytes, ← hleft, hfront,
        Bytes.append_assoc, hboth, Bytes.size_append, Nat.add_assoc]
    | last c s₁ out hlt hroom hread hnone hanswer hfill _ =>
      obtain ⟨rfl, hbytes, hdelivered⟩ := call_byteSource hr hcontent hread
      rw [hroom, Bytes.size_drop] at hbytes hfill
      have hend : content.size ≤ r.position := by
        have hsize := congrArg Bytes.size (hbytes.symm.trans hnone)
        have hpos := r.source.atOnce_pos (Nat.sub_pos_of_lt hlt)
        rw [Bytes.size_slice, Bytes.size_empty] at hsize
        omega
      have hrest : content.slice r.position (buffer.size - filled) = .empty :=
        Bytes.size_eq_zero_iff.1 (by rw [Bytes.size_slice]; omega)
      obtain rfl : out = .ok filled := by
        rcases hanswer with ⟨-, hout⟩ | ⟨e, hfailed, -⟩
        · exact hout
        · cases hdelivered.symm.trans hfailed
      rw [hfill, deliver_end hr hcontent hend, deliver_end hr hcontent hend, hrest,
        Bytes.append_empty, Bytes.size_empty, Nat.add_zero]

/-- **Reading into a buffer** delivers as many bytes as are wanted and are left of the length of the
content. -/
lemma readData_limited (buffer : Bytes) (n : Nat) : s.readData reader buffer n =
    ((s.deliver reader (min (s.readerRemaining r) n)).1,
      .ok (content.slice r.position (min (s.readerRemaining r) n))) := by
  have hremaining : (byteSource reader).remaining s = s.readerRemaining r := by
    simp only [byteSource, reader?_eq_some.2 hr]
  have hsize := Bytes.size_zeros (min (s.readerRemaining r) n)
  have hfill := fill_byteSource hr hcontent (Nat.zero_le _)
    (Nat.lt_succ_self ((Bytes.zeros (min (s.readerRemaining r) n)).size - 0))
  rw [Nat.sub_zero, hsize, Bytes.take_zero, Bytes.empty_append] at hfill
  unfold readData ByteSource.readData
  dsimp only
  rw [Bytes.fit_take_zero, hremaining, hfill]

/-- **Reading into a buffer** delivers all that is wanted, where the length of the content is its
own. -/
lemma readData_reader (hlength : s.readerLength r = content.size) (buffer : Bytes) (n : Nat) :
    s.readData reader buffer n =
      ((s.deliver reader n).1, .ok (content.slice r.position n)) := by
  have hslice : content.slice r.position (min (s.readerRemaining r) n) =
      content.slice r.position n := by
    rw [readerRemaining, hlength, Bytes.slice_min]
  rw [readData_limited hr hcontent, hslice, deliver_reader hr hcontent, deliver_reader hr hcontent,
    hslice]

end Reads

end Store

end ClaimStore
