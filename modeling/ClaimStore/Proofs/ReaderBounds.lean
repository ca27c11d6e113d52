import ClaimStore.Proofs.Copies
import ClaimStore.Proofs.Cursors

/-!
# Readers within their content

The length of what a reader reads is fixed when it is opened. A read into a buffer never passes it.
Raw reads go to what is there now, so they stay within the length as long as that is not longer: a
value and a row never are, and a file is once somebody makes it longer than it was.

## Main definitions

* `Store.Outgrown` — the file of a reader is longer than when it was opened.
* `Store.rawReads` — raw reads in a row.
* `Store.ReadsWithin` — a reader is within its content.

## Main results

* `Store.deliveries_rawReads` — raw reads in a row deliver one piece.
* `Store.within_of_not_outgrown` — a reader of a file that is not longer is within its content.
* `Store.Ordered.within_turns_iff` — readers are within their content exactly while it is not
  longer.
* `Store.readsUpTo_opened` — every reader, from its open on, and every copy from it.
-/

set_option autoImplicit false

namespace ClaimStore

namespace Store

variable {κ : Type} {s s' : Store κ} {reader : HandleId} {r : Reader}

/-! ### Content that is not longer -/

/-- **The file of a reader is longer than when it was opened.** -/
def Outgrown (s : Store κ) (r : Reader) : Prop :=
  ∃ id n, r.source = .file (.file id) n ∧ n < (s.disk.bytes id).size

/-- Raw reads, one after the other. -/
def rawReads (ns : List Nat) : List (ReaderTurn κ) := ns.map fun n => .ask (.readRaw n)

/-- What is read is not longer than the length that is shown. -/
lemma size_le_readerLength (h : ¬ s.Outgrown r) {content : Bytes}
    (hcontent : s.sourceBytes r.source = .ok content) : content.size ≤ s.readerLength r := by
  unfold readerLength
  cases hsource : r.source with
  | entry t e =>
    rw [hsource] at hcontent
    exact Nat.le_of_eq (congrArg Bytes.size (Except.ok.inj hcontent)).symm
  | bytes b =>
    rw [hsource] at hcontent
    exact Nat.le_of_eq (congrArg Bytes.size (Except.ok.inj hcontent)).symm
  | file i n =>
    rw [hsource] at hcontent
    cases i with
    | directory d => cases hcontent
    | file id =>
      obtain rfl := Except.ok.inj hcontent
      exact Nat.le_of_not_lt fun hlt => h ⟨id, n, hsource, hlt⟩

section Within

variable [DecidableEq κ] [ToString κ]

/-- **A reader is within its content**: its position is in it, and so is all that raw reads deliver
in a row; and one of them delivers what a read into a buffer does of the bytes that are moved at
once. -/
def ReadsWithin (s : Store κ) (reader : HandleId) : Prop :=
  ∃ r, s.reader? reader = some r ∧ r.position ≤ s.readerLength r ∧
    (∀ ns, (deliveries (s.turns reader (rawReads ns)).2).size ≤ s.readerRemaining r) ∧
    ∀ n b, (s.readRaw reader n).2 = .ok b →
      ∀ buffer, s.readData reader buffer (s.atOnce reader n) = ((s.readRaw reader n).1, .ok b)

/-- **Raw reads in a row** deliver one piece of what is read.

**Proof sketch.** Induction on the reads. The first one delivers a piece and leaves the reader
behind it, and the others deliver what comes next. -/
lemma deliveries_rawReads (hr : s.handle? reader = some (.reader r)) {content : Bytes}
    (hcontent : s.sourceBytes r.source = .ok content) (ns : List Nat) :
    deliveries (s.turns reader (rawReads ns)).2 =
      content.slice r.position (ns.map r.source.atOnce).sum := by
  induction ns generalizing s r with
  | nil => exact (Bytes.size_eq_zero_iff.1 (by simp)).symm
  | cons n ns ih =>
    obtain ⟨b, hb⟩ : ∃ b, b = content.slice r.position (r.source.atOnce n) := ⟨_, rfl⟩
    have hreader : (s.readRaw reader n).1.handle? reader =
        some (.reader { r with position := r.position + b.size }) := by
      rw [readRaw_reader hr hcontent, handle?_setHandle hr, if_pos rfl, ← hb]
    have hsame : (s.readRaw reader n).1.sourceBytes r.source = .ok content := by
      rw [readRaw, sourceBytes_deliver, hcontent]
    have hanswer : ReaderAnswer.ofRaw (s.readRaw reader n).2 = .delivered b := by
      rw [readRaw_reader hr hcontent, ← hb]
      rfl
    have hrest := ih hreader hsame
    show deliveries (ReaderAnswer.ofRaw (s.readRaw reader n).2 ::
      ((s.readRaw reader n).1.turns reader (rawReads ns)).2) = _
    rw [hanswer, deliveries, hrest, hb, Bytes.slice_append_slice, List.map_cons, List.sum_cons]

/-- What cannot be read delivers nothing. -/
lemma deliveries_rawReads_error (hr : s.handle? reader = some (.reader r)) {e : IoError}
    (hcontent : s.sourceBytes r.source = .error e) (ns : List Nat) :
    deliveries (s.turns reader (rawReads ns)).2 = .empty := by
  induction ns with
  | nil => rfl
  | cons n ns ih =>
    show deliveries (ReaderAnswer.ofRaw (s.readRaw reader n).2 ::
      ((s.readRaw reader n).1.turns reader (rawReads ns)).2) = _
    rw [readRaw, deliver_error hr hcontent]
    exact ih

/-- **A reader of a file that is not longer is within its content.** -/
lemma within_of_not_outgrown (hr : s.handle? reader = some (.reader r))
    (hposition : r.position ≤ s.readerLength r) (h : ¬ s.Outgrown r) : s.ReadsWithin reader := by
  refine ⟨r, reader?_eq_some.2 hr, hposition, ?_⟩
  cases hcontent : s.sourceBytes r.source with
  | error e =>
    refine ⟨fun ns => ?_, fun n b hb => ?_⟩
    · rw [deliveries_rawReads_error hr hcontent]
      exact Nat.zero_le _
    · rw [readRaw, deliver_error hr hcontent] at hb
      cases hb
  | ok content =>
    have hle := size_le_readerLength h hcontent
    refine ⟨fun ns => ?_, fun n b hb buffer => ?_⟩
    · rw [deliveries_rawReads hr hcontent, Bytes.size_slice, readerRemaining]
      omega
    · rw [readRaw] at hb ⊢
      generalize s.atOnce reader n = n at hb ⊢
      -- more is wanted than there is, or as much is left
      have hslice : content.slice r.position (min (s.readerRemaining r) n) =
          content.slice r.position n := by
        rw [readerRemaining, ← Bytes.slice_min content r.position n, ← Bytes.slice_min]
        congr 1
        omega
      rw [deliver_reader hr hcontent] at hb
      obtain rfl := Except.ok.inj hb
      rw [readData_limited hr hcontent, deliver_reader hr hcontent, deliver_reader hr hcontent,
        hslice]

/-- A reader of a file that is longer is not: read byte by byte to the end of the file, it delivers
more than its content. -/
lemma ReadsWithin.not_outgrown (h : s.ReadsWithin reader)
    (hr : s.handle? reader = some (.reader r)) : ¬ s.Outgrown r := by
  rintro ⟨id, n, hsource, hlt⟩
  obtain ⟨r', hr', hposition, htotal, -⟩ := h
  obtain rfl := Handle.reader.inj (Option.some.inj (hr.symm.trans (reader?_eq_some.1 hr')))
  have hlength : s.readerLength r = n := by rw [readerLength, hsource]
  have hcontent : s.sourceBytes r.source = .ok (s.disk.bytes id) := by rw [hsource]; rfl
  have hone : r.source.atOnce 1 = 1 := r.source.atOnce_of_le (by decide)
  have hread := htotal (List.replicate (s.disk.bytes id).size 1)
  rw [deliveries_rawReads hr hcontent, List.map_replicate, hone, List.sum_replicate,
    Bytes.size_slice, readerRemaining, smul_eq_mul, Nat.mul_one] at hread
  omega

end Within

/-! ### Turns -/

/-- A reader in content that is not longer. -/
def Contained (s : Store κ) (reader : HandleId) : Prop :=
  ∃ r, s.handle? reader = some (.reader r) ∧ r.position ≤ s.readerLength r ∧ ¬ s.Outgrown r

/-- A reader that moves within its content stays there. -/
lemma Contained.move (hr : s.handle? reader = some (.reader r)) (h : ¬ s.Outgrown r) {p : Nat}
    (hp : p ≤ s.readerLength r) :
    (s.setHandle reader (.reader { r with position := p })).Contained reader := by
  refine ⟨{ r with position := p }, by rw [handle?_setHandle hr, if_pos rfl], ?_, h⟩
  have hsame :=
    congrFun (sourceBytes_setHandle s reader (.reader { r with position := p })) r.source
  exact hp.trans_eq (readerLength_congr rfl hsame).symm

/-- What is delivered leaves a reader in its content. -/
lemma Contained.deliver (h : s.Contained reader) (n : Nat) :
    (s.deliver reader n).1.Contained reader := by
  obtain ⟨r, hr, hposition, hout⟩ := h
  cases hcontent : s.sourceBytes r.source with
  | error e =>
    rw [deliver_error hr hcontent]
    exact ⟨r, hr, hposition, hout⟩
  | ok content =>
    have hle := size_le_readerLength hout hcontent
    rw [deliver_reader hr hcontent]
    refine .move hr hout ?_
    rw [Bytes.size_slice]
    omega

/-- **No call leaves content that is not longer.** -/
lemma Contained.ask (h : s.Contained reader) (call : ReaderCall) :
    (s.ask reader call).1.Contained reader := by
  unfold Store.ask
  cases call with
  | readRaw n => exact h.deliver _
  | readData buffer n =>
    dsimp only
    exact readData_induction (P := fun s' => s'.Contained reader) (fun _ n h => h.deliver n) h
      buffer n
  | readToEnd =>
    dsimp only
    unfold readToEnd
    split
    · exact h
    · split
      · exact h
      · exact h.deliver _
  | seek offset =>
    obtain ⟨r, hr, hposition, hout⟩ := h
    dsimp only
    rw [seek, reader?_eq_some.2 hr]
    dsimp only
    split
    · exact ⟨r, hr, hposition, hout⟩
    · next hle => exact .move hr hout (Nat.le_of_not_lt hle)

/-- Whatever a reader reads became, a read into a buffer stays within the length that is shown. -/
lemma size_readData (hr : s.handle? reader = some (.reader r)) {buffer b : Bytes} {n : Nat}
    (h : (s.readData reader buffer n).2 = .ok b) : b.size ≤ s.readerRemaining r := by
  cases hcontent : s.sourceBytes r.source with
  | ok content =>
    rw [readData_limited hr hcontent] at h
    obtain rfl := Except.ok.inj h
    rw [Bytes.size_slice]
    omega
  | error e =>
    have hremaining : (byteSource reader).remaining s = s.readerRemaining r := by
      simp only [byteSource, reader?_eq_some.2 hr]
    have hbroken : ∀ room, (byteSource reader).read s room = (s, room, .failed e) := by
      intro room
      simp only [byteSource, readRaw, deliver_error hr hcontent]
    have hroom := Bytes.size_fit (min (s.readerRemaining r) n) (buffer.take 0)
    unfold readData ByteSource.readData at h
    dsimp only at h
    rw [hremaining] at h
    generalize (buffer.take 0).fit (min (s.readerRemaining r) n) = room at h hroom
    rw [ByteSource.fill, hroom, hbroken] at h
    dsimp only at h
    by_cases hnone : min (s.readerRemaining r) n ≤ 0
    · -- nothing is wanted, or nothing is left
      rw [if_pos hnone] at h
      obtain rfl := Except.ok.inj h
      rw [Bytes.size_take]
      omega
    · rw [if_neg hnone] at h
      cases h

section Turns

variable [DecidableEq κ] [ToString κ] {ts : List (ReaderTurn κ)}

/-- The length that a reader shows stays over every action. -/
lemma Ordered.readerLength_act (h : Ordered s) (hr : s.handle? reader = some (.reader r))
    (a : Action κ) : (s.act a).readerLength r = s.readerLength r := by
  by_cases hfile : ∃ i n, r.source = .file i n
  · obtain ⟨i, n, hsource⟩ := hfile
    rw [readerLength, readerLength, hsource]
  · exact readerLength_congr rfl
      (h.sourceBytes_act hr (fun i n hsource => hfile ⟨i, n, hsource⟩) a)

/-- **A reader stays within its content** while that is not longer, whatever is done meanwhile. -/
lemma Ordered.contained_turns (ho : Ordered s) (h : s.Contained reader)
    (hspares : ∀ t ∈ ts, t.Spares reader)
    (hnot : ∀ before, before <+: ts → ∀ r, (s.turns reader before).1.reader? reader = some r →
      ¬ (s.turns reader before).1.Outgrown r) : (s.turns reader ts).1.Contained reader := by
  have hlive : ∃ r, s.handle? reader = some (.reader r) := h.imp fun _ h => h.1
  obtain ⟨r₀, hr₀⟩ := hlive
  induction ts using List.reverseRecOn with
  | nil => exact h
  | append_singleton ts t ih =>
    have hspares' : ∀ t' ∈ ts, t'.Spares reader := fun t' ht' =>
      hspares t' (List.mem_append_left _ ht')
    have hlast := hnot (ts ++ [t]) List.prefix_rfl
    have hcontained := ih hspares' fun before hbefore =>
      hnot before (hbefore.trans (List.prefix_append ts [t]))
    have hordered := (ho.turns hr₀ hspares').1
    rw [turns_append] at hlast ⊢
    cases t with
    | ask call => exact hcontained.ask call
    | other a =>
      obtain ⟨r, hr, hposition, -⟩ := hcontained
      have hr' := hordered.handle?_act hr
        (hspares (.other a) (List.mem_append_right _ List.mem_cons_self))
      refine ⟨r, hr', ?_, hlast r (reader?_eq_some.2 hr')⟩
      exact hposition.trans_eq (hordered.readerLength_act hr a).symm

/-- **Readers are within their content exactly while it is not longer.** -/
lemma Ordered.within_turns_iff (ho : Ordered s) (hr : s.handle? reader = some (.reader r))
    (hposition : r.position ≤ s.readerLength r) (hspares : ∀ t ∈ ts, t.Spares reader) :
    (∀ before, before <+: ts → (s.turns reader before).1.ReadsWithin reader) ↔
      ∀ before, before <+: ts → ∀ r, (s.turns reader before).1.reader? reader = some r →
        ¬ (s.turns reader before).1.Outgrown r := by
  refine ⟨fun h before hbefore r' hr' => ?_, fun h before hbefore => ?_⟩
  · exact (h before hbefore).not_outgrown (reader?_eq_some.1 hr')
  · have hcontained : s.Contained reader :=
      ⟨r, hr, hposition, h [] (List.nil_prefix) r (reader?_eq_some.2 hr)⟩
    obtain ⟨r', hr', hposition', hout⟩ := ho.contained_turns hcontained
      (fun t ht => hspares t (hbefore.subset ht)) fun before' hbefore' =>
        h before' (hbefore'.trans hbefore)
    exact within_of_not_outgrown hr' hposition' hout

/-- **Raw reads move a reader by all that they deliver**, and the length that it shows stays.

**Proof sketch.** Induction on the turns. A raw read moves the reader by what it delivers and leaves
its source; the turns of others leave the reader. -/
lemma Ordered.position_turns (ho : Ordered s) (hr : s.handle? reader = some (.reader r))
    (hspares : ∀ t ∈ ts, t.Spares reader)
    (hraw : ∀ call ∈ readerCalls ts, ∃ n, call = .readRaw n) :
    ∃ r', (s.turns reader ts).1.handle? reader = some (.reader r') ∧
      r'.position = r.position + (deliveries (s.turns reader ts).2).size ∧
      (s.turns reader ts).1.readerLength r' = s.readerLength r := by
  induction ts generalizing s r with
  | nil => exact ⟨r, hr, rfl, rfl⟩
  | cons t ts ih =>
    have hspares' : ∀ t' ∈ ts, t'.Spares reader := fun t' ht' =>
      hspares t' (List.mem_cons_of_mem t ht')
    have hordered := ho.turn reader t
    cases t with
    | other a =>
      have hr' := ho.handle?_act hr (hspares (.other a) List.mem_cons_self)
      obtain ⟨r', hlive, hposition, hlength⟩ := ih hordered hr' hspares' hraw
      exact ⟨r', hlive, hposition, hlength.trans (ho.readerLength_act hr a)⟩
    | ask call =>
      obtain ⟨n, rfl⟩ := hraw call List.mem_cons_self
      have hraw' : ∀ call ∈ readerCalls ts, ∃ n, call = .readRaw n := fun call hcall =>
        hraw call (List.mem_cons_of_mem _ hcall)
      rw [turns_cons, Store.turn, Store.ask]
      rw [Store.turn, Store.ask] at hordered
      dsimp only at hordered ⊢
      rw [readRaw] at hordered ⊢
      generalize s.atOnce reader n = n at hordered ⊢
      cases hcontent : s.sourceBytes r.source with
      | error e =>
        rw [deliver_error hr hcontent]
        exact ih ho hr hspares' hraw'
      | ok content =>
        rw [deliver_reader hr hcontent] at hordered ⊢
        obtain ⟨r', hlive, hposition, hlength⟩ := ih hordered (r := { r with
          position := r.position + (content.slice r.position n).size })
          (by rw [handle?_setHandle hr, if_pos rfl]) hspares' hraw'
        refine ⟨r', hlive, ?_, hlength.trans ?_⟩
        · rw [hposition]
          show _ = r.position + (content.slice r.position n ++ _).size
          rw [Bytes.size_append, ← Nat.add_assoc]
          rfl
        · have hsame := congrFun (sourceBytes_setHandle s reader (.reader { r with
            position := r.position + (content.slice r.position n).size })) r.source
          exact readerLength_congr rfl hsame

/-! ### Readers that are opened -/

/-- **How far a reader reads**, over these turns. -/
structure ReadsUpTo (s : Store κ) (b : Backend) (reader : HandleId) (ts : List (ReaderTurn κ)) :
    Prop where
  /-- It is within its content after each turn exactly if the content is not longer than when it was
  opened. -/
  within_iff : (∀ before, before <+: ts → (s.turns reader before).1.ReadsWithin reader) ↔
    ∀ before, before <+: ts → ∀ r, (s.turns reader before).1.reader? reader = some r →
      ¬ (s.turns reader before).1.Outgrown r
  /-- It always is, where the backend keeps no files. -/
  within : (∀ D w g, b ≠ .files D w g) →
    ∀ before, before <+: ts → (s.turns reader before).1.ReadsWithin reader
  /-- Raw reads that leave it within its content deliver no more in all than was left. -/
  total : ∀ us, (∀ t ∈ us, t.Spares reader) →
    (∀ call ∈ readerCalls us, ∃ n, call = .readRaw n) →
    ((s.turns reader ts).1.turns reader us).1.ReadsWithin reader →
    ∀ r, (s.turns reader ts).1.reader? reader = some r →
      (deliveries ((s.turns reader ts).1.turns reader us).2).size ≤
        (s.turns reader ts).1.readerRemaining r
  /-- A read into a buffer delivers no more than is left, whatever became of the content. -/
  buffered : ∀ buffer n v, ((s.turns reader ts).1.readData reader buffer n).2 = .ok v →
    ∀ r, (s.turns reader ts).1.reader? reader = some r →
      v.size ≤ (s.turns reader ts).1.readerRemaining r
  /-- A copy from it does not end exactly if it runs after the writer. -/
  copy_iff : ∀ writer, (s.turns reader ts).1.copy reader writer = none ↔
    (s.turns reader ts).1.Chases reader writer
  /-- It always ends, where the backend keeps no files. -/
  copy_ends : (∀ D w g, b ≠ .files D w g) →
    ∀ writer, (s.turns reader ts).1.copy reader writer ≠ none

/-- **How far a reader reads** that is in its content when turns begin. -/
lemma Ordered.readsUpTo (ho : Ordered s) (hr : s.handle? reader = some (.reader r))
    (hposition : r.position ≤ s.readerLength r) {b : Backend}
    (hsource : (∀ D w g, b ≠ .files D w g) → ∀ i n, r.source ≠ .file i n)
    (hspares : ∀ t ∈ ts, t.Spares reader) : s.ReadsUpTo b reader ts := by
  obtain ⟨hordered, p, hp⟩ := ho.turns hr hspares
  have hiff := ho.within_turns_iff hr hposition hspares
  refine ⟨hiff, fun hb => hiff.2 fun before hbefore r' hr' => ?_,
    fun us hus hraw hwithin r' hr' => ?_,
    fun buffer n v hv r' hr' => size_readData (reader?_eq_some.1 hr') hv,
    fun writer => hordered.copy_eq_none_iff reader writer, fun hb writer hnone => ?_⟩
  · -- the source is no file
    obtain ⟨-, p', hp'⟩ := ho.turns hr fun t ht => hspares t (hbefore.subset ht)
    obtain rfl := Handle.reader.inj (Option.some.inj (hp'.symm.trans (reader?_eq_some.1 hr')))
    rintro ⟨id, n, hfile, -⟩
    exact hsource hb _ _ hfile
  · obtain ⟨r'', hlive, hposition', hlength⟩ :=
      hordered.position_turns (reader?_eq_some.1 hr') hus hraw
    obtain ⟨r₂, hr₂, hle, -⟩ := hwithin
    obtain rfl := Handle.reader.inj (Option.some.inj (hlive.symm.trans (reader?_eq_some.1 hr₂)))
    rw [readerRemaining]
    omega
  · obtain ⟨r', w, id, n, target, hlive, -, -, hfile, -⟩ := (hordered.copy_eq_none_iff _ _).1 hnone
    obtain rfl := Handle.reader.inj (Option.some.inj (hp.symm.trans hlive))
    exact hsource hb _ _ hfile

omit [ToString κ] in
/-- A reader that is opened stands at the beginning, and reads a file only where the backend keeps
files. -/
lemma Ordered.reader_readInUnder (ho : Ordered s) {f : Faults} {b : Backend} {i : RepositoryId}
    {c : ClaimId} {h : HandleId} (hb : s.backendOf? i = some b)
    (hok : (s.readInUnder f b c).2 = .ok h) :
    ∃ source, (s.readInUnder f b c).1.handle? h = some (.reader ⟨c, source, 0⟩) ∧
      ((∀ D w g, b ≠ .files D w g) → ∀ x n, source ≠ .file x n) := by
  rcases s.readInUnder_cases f b c with heq | ⟨e, heq⟩
  · rw [heq] at hok ⊢
    have hmakes := makes_readIn (ho.sound.knows_backendOf? hb) c
    revert hok hmakes
    generalize s.readIn b c = q
    intro hok hmakes
    obtain ⟨s', ans⟩ := q
    obtain rfl : ans = .ok h := hok
    obtain ⟨rfl, x, added, source, hreads, rfl⟩ := hmakes.ok
    refine ⟨source, by rw [added.handle?, if_pos rfl], fun hne y n => ?_⟩
    cases hreads with
    | file D w g => exact absurd rfl (hne D w g)
    | entry => simp
    | row => simp
  · rw [heq] at hok
    cases hok

end Turns

/-- **Readers stay within content that is not longer.** Every reader that a session opens in a
repository is within its content after each turn, whatever is done meanwhile to other handles and to
the claim, exactly if the content is not longer than when it was opened; then raw reads deliver what
reads into a buffer do, and no more in all than was left. A value and a row never are longer. A read
into a buffer stays within the length in any case, and a copy does not end exactly if the writer
makes the file of the reader longer ahead of it. -/
theorem readsUpTo_opened [DecidableEq κ] [ToString κ] (name : String) (as : List (Action κ))
    (f : Faults) (op : Operation κ) {s : Store κ} (hs : s = (onDirectory name).session as)
    {i : RepositoryId} {b : Backend} {h : HandleId} {c : ClaimId} {x : String}
    (happ : s.applies op = true) (hb : s.backendOf? i = some b)
    (ho : s.openedUnder f op = some (h, ⟨c, x, .reader i, false⟩)) {ts : List (ReaderTurn κ)}
    (hspares : ∀ t ∈ ts, t.Spares h) : (s.stepUnder f op).ReadsUpTo b h ts := by
  subst hs
  have ordered : Ordered ((onDirectory name : Store κ).session as) :=
    (ordered_onDirectory name).session as
  obtain ⟨-, hstep, hok⟩ := opened_reader happ hb ho
  obtain ⟨source, hlive, hsource⟩ := ordered.reader_readInUnder hb hok
  rw [← hstep] at hlive
  exact (ordered.stepUnder f op).readsUpTo hlive (Nat.zero_le _) hsource hspares

/-- A reader of a value and a reader of a file that are half read, while a writer is asked for. -/
theorem readsUpTo_opened_halfRead :
    ((onDirectory "d" : Store).session (twoBytesWritten (.volatile 100 10))).openedUnder .quiet
        (.readClaim 0) = some (1, ⟨0, "x", .reader 0, false⟩) ∧
      (((onDirectory "d" : Store).session (twoBytesWritten (.volatile 100 10))).stepUnder
        .quiet (.readClaim 0)).ReadsUpTo (.volatile 0 0) 1 halfRead ∧
      ((onDirectory "d" : Store).session
        (twoBytesWritten (.files (.ofString "/d/c")))).openedUnder .quiet (.readClaim 0) =
          some (1, ⟨0, "x", .reader 0, false⟩) ∧
      (((onDirectory "d" : Store).session
        (twoBytesWritten (.files (.ofString "/d/c")))).stepUnder .quiet (.readClaim 0)).ReadsUpTo
          (.files (.ofString "/d/c") 0 0) 1 halfRead := by
  have hvalue : ((onDirectory "d" : Store).session
      (twoBytesWritten (.volatile 100 10))).openedUnder .quiet (.readClaim 0) =
        some (1, ⟨0, "x", .reader 0, false⟩) := by decide +kernel
  have hfile : ((onDirectory "d" : Store).session
      (twoBytesWritten (.files (.ofString "/d/c")))).openedUnder .quiet (.readClaim 0) =
        some (1, ⟨0, "x", .reader 0, false⟩) := by decide +kernel
  refine ⟨hvalue, ?_, hfile, ?_⟩
  · exact readsUpTo_opened "d" (twoBytesWritten (.volatile 100 10)) .quiet (.readClaim 0) rfl
      (by decide +kernel) (by decide +kernel) hvalue spares_halfRead
  · exact readsUpTo_opened "d" (twoBytesWritten (.files (.ofString "/d/c"))) .quiet (.readClaim 0)
      rfl (by decide +kernel) (by decide +kernel) hfile spares_halfRead

/-- A writer appends three bytes. -/
def appendedMeanwhile : List (ReaderTurn Nat) :=
  [.other (.operate .quiet (.writeClaim 0 true)),
    .other (.operate .quiet (.writeData 2 ⟨.ofList [1, 2, 3], Payload.size_three_lt⟩))]

/-- Nothing is done with the reader. -/
lemma spares_appendedMeanwhile : ∀ t ∈ appendedMeanwhile, t.Spares 1 := by
  intro t ht
  simp only [appendedMeanwhile, List.mem_cons, List.not_mem_nil, or_false] at ht
  rcases ht with rfl | rfl
  · intro f op heq
    obtain ⟨-, rfl⟩ := Action.operate.inj heq
    exact ⟨List.not_mem_nil, by simp⟩
  · intro f op heq
    obtain ⟨-, rfl⟩ := Action.operate.inj heq
    exact ⟨by simp [Operation.carried], by simp⟩

/-- **A reader of a file does not always stay within its content**: once a writer appended, a raw
read delivers what was appended and leaves the reader past its length; and a copy from the reader
into the writer never ends. -/
theorem not_within_appended :
    (¬ ∀ (kind : RepositoryKind) (ts : List (ReaderTurn Nat)), (∀ t ∈ ts, t.Spares 1) →
      ((((onDirectory "d" : Store).session (twoBytesWritten kind)).stepUnder .quiet
        (.readClaim 0)).turns 1 ts).1.ReadsWithin 1) ∧
    ¬ ∀ (kind : RepositoryKind) (ts : List (ReaderTurn Nat)), (∀ t ∈ ts, t.Spares 1) →
      ∀ writer, ((((onDirectory "d" : Store).session (twoBytesWritten kind)).stepUnder .quiet
        (.readClaim 0)).turns 1 ts).1.copy 1 writer ≠ none := by
  constructor
  · intro h
    obtain ⟨r, hr, hposition, -⟩ := h (.files (.ofString "/d/c"))
      (appendedMeanwhile ++ [.ask (.readRaw 10)]) fun t ht => by
        rcases List.mem_append.1 ht with ht | ht
        · exact spares_appendedMeanwhile t ht
        · obtain rfl := List.mem_singleton.1 ht
          trivial
    have hlive : ((((onDirectory "d" : Store).session
        (twoBytesWritten (.files (.ofString "/d/c")))).stepUnder .quiet (.readClaim 0)).turns 1
          (appendedMeanwhile ++ [.ask (.readRaw 10)])).1.reader? 1 =
            some ⟨0, .file (.file 0) 2, 5⟩ := by decide +kernel
    obtain rfl := Option.some.inj (hlive.symm.trans hr)
    exact absurd hposition (by decide)
  · intro h
    exact h (.files (.ofString "/d/c")) appendedMeanwhile spares_appendedMeanwhile 2
      (by decide +kernel)

end Store

end ClaimStore
