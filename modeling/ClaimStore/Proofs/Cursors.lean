import ClaimStore.Proofs.ReaderTurns
import ClaimStore.Proofs.StableViews
import ClaimStore.Proofs.WritableMaps

/-!
# Readers are cursors

A cursor is a string of bytes and a position in it. A reader answers as the cursor does that stands
at the beginning of what is stored when it is opened: a reader of a value or of a row whatever is
done meanwhile, and a reader of a file for as long as nobody changes the file. One raw read of a
file moves a limited number of bytes; apart from that the three kinds of readers are the same.

## Main definitions

* `ClaimStore.Cursor` — bytes, and a position in them.
* `Cursor.ask`, `Cursor.asked` — the answers of a cursor.
* `Backend.atOnce` — the number of bytes that a raw read moves.
* `Store.Follows` — a reader stands where a cursor does.
* `Store.Alone` — turns that leave a reader alone.
* `Store.IsCursor` — a reader is a cursor.

## Main results

* `Cursor.asked_reads` — reads deliver one piece of the content, however it is cut.
* `Store.Follows.ask`, `Store.Follows.turns` — a reader answers as its cursor does.
* `Store.cursor_opened` — every reader, from its open on.
* `Store.not_cursor_atOnce` — a raw read of a file does not move any number of bytes.
-/

set_option autoImplicit false

namespace ClaimStore

/-! ### Cursors -/

/-- **A position in bytes.** -/
structure Cursor where
  /-- The bytes. -/
  content : Bytes
  /-- The position. -/
  position : Nat
  /-- It is in the bytes or at their end. -/
  position_le : position ≤ content.size

namespace Cursor

variable (c : Cursor)

/-- The beginning of bytes. -/
def start (content : Bytes) : Cursor := ⟨content, 0, Nat.zero_le _⟩

/-- The next bytes, at most `n`. -/
def next (n : Nat) : Bytes := c.content.slice c.position n

/-- The cursor behind them. -/
def advance (n : Nat) : Cursor :=
  ⟨c.content, min (c.position + n) c.content.size, Nat.min_le_right ..⟩

/-- The number of bytes up to the end. -/
def remaining : Nat := c.content.size - c.position

/-- **The answer of a cursor**, and the cursor after it, where a raw read moves so many of the bytes
that it is asked for. -/
def ask (atOnce : Nat → Nat) : ReaderCall → Cursor × ReaderAnswer
  | .readRaw n => (c.advance (atOnce n), .delivered (c.next (atOnce n)))
  | .readData _ n => (c.advance n, .delivered (c.next n))
  | .readToEnd => (c.advance c.remaining, .delivered (c.next c.remaining))
  | .seek offset =>
    if h : offset ≤ c.content.size then (⟨c.content, offset, h⟩, .moved)
    else (c, .failed (.content (.outOfBounds offset 0 c.content.size)))

/-- The answers to calls, one after the other. -/
def asked (atOnce : Nat → Nat) : Cursor → List ReaderCall → Cursor × List ReaderAnswer
  | c, [] => (c, [])
  | c, call :: calls =>
    ((asked atOnce (c.ask atOnce call).1 calls).1,
      (c.ask atOnce call).2 :: (asked atOnce (c.ask atOnce call).1 calls).2)

variable (atOnce : Nat → Nat)

/-- No calls. -/
@[simp] lemma asked_nil : c.asked atOnce [] = (c, []) := rfl

/-- The first of several calls. -/
lemma asked_cons (call : ReaderCall) (calls : List ReaderCall) : c.asked atOnce (call :: calls) =
    ((asked atOnce (c.ask atOnce call).1 calls).1,
      (c.ask atOnce call).2 :: (asked atOnce (c.ask atOnce call).1 calls).2) := rfl

/-- The number of the next bytes. -/
@[simp] lemma size_next (n : Nat) : (c.next n).size = min n c.remaining := Bytes.size_slice ..

/-- The position moves by what is delivered. -/
lemma position_advance (n : Nat) :
    (c.advance n).position = c.position + (c.next n).size := by
  have hle := c.position_le
  rw [size_next, remaining, advance]
  dsimp only
  omega

/-- What is next, in two parts. -/
lemma next_append_next (m n : Nat) : c.next m ++ (c.advance m).next n = c.next (m + n) := by
  rw [next, next, position_advance, next]
  exact Bytes.slice_append_slice c.content c.position m n

/-- Behind both parts. -/
lemma advance_advance (m n : Nat) : (c.advance m).advance n = c.advance (m + n) := by
  unfold advance
  dsimp only
  congr 1
  omega

/-- The bytes of a cursor stay. -/
lemma content_asked (calls : List ReaderCall) :
    (c.asked atOnce calls).1.content = c.content := by
  induction calls generalizing c with
  | nil => rfl
  | cons call calls ih =>
    rw [asked_cons]
    refine (ih _).trans ?_
    cases call with
    | seek offset =>
      rw [ask]
      split <;> rfl
    | _ => rfl

end Cursor

/-! ### Cutting a read -/

/-- The number of bytes that a read moves, if there are as many, where it is one of so many
bytes. -/
def ReaderCall.moved? (atOnce : Nat → Nat) : ReaderCall → Option Nat
  | .readRaw n => some (atOnce n)
  | .readData _ n => some n
  | .readToEnd | .seek _ => none

/-- All calls are reads that move so many bytes each. -/
def Reads (atOnce : Nat → Nat) (calls : List ReaderCall) (ns : List Nat) : Prop :=
  calls.map (ReaderCall.moved? atOnce) = ns.map some

/-- All that was delivered. -/
def deliveries : List ReaderAnswer → Bytes
  | [] => .empty
  | .delivered b :: answers => b ++ deliveries answers
  | _ :: answers => deliveries answers

/-- **Reads deliver one piece of the content, however it is cut.** -/
lemma Cursor.asked_reads {atOnce : Nat → Nat} {calls : List ReaderCall} {ns : List Nat}
    (h : Reads atOnce calls ns) (c : Cursor) : (c.asked atOnce calls).1 = c.advance ns.sum ∧
      deliveries (c.asked atOnce calls).2 = c.next ns.sum := by
  induction calls generalizing c ns with
  | nil =>
    obtain rfl : ns = [] := List.map_eq_nil_iff.1 h.symm
    refine ⟨?_, Bytes.ext ?_⟩
    · have hle := c.position_le
      obtain ⟨content, position, _⟩ := c
      simp only [asked_nil, List.sum_nil, advance, Nat.add_zero, Nat.min_eq_left hle]
    · simp [deliveries, next, Bytes.toList_slice]
  | cons call calls ih =>
    obtain ⟨n, ns, rfl⟩ : ∃ n ns', ns = n :: ns' := by
      cases ns with
      | nil => cases h
      | cons n ns => exact ⟨n, ns, rfl⟩
    obtain ⟨hcall, hcalls⟩ := List.cons.inj h
    have hask : c.ask atOnce call = (c.advance n, .delivered (c.next n)) := by
      cases call with
      | readRaw m => rw [← Option.some.inj hcall, ask]
      | readData buffer m => rw [← Option.some.inj hcall, ask]
      | readToEnd => cases hcall
      | seek offset => cases hcall
    obtain ⟨hend, hdelivered⟩ := ih hcalls (c.advance n)
    rw [asked_cons, hask, List.sum_cons]
    dsimp only [deliveries]
    rw [hend, hdelivered, advance_advance, next_append_next]
    exact ⟨rfl, rfl⟩

/-- The number of bytes that a raw read in a backend moves, where so many are asked for: a file
moves a limited number of bytes at once. -/
def Backend.atOnce : Backend → Nat → Nat
  | .files .., n => min n Limits.maxFileTransfer
  | .volatile .., n | .database .., n => n

namespace Store

/-! ### Readers and cursors -/

variable {κ : Type} {s s' : Store κ} {reader : HandleId} {r : Reader} {c : Cursor}
  {atOnce : Nat → Nat}

/-- **A reader stands where a cursor does**, in the same bytes, and a raw read of it moves so many
bytes. -/
structure Follows (s : Store κ) (reader : HandleId) (r : Reader) (atOnce : Nat → Nat) (c : Cursor) :
    Prop where
  /-- It is a reader. -/
  live : s.handle? reader = some (.reader r)
  /-- It reads the bytes. -/
  content_eq : s.sourceBytes r.source = .ok c.content
  /-- Their number is shown. -/
  length_eq : s.readerLength r = c.content.size
  /-- The position is shown. -/
  position_eq : r.position = c.position
  /-- As many bytes are moved at once. -/
  atOnce_eq : r.source.atOnce = atOnce

/-- The length of the content of a reader is that of what it reads, or of the file when it was
opened. -/
lemma readerLength_congr {r r' : Reader} (hsource : r'.source = r.source)
    (h : s'.sourceBytes r.source = s.sourceBytes r.source) :
    s'.readerLength r' = s.readerLength r := by
  unfold readerLength
  rw [hsource]
  cases hr : r.source with
  | file i n => rfl
  | bytes b => rfl
  | entry t e =>
    rw [hr] at h
    exact congrArg Bytes.size (Except.ok.inj h)

namespace Follows

/-- What is left is shown. -/
lemma remaining_eq (h : s.Follows reader r atOnce c) : s.readerRemaining r = c.remaining := by
  rw [readerRemaining, h.length_eq, h.position_eq, Cursor.remaining]

/-- A reader that is moved, as its cursor is. -/
lemma move (h : s.Follows reader r atOnce c) (c' : Cursor) (hcontent : c'.content = c.content) :
    (s.setHandle reader (.reader { r with position := c'.position })).Follows reader
      { r with position := c'.position } atOnce c' where
  live := by rw [handle?_setHandle h.live, if_pos rfl]
  content_eq := by rw [sourceBytes_setHandle, h.content_eq, hcontent]
  length_eq := by
    have hsame := congrFun (sourceBytes_setHandle s reader
      (.reader { r with position := c'.position })) r.source
    exact (readerLength_congr rfl hsame).trans (hcontent ▸ h.length_eq)
  position_eq := rfl
  atOnce_eq := h.atOnce_eq

/-- What is delivered. -/
lemma deliver (h : s.Follows reader r atOnce c) (n : Nat) :
    (s.deliver reader n).2 = .ok (c.next n) ∧
      ∃ r', (s.deliver reader n).1.Follows reader r' atOnce (c.advance n) := by
  have hposition : r.position + (c.content.slice r.position n).size =
      (c.advance n).position := by
    rw [Cursor.position_advance, Cursor.next, h.position_eq]
  rw [deliver_reader h.live h.content_eq, hposition, h.position_eq]
  exact ⟨rfl, _, h.move _ rfl⟩

/-- **A reader answers as its cursor does.** -/
lemma ask (h : s.Follows reader r atOnce c) (call : ReaderCall) :
    (s.ask reader call).2 = (c.ask atOnce call).2 ∧
      ∃ r', (s.ask reader call).1.Follows reader r' atOnce (c.ask atOnce call).1 := by
  unfold Store.ask Cursor.ask
  cases call with
  | readRaw n =>
    obtain ⟨hanswer, hfollows⟩ := h.deliver (atOnce n)
    dsimp only
    rw [readRaw_eq_deliver h.live, h.atOnce_eq]
    exact ⟨congrArg ReaderAnswer.ofRaw hanswer, hfollows⟩
  | readData buffer n =>
    have hread := readData_reader h.live h.content_eq h.length_eq buffer n
    obtain ⟨-, hfollows⟩ := h.deliver n
    dsimp only
    rw [hread, h.position_eq]
    exact ⟨rfl, hfollows⟩
  | readToEnd =>
    have hread : s.readToEnd reader = s.deliver reader c.remaining := by
      have hslice : c.content.slice r.position c.content.size =
          c.content.slice r.position c.remaining := by
        rw [← Bytes.slice_min, Nat.min_eq_left (Nat.sub_le ..), h.position_eq, Cursor.remaining]
      rw [readToEnd_reader h.live h.content_eq, deliver_reader h.live h.content_eq,
        deliver_reader h.live h.content_eq, hslice]
    obtain ⟨hanswer, hfollows⟩ := h.deliver c.remaining
    dsimp only
    rw [hread]
    exact ⟨congrArg ReaderAnswer.ofRaw hanswer, hfollows⟩
  | seek offset =>
    dsimp only
    rw [seek, reader?_eq_some.2 h.live]
    dsimp only
    rw [h.length_eq]
    by_cases hle : offset ≤ c.content.size
    · rw [if_neg (Nat.not_lt.2 hle), dif_pos hle]
      exact ⟨rfl, _, h.move ⟨c.content, offset, hle⟩ rfl⟩
    · rw [if_pos (Nat.lt_of_not_le hle), dif_neg hle]
      exact ⟨rfl, r, h⟩

variable [DecidableEq κ] [ToString κ]

/-- **A reader that is not disturbed answers as its cursor does**, whatever is done meanwhile.

**Proof sketch.** Induction on the turns. A call moves reader and cursor alike; anything else leaves
the reader where it is, and what it reads is the same by assumption. -/
lemma turns (h : s.Follows reader r atOnce c) (ho : Ordered s) {ts : List (ReaderTurn κ)}
    (hspares : ∀ t ∈ ts, t.Spares reader) (hquiet : s.Undisturbed reader ts) :
    (s.turns reader ts).2 = (c.asked atOnce (readerCalls ts)).2 ∧
      ∃ r', (s.turns reader ts).1.Follows reader r' atOnce
        (c.asked atOnce (readerCalls ts)).1 := by
  induction ts generalizing s r c with
  | nil => exact ⟨rfl, r, h⟩
  | cons t ts ih =>
    have hspares' : ∀ t' ∈ ts, t'.Spares reader := fun t' ht' =>
      hspares t' (List.mem_cons_of_mem t ht')
    have hturn : (s.turn reader t).1.sourceBytes r.source = s.sourceBytes r.source :=
      hquiet r (reader?_eq_some.2 h.live) [t] ⟨ts, rfl⟩
    have hspare : ∀ t' ∈ [t], t'.Spares reader := fun t' ht' =>
      List.mem_singleton.1 ht' ▸ hspares t List.mem_cons_self
    obtain ⟨-, p, hp⟩ := ho.turns h.live hspare
    -- what comes later does not disturb the reader that was moved
    have hquiet' : (s.turn reader t).1.Undisturbed reader ts := by
      intro r' hr' before hbefore
      obtain rfl := Handle.reader.inj
        (Option.some.inj ((reader?_eq_some.1 hr').symm.trans hp))
      exact (hquiet r (reader?_eq_some.2 h.live) (t :: before)
        (List.cons_prefix_cons.2 ⟨rfl, hbefore⟩)).trans hturn.symm
    cases t with
    | ask call =>
      obtain ⟨hanswer, r', hfollows⟩ := h.ask call
      obtain ⟨hanswers, hlater⟩ := ih hfollows (ho.turn reader (.ask call)) hspares' hquiet'
      exact ⟨congrArg₂ List.cons hanswer hanswers, hlater⟩
    | other a =>
      have hlive := ho.handle?_act h.live (hspares (.other a) List.mem_cons_self)
      exact ih ⟨hlive, hturn.trans h.content_eq,
        (readerLength_congr rfl hturn).trans h.length_eq, h.position_eq, h.atOnce_eq⟩
        (ho.turn reader (.other a)) hspares' hquiet'

end Follows

/-! ### Readers that are opened -/

section Opens

variable [DecidableEq κ] {f : Faults} {b : Backend} {i : ClaimId} {h : HandleId} {v : Bytes}

/-- **A reader that is opened** stands at the beginning of what is stored, and reads a file only
where the backend keeps files.

**Proof sketch.** By the backend: the reader has the file, the entry or a copy of the row as its
source, each with the stored bytes, and stands at the beginning. -/
lemma follows_readInUnder (hok : (s.readInUnder f b i).2 = .ok h)
    (hv : s.storedBytes? b (s.identifier i) = some v) :
    ∃ r, (s.readInUnder f b i).1.Follows h r b.atOnce (.start v) ∧
      ((∀ D w g, b ≠ .files D w g) → ∀ x n, r.source ≠ .file x n) := by
  cases b with
  | files D w g =>
    have hbytes : s.disk.fileBytes? (contentPath D (s.identifier i)) = some v := hv
    obtain ⟨id, hfile, rfl⟩ := Disk.resolve_of_fileBytes? hbytes
    have hread : s.readInFiles D i =
        succeed (s.addReader i (.file (.file id) (s.disk.length (.file id)))) := by
      unfold readInFiles
      dsimp only
      rw [hfile]
    have hunder : s.readInUnder f (.files D w g) i = s.readInFiles D i := rfl
    rw [hunder, hread] at hok ⊢
    obtain rfl := Except.ok.inj hok
    have hsource : s.sourceBytes (.file (.file id) (s.disk.length (.file id))) =
        .ok (s.disk.bytes id) := rfl
    obtain ⟨hreader, -⟩ := readToEnd_addReader i hsource
    exact ⟨_, ⟨reader?_eq_some.1 hreader, rfl, rfl, rfl, rfl⟩, fun hne => absurd rfl (hne D w g)⟩
  | volatile t w =>
    obtain ⟨e, hfind, hvalue, hlive⟩ := readInTable_ok (s := s) (t := t) (c := i) hok
    obtain ⟨e', hfind', rfl⟩ := Option.map_eq_some_iff.1 hv
    obtain rfl := Option.some.inj (hfind.symm.trans hfind')
    have hcontent : (s.readInUnder f (.volatile t w) i).1.sourceBytes (.entry t e) =
        .ok ((s.table t).value e) := congrArg Except.ok hvalue
    exact ⟨_, ⟨hlive, hcontent, congrArg Bytes.size hvalue, rfl, rfl⟩, fun _ x n => by simp⟩
  | database d p w =>
    have hrow : s.row? d (s.identifier i) = some v := hv
    have hread : s.readInUnder f (.database d p w) i = succeed (s.addReader i (.bytes v)) := by
      unfold readInUnder at hok ⊢
      cases hload : f.load with
      | some e =>
        rw [hload] at hok
        cases hok
      | none =>
        show s.readInRows d i = _
        rw [readInRows, hrow]
    rw [hread] at hok ⊢
    obtain rfl := Except.ok.inj hok
    have hsource : s.sourceBytes (.bytes v) = .ok v := rfl
    obtain ⟨hreader, -⟩ := readToEnd_addReader i hsource
    exact ⟨_, ⟨reader?_eq_some.1 hreader, rfl, rfl, rfl, rfl⟩, fun _ x n => by simp⟩

end Opens

/-! ### Readers among other handles -/

section Laws

variable [DecidableEq κ] [ToString κ]

/-- **Turns that leave a reader alone**: what is done meanwhile is nothing on the reader, and where
the backend keeps files, nobody changes the file. -/
structure Alone (s : Store κ) (b : Backend) (reader : HandleId) (ts : List (ReaderTurn κ)) :
    Prop where
  /-- Nothing else is done with the reader. -/
  spares : ∀ t ∈ ts, t.Spares reader
  /-- The file holds the same bytes after each turn. -/
  quiet : (∃ D w g, b = .files D w g) → s.Undisturbed reader ts

/-- **A reader is a cursor** at the beginning of these bytes, over these turns, where a raw read
moves so many bytes. -/
structure IsCursor (s : Store κ) (b : Backend) (atOnce : Nat → Nat) (reader : HandleId) (v : Bytes)
    (ts : List (ReaderTurn κ)) : Prop where
  /-- It answers as the cursor does. -/
  answers_eq : (s.turns reader ts).2 = ((Cursor.start v).asked atOnce (readerCalls ts)).2
  /-- It shows the position of the cursor, the number of the bytes, and how many are left. -/
  shows : ∃ r, (s.turns reader ts).1.reader? reader = some r ∧
    r.position = ((Cursor.start v).asked atOnce (readerCalls ts)).1.position ∧
    (s.turns reader ts).1.readerLength r = v.size ∧
    (s.turns reader ts).1.readerRemaining r =
      v.size - ((Cursor.start v).asked atOnce (readerCalls ts)).1.position
  /-- Later reads that move the same number of bytes in all deliver the same piece of the bytes,
  however it is cut, and whatever is done meanwhile. -/
  cuts : ∀ us us' ns ns', (s.turns reader ts).1.Alone b reader us →
    (s.turns reader ts).1.Alone b reader us' → Reads atOnce (readerCalls us) ns →
    Reads atOnce (readerCalls us') ns' → ns.sum = ns'.sum →
      deliveries ((s.turns reader ts).1.turns reader us).2 =
          v.slice ((Cursor.start v).asked atOnce (readerCalls ts)).1.position ns.sum ∧
        deliveries ((s.turns reader ts).1.turns reader us').2 =
          deliveries ((s.turns reader ts).1.turns reader us).2

/-- A reader that is left alone is not disturbed. -/
lemma Alone.undisturbed {b : Backend} {ts : List (ReaderTurn κ)} (halone : s.Alone b reader ts)
    (ho : Ordered s) (hr : s.handle? reader = some (.reader r))
    (hsource : (∀ D w g, b ≠ .files D w g) → ∀ x n, r.source ≠ .file x n) :
    s.Undisturbed reader ts := by
  by_cases hfiles : ∃ D w g, b = .files D w g
  · exact halone.quiet hfiles
  · refine ho.undisturbed hr (hsource fun D w g hb => hfiles ⟨D, w, g, hb⟩) halone.spares

/-- **A reader that stands at the beginning of bytes is a cursor**, if it is left alone. -/
lemma Follows.isCursor {b : Backend} {v : Bytes} {ts : List (ReaderTurn κ)}
    (h : s.Follows reader r atOnce (.start v)) (ho : Ordered s)
    (hsource : (∀ D w g, b ≠ .files D w g) → ∀ x n, r.source ≠ .file x n)
    (halone : s.Alone b reader ts) : s.IsCursor b atOnce reader v ts := by
  obtain ⟨hanswers, r', hfollows⟩ :=
    h.turns ho halone.spares (halone.undisturbed ho h.live hsource)
  have hcontent : ((Cursor.start v).asked atOnce (readerCalls ts)).1.content = v :=
    Cursor.content_asked _ _ _
  refine ⟨hanswers, ⟨r', reader?_eq_some.2 hfollows.live, hfollows.position_eq, ?_, ?_⟩, ?_⟩
  · rw [hfollows.length_eq, hcontent]
  · rw [hfollows.remaining_eq, Cursor.remaining, hcontent]
  · -- the reader reads on from the same source
    obtain ⟨hordered, p, hp⟩ := ho.turns h.live halone.spares
    have hsource' : (∀ D w g, b ≠ .files D w g) → ∀ x n, r'.source ≠ .file x n := by
      obtain rfl := Handle.reader.inj (Option.some.inj (hfollows.live.symm.trans hp))
      exact hsource
    have delivered : ∀ {us ns}, (s.turns reader ts).1.Alone b reader us →
        Reads atOnce (readerCalls us) ns → deliveries ((s.turns reader ts).1.turns reader us).2 =
          v.slice ((Cursor.start v).asked atOnce (readerCalls ts)).1.position ns.sum := by
      intro us ns hus hns
      obtain ⟨hus', -⟩ := hfollows.turns hordered hus.spares
        (hus.undisturbed hordered hfollows.live hsource')
      rw [hus', (Cursor.asked_reads hns _).2, Cursor.next, hcontent]
    intro us us' ns ns' hus hus' hns hns' hsum
    rw [delivered hus hns, delivered hus' hns', hsum]
    exact ⟨rfl, rfl⟩

end Laws

/-- **Readers are cursors.** Every reader that a session opens in a repository answers raw reads,
reads into a buffer, reads to the end and moves as a cursor does that stands at the beginning of the
bytes that were stored for its claim when it was opened, and shows the position of that cursor, the
number of the bytes and how many are left: a reader of a value or of a row whatever is done
meanwhile to other handles and to the claim, and a reader of a file while nobody changes the file.
A raw read moves all the bytes that it is asked for, or as many as a file moves at once. However a
read of these bytes is cut, its pieces make the same bytes. -/
theorem cursor_opened [DecidableEq κ] [ToString κ] (name : String) (as : List (Action κ))
    (f : Faults) (op : Operation κ) {s : Store κ} (hs : s = (onDirectory name).session as)
    {i : RepositoryId} {b : Backend} {h : HandleId} {c : ClaimId} {x : String} {v : Bytes}
    (happ : s.applies op = true) (hb : s.backendOf? i = some b)
    (ho : s.openedUnder f op = some (h, ⟨c, x, .reader i, false⟩))
    (hv : s.storedBytes? b x = some v) {ts : List (ReaderTurn κ)}
    (halone : (s.stepUnder f op).Alone b h ts) :
    (s.stepUnder f op).IsCursor b b.atOnce h v ts := by
  subst hs
  have ordered : Ordered ((onDirectory name : Store κ).session as) :=
    (ordered_onDirectory name).session as
  obtain ⟨rfl, hstep, hok⟩ := opened_reader happ hb ho
  obtain ⟨r, hfollows, hsource⟩ := follows_readInUnder hok hv
  rw [← hstep] at hfollows
  exact hfollows.isCursor (ordered.stepUnder f op) hsource halone

/-- A session in which the two bytes of a claim are written. -/
def twoBytesWritten (kind : RepositoryKind) : List (Action Nat) :=
  [.operate .quiet (.openRepository kind), .operate .quiet (.addClaim "x" (some 0)),
    .operate .quiet (.writeClaim 0 false),
    .operate .quiet (.writeData 0 ⟨.ofList [1, 2], Payload.size_two_lt⟩),
    .operate .quiet (.close 0)]

/-- A reader is asked for one byte, is moved past the end, and is asked for the rest; a writer is
asked for meanwhile. -/
def halfRead : List (ReaderTurn Nat) :=
  [.ask (.readRaw 1), .other (.operate .quiet (.writeClaim 0 true)), .ask (.seek 3),
    .ask (.readData (.ofList [7, 7, 7]) 2)]

/-- Nothing else is done with the reader. -/
lemma spares_halfRead : ∀ t ∈ halfRead, t.Spares 1 := by
  intro t ht
  simp only [halfRead, List.mem_cons, List.not_mem_nil, or_false] at ht
  rcases ht with rfl | rfl | rfl | rfl
  · trivial
  · intro f op heq
    obtain ⟨-, rfl⟩ := Action.operate.inj heq
    exact ⟨List.not_mem_nil, by simp⟩
  · trivial
  · trivial

/-- A writer that was opened has not changed the file. -/
lemma undisturbed_halfRead :
    (((onDirectory "d" : Store).session
      (twoBytesWritten (.files (.ofString "/d/c")))).stepUnder .quiet (.readClaim 0)).Undisturbed 1
        halfRead := by
  intro r hr before hbefore
  have hlive : (((onDirectory "d" : Store).session
      (twoBytesWritten (.files (.ofString "/d/c")))).stepUnder .quiet (.readClaim 0)).reader? 1 =
        some ⟨0, .file (.file 0) 2, 0⟩ := by decide +kernel
  obtain rfl := Option.some.inj (hlive.symm.trans hr)
  have hmem := (List.mem_inits before halfRead).2 hbefore
  simp only [halfRead, List.inits, List.map_cons, List.map_nil, List.mem_cons, List.not_mem_nil,
    or_false] at hmem
  rcases hmem with rfl | rfl | rfl | rfl | rfl <;> decide +kernel

/-- A reader of a value and a reader of a file that are half read are cursors. -/
theorem cursor_opened_halfRead :
    ((onDirectory "d" : Store).session (twoBytesWritten (.volatile 100 10))).openedUnder .quiet
        (.readClaim 0) = some (1, ⟨0, "x", .reader 0, false⟩) ∧
      (((onDirectory "d" : Store).session (twoBytesWritten (.volatile 100 10))).stepUnder
        .quiet (.readClaim 0)).IsCursor (.volatile 0 0) (Backend.volatile 0 0).atOnce 1
          (.ofList [1, 2]) halfRead ∧
      ((onDirectory "d" : Store).session
        (twoBytesWritten (.files (.ofString "/d/c")))).openedUnder .quiet (.readClaim 0) =
          some (1, ⟨0, "x", .reader 0, false⟩) ∧
      (((onDirectory "d" : Store).session
        (twoBytesWritten (.files (.ofString "/d/c")))).stepUnder .quiet (.readClaim 0)).IsCursor
          (.files (.ofString "/d/c") 0 0) (Backend.files (.ofString "/d/c") 0 0).atOnce 1
          (.ofList [1, 2]) halfRead := by
  have hvalue : ((onDirectory "d" : Store).session
      (twoBytesWritten (.volatile 100 10))).openedUnder .quiet (.readClaim 0) =
        some (1, ⟨0, "x", .reader 0, false⟩) := by decide +kernel
  have hfile : ((onDirectory "d" : Store).session
      (twoBytesWritten (.files (.ofString "/d/c")))).openedUnder .quiet (.readClaim 0) =
        some (1, ⟨0, "x", .reader 0, false⟩) := by decide +kernel
  refine ⟨hvalue, ?_, hfile, ?_⟩
  · exact cursor_opened "d" (twoBytesWritten (.volatile 100 10)) .quiet (.readClaim 0) rfl
      (by decide +kernel) (by decide +kernel) hvalue (by decide +kernel)
      ⟨spares_halfRead, by simp⟩
  · exact cursor_opened "d" (twoBytesWritten (.files (.ofString "/d/c"))) .quiet (.readClaim 0) rfl
      (by decide +kernel) (by decide +kernel) hfile (by decide +kernel)
      ⟨spares_halfRead, fun _ => undisturbed_halfRead⟩

/-- The answers: the stale bytes of the buffer are gone, and the move past the end did nothing. -/
example :
    ((((onDirectory "d" : Store).session (twoBytesWritten (.volatile 100 10))).stepUnder .quiet
      (.readClaim 0)).turns 1 halfRead).2 =
        [.delivered (.ofList [1]), .failed (.content (.outOfBounds 3 0 2)),
          .delivered (.ofList [2])] := by
  decide +kernel

/-! ### Raw reads of a long file -/

/-- A reader that is asked for something is left alone. -/
lemma alone_ask {κ : Type} [DecidableEq κ] [ToString κ] {s : Store κ} {b : Backend}
    (reader : HandleId) (call : ReaderCall) : s.Alone b reader [.ask call] where
  spares t ht := by
    obtain rfl := List.mem_singleton.1 ht
    trivial
  quiet _ r' _ before hbefore := by
    have hmem := (List.mem_inits before [.ask call]).2 hbefore
    simp only [List.inits, List.map_cons, List.map_nil, List.mem_cons, List.not_mem_nil,
      or_false] at hmem
    rcases hmem with rfl | rfl
    · rfl
    · exact congrFun (sourceBytes_ask s reader call) r'.source

/-- A session that stores three bytes in a file and makes it longer through a mapping. -/
def longFile (n : UInt64) : List (Action Nat) :=
  threeBytes.map (fun p => .operate p.1 p.2) ++
    [.operate .quiet (.mapContent 0 0 n false), .operate .quiet (.unmap 1)]

/-- The file holds that many bytes. -/
lemma stores_longFile {n : UInt64} (hn : n.toNat ≤ Disk.maxFileLength) :
    ((onDirectory "d" : Store).session (longFile n)).Stores 0 (.files (.ofString "d") 0 0) 0
      ((Bytes.ofList [1, 2, 3]).fit (max n.toNat 3)) := by
  obtain ⟨s₀, hs₀⟩ : ∃ s₀, s₀ = (onDirectory "d" : Store).runUnder threeBytes := ⟨_, rfl⟩
  obtain ⟨hs, ht⟩ := tells_runUnder (κ := Nat) "d" threeBytes
  have hidentifier : s₀.identifier 0 = "x" := by
    rw [hs₀]
    decide +kernel
  have hrewrites : s₀.Rewrites 0 (.files (.ofString "d") 0 0) 0 n
      ((Bytes.ofList [1, 2, 3]).fit n.toNat) ((Bytes.ofList [1, 2, 3]).fit (max n.toNat 3)) := by
    rw [hs₀] at hidentifier ⊢
    refine rewrites_of_idle hs ht (disk_sound_runUnder "d" threeBytes) nofun (by decide +kernel)
      ?_ ?_ ?_
    · rw [hidentifier]
      exact idle_threeBytes
    · rw [hidentifier]
      exact ⟨openable_threeBytes, .inl hn⟩
    · decide +kernel
  have hplace : s₀.handles.length = 1 := by
    rw [hs₀]
    decide +kernel
  have hclaims : 0 < s₀.claims.length := by
    rw [hs₀]
    decide +kernel
  have hclaim : s₀.applies (.mapContent 0 0 n false) = true := decide_eq_true hclaims
  have hsession : (onDirectory "d" : Store).session (longFile n) =
      ((s₀.mapContent 0 0 n false).1.unmap 1).1 := by
    have hrun : (onDirectory "d" : Store).session (longFile n) =
        (s₀.stepUnder .quiet (.mapContent 0 0 n false)).stepUnder .quiet (.unmap 1) := by
      rw [hs₀]
      rfl
    rw [hrun, stepUnder_quiet, stepUnder_quiet, step, step, if_pos hclaim]
    rfl
  rw [hsession, ← hplace]
  exact hrewrites.leaves

/-- **A raw read of a file does not move any number of bytes**: of a file of more bytes than a file
moves at once, one raw read delivers fewer than it is asked for. -/
theorem not_cursor_atOnce : ¬ ∀ (as : List (Action Nat)) (op : Operation Nat) i b h c x v
    (ts : List (ReaderTurn Nat)),
    ((onDirectory "d" : Store).session as).applies op = true →
      ((onDirectory "d" : Store).session as).backendOf? i = some b →
        ((onDirectory "d" : Store).session as).openedUnder .quiet op =
          some (h, ⟨c, x, .reader i, false⟩) →
          ((onDirectory "d" : Store).session as).storedBytes? b x = some v →
            (((onDirectory "d" : Store).session as).stepUnder .quiet op).Alone b h ts →
              (((onDirectory "d" : Store).session as).stepUnder .quiet op).IsCursor b id h v ts := by
  intro hall
  obtain ⟨s, hs⟩ : ∃ s, s = (onDirectory "d" : Store).session (longFile 0x7FFFF001) := ⟨_, rfl⟩
  obtain ⟨v, hv⟩ : ∃ v, v = (Bytes.ofList [1, 2, 3]).fit (Limits.maxFileTransfer + 1) := ⟨_, rfl⟩
  have hbytes : s.storedBytes? (.files (.ofString "d") 0 0) (s.identifier 0) = some v := by
    rw [hs, hv]
    exact (stores_longFile (by decide)).bytes_eq
  have happ : s.applies (.readContent 0 0) = true := by
    rw [hs]
    decide +kernel
  have hbackend : s.backendOf? 0 = some (.files (.ofString "d") 0 0) := by
    rw [hs]
    decide +kernel
  have hopened : s.openedUnder .quiet (.readContent 0 0) =
      some (2, ⟨0, s.identifier 0, .reader 0, false⟩) := by
    rw [hs]
    decide +kernel
  obtain ⟨-, hstep, hok⟩ := opened_reader happ hbackend hopened
  obtain ⟨r, hfollows, -⟩ := follows_readInUnder hok hbytes
  rw [← hstep] at hfollows
  have halone : (s.stepUnder .quiet (.readContent 0 0)).Alone (.files (.ofString "d") 0 0) 2
      [.ask (.readRaw (Limits.maxFileTransfer + 1))] := alone_ask 2 _
  have hanswer := (hfollows.ask (.readRaw (Limits.maxFileTransfer + 1))).1
  subst hs
  have hcursor := (hall _ _ _ _ _ _ _ _ _ happ hbackend hopened hbytes halone).answers_eq
  -- the reader delivers as many bytes as a file moves at once, and the cursor one more
  have hboth := (List.cons.inj hcursor).1.symm.trans hanswer
  have hsize := congrArg Bytes.size (ReaderAnswer.delivered.inj hboth)
  rw [Cursor.size_next, Cursor.size_next] at hsize
  have hremaining : (Cursor.start v).remaining = Limits.maxFileTransfer + 1 := by
    show v.size - 0 = _
    rw [hv, Bytes.size_fit, Nat.sub_zero]
  rw [hremaining] at hsize
  revert hsize
  decide

end Store

end ClaimStore
