import ClaimStore.Proofs.SessionRuns

/-!
# A reader among other handles

What is asked of a reader takes turns with all that is done meanwhile to other handles, to the
claim that it reads and to the rest of the store. Only the reader itself moves it, and nothing but a
change of its file changes what it reads.

## Main definitions

* `ClaimStore.ReaderCall`, `ClaimStore.ReaderAnswer` — what is asked of a reader, and its answers.
* `Store.ask` — a reader is asked something.
* `ClaimStore.ReaderTurn`, `Store.turns` — calls of a reader and actions, in any order.
* `Store.Undisturbed` — what a reader reads stays as it is.

## Main results

* `Store.Ordered.handle?_kept` — a handle stays as it is over an action on something else.
* `Store.Ordered.undisturbed` — a reader of a value or of a row is never disturbed.
-/

set_option autoImplicit false

namespace ClaimStore

/-! ### Calls and turns -/

/-- Something that is asked of a reader. -/
inductive ReaderCall where
  /-- At most so many bytes. -/
  | readRaw (n : Nat)
  /-- At most so many bytes, in a buffer. -/
  | readData (buffer : Bytes) (maxLen : Nat)
  /-- All bytes up to the end. -/
  | readToEnd
  /-- To move to an offset. -/
  | seek (offset : Nat)
  deriving DecidableEq, Repr

/-- The answer of a reader. -/
inductive ReaderAnswer where
  /-- Bytes; where a buffer was given, these are what it holds. -/
  | delivered (b : Bytes)
  /-- It moved. -/
  | moved
  /-- A raw read, or one to the end, failed. -/
  | broken (e : IoError)
  /-- A read into a buffer, or a move, failed. -/
  | failed (e : Failure)
  deriving DecidableEq, Repr

namespace ReaderAnswer

/-- The answer of a raw read. -/
def ofRaw : Except IoError Bytes → ReaderAnswer
  | .ok b => .delivered b
  | .error e => .broken e

/-- The answer of a read into a buffer. -/
def ofData : Except Failure Bytes → ReaderAnswer
  | .ok b => .delivered b
  | .error e => .failed e

/-- The answer of a move. -/
def ofMove : Except Failure Unit → ReaderAnswer
  | .ok () => .moved
  | .error e => .failed e

end ReaderAnswer

/-- A call of a reader as an operation. -/
def ReaderCall.operation {κ : Type} (reader : HandleId) : ReaderCall → Operation κ
  | .readRaw n => .readRaw reader n
  | .readData buffer n => .readData reader buffer n
  | .readToEnd => .readToEnd reader
  | .seek offset => .seek reader offset

/-- A call of a reader, or something else that is done meanwhile. -/
inductive ReaderTurn (κ : Type) where
  /-- A call of the reader. -/
  | ask (call : ReaderCall)
  /-- Something else. -/
  | other (a : Action κ)

/-- The action is none on this handle: it neither works on it nor drops it. -/
def Action.Spares {κ : Type} (h : HandleId) (a : Action κ) : Prop :=
  ∀ f op, a = .operate f op → h ∉ op.carried ∧ op ≠ .drop h

namespace ReaderTurn

variable {κ : Type}

/-- What is done meanwhile is nothing on the reader. -/
def Spares (reader : HandleId) : ReaderTurn κ → Prop
  | .ask _ => True
  | .other a => a.Spares reader

/-- The call of the reader that a turn is. -/
def call? : ReaderTurn κ → Option ReaderCall
  | .ask call => some call
  | .other _ => none

end ReaderTurn

/-- The calls of the reader, in order. -/
def readerCalls {κ : Type} (ts : List (ReaderTurn κ)) : List ReaderCall :=
  ts.filterMap ReaderTurn.call?

namespace Store

variable {κ : Type}

/-- A reader is asked something. -/
def ask (s : Store κ) (reader : HandleId) : ReaderCall → Store κ × ReaderAnswer
  | .readRaw n => ((s.readRaw reader n).1, .ofRaw (s.readRaw reader n).2)
  | .readData buffer n => ((s.readData reader buffer n).1, .ofData (s.readData reader buffer n).2)
  | .readToEnd => ((s.readToEnd reader).1, .ofRaw (s.readToEnd reader).2)
  | .seek offset => ((s.seek reader offset).1, .ofMove (s.seek reader offset).2)

variable [DecidableEq κ] [ToString κ]

/-- The state after a turn, and the answer of the reader if it was asked. -/
def turn (s : Store κ) (reader : HandleId) : ReaderTurn κ → Store κ × List ReaderAnswer
  | .ask call => ((s.ask reader call).1, [(s.ask reader call).2])
  | .other a => (s.act a, [])

/-- The state after turns, one after the other, and all answers of the reader. -/
def turns (reader : HandleId) : Store κ → List (ReaderTurn κ) → Store κ × List ReaderAnswer
  | s, [] => (s, [])
  | s, t :: ts =>
    ((turns reader (s.turn reader t).1 ts).1,
      (s.turn reader t).2 ++ (turns reader (s.turn reader t).1 ts).2)

/-- No turns. -/
@[simp] theorem turns_nil (s : Store κ) (reader : HandleId) : s.turns reader [] = (s, []) := rfl

/-- The first of several turns. -/
theorem turns_cons (s : Store κ) (reader : HandleId) (t : ReaderTurn κ)
    (ts : List (ReaderTurn κ)) : s.turns reader (t :: ts) =
      ((turns reader (s.turn reader t).1 ts).1,
        (s.turn reader t).2 ++ (turns reader (s.turn reader t).1 ts).2) := rfl

/-- Turns after turns. -/
theorem turns_append (s : Store κ) (reader : HandleId) (ts ts' : List (ReaderTurn κ)) :
    s.turns reader (ts ++ ts') = ((turns reader (s.turns reader ts).1 ts').1,
      (s.turns reader ts).2 ++ (turns reader (s.turns reader ts).1 ts').2) := by
  induction ts generalizing s with
  | nil => rfl
  | cons t ts ih => rw [List.cons_append, turns_cons, turns_cons, ih, List.append_assoc]

/-- **What every turn preserves, all turns preserve.** -/
theorem turns_induction {P : Store κ → Prop} {reader : HandleId} {ts : List (ReaderTurn κ)}
    (hturn : ∀ s, ∀ t ∈ ts, P s → P (s.turn reader t).1) {s : Store κ} (hs : P s) :
    P (s.turns reader ts).1 := by
  induction ts generalizing s with
  | nil => exact hs
  | cons t ts ih =>
    exact ih (fun s' t' ht' => hturn s' t' (List.mem_cons_of_mem t ht'))
      (hturn s t List.mem_cons_self hs)

/-- **What a reader reads stays as it is** while turns are taken. -/
def Undisturbed (s : Store κ) (reader : HandleId) (ts : List (ReaderTurn κ)) : Prop :=
  ∀ r, s.reader? reader = some r → ∀ before, before <+: ts →
    (s.turns reader before).1.sourceBytes r.source = s.sourceBytes r.source

/-! ### Calls change no content -/

section Calls

variable {s : Store κ} {reader : HandleId}

/-- A call is an action. -/
lemma ask_eq_act (s : Store κ) (reader : HandleId) (call : ReaderCall) :
    (s.ask reader call).1 = s.act (.operate .quiet (call.operation reader)) := by
  rw [act, stepUnder_quiet, step]
  cases call <;> simp only [ask, ReaderCall.operation, applies, perform, if_true]

omit [DecidableEq κ] [ToString κ] in
/-- **Calls change no content.** -/
lemma sourceBytes_ask (s : Store κ) (reader : HandleId) (call : ReaderCall) :
    (s.ask reader call).1.sourceBytes = s.sourceBytes := by
  unfold ask
  cases call with
  | readRaw n => exact sourceBytes_deliver s reader _
  | readData buffer n =>
    dsimp only
    exact readData_induction (P := fun s' => s'.sourceBytes = s.sourceBytes)
      (fun s' n h => (sourceBytes_deliver s' reader n).trans h) rfl buffer n
  | readToEnd =>
    dsimp only
    unfold readToEnd
    split
    · rfl
    · split
      · rfl
      · exact sourceBytes_deliver s reader _
  | seek offset =>
    dsimp only
    unfold seek
    split
    · rfl
    · split
      · rfl
      · exact sourceBytes_setHandle s _ _

end Calls

/-! ### Actions on something else -/

section Actions

variable {s : Store κ} {reader : HandleId} {r : Reader} {a : Action κ}

omit [DecidableEq κ] [ToString κ] in
/-- **A change of length** is one in which nothing fails, unless it is one of a writable file
mapping. -/
lemma resizeWith_cases (f : MappingFaults) (s : Store κ) (map : HandleId) (n : UInt64) :
    s.resizeWith f map n = s.resize map n ∨
      ∃ m b, s.mapping? map = some m ∧ m.readOnly = false ∧ m.backing = .file b ∧
        s.resizeWith f map n = s.resizeFileWith f map m b n := by
  unfold resizeWith resize
  cases hm : s.mapping? map with
  | none => exact .inl rfl
  | some m =>
    cases hro : m.readOnly with
    | true => exact .inl (by simp [hro])
    | false =>
      cases hb : m.backing with
      | file b => exact .inr ⟨m, b, rfl, hro, hb, by simp [hro, hb]⟩
      | entry b => exact .inl (by simp [hro, hb])
      | buffer b => exact .inl (by simp [hro, hb])

omit [DecidableEq κ] [ToString κ] in
/-- A change of the length of a file mapping changes nothing but the disk and the part that is
shown. -/
lemma Resizes.fst_eq {f : MappingFaults} {map : HandleId} {m : Mapping} {b : FileBacking} {n : Nat}
    {p : Store κ × Except Failure Bytes} (h : Resizes f s map m b n p) : p.1 = s ∨ ∃ d b', p.1 =
      ({ s with disk := d } : Store κ).setHandle map (.mapping { m with backing := .file b' }) := by
  cases h with
  | refused => exact .inl rfl
  | blocked =>
    rw [writeBack_eq]
    exact .inr ⟨_, b, rfl⟩
  | uncut =>
    rw [writeBack_eq]
    exact .inr ⟨_, { b with region := .unmapped }, rfl⟩
  | unmapped =>
    rw [writeBack_eq]
    exact .inr ⟨_, { b with region := .unmapped }, rfl⟩
  | done =>
    rw [afterCut, writeBack_eq]
    exact .inr ⟨_, FileBacking.remap { b with region := .unmapped } n, rfl⟩

omit [DecidableEq κ] [ToString κ] in
/-- A change of length leaves all handles but its mapping. -/
lemma handle?_resizeWith {i : HandleId} {x : Handle} (hx : s.handle? i = some x)
    (map : HandleId) (hmap : i = map → ∀ m, x ≠ .mapping m) (f : MappingFaults) (n : UInt64) :
    (s.resizeWith f map n).1.handle? i = some x := by
  have other : ∀ {m s'}, s.mapping? map = some m → Carries [map] s s' →
      s'.handle? i = some x := by
    intro m s' hm hcarries
    refine (hcarries.other_eq i fun hmem => ?_).trans hx
    obtain rfl := List.mem_singleton.1 hmem
    exact hmap rfl m (Option.some.inj (hx.symm.trans (mapping?_eq_some.1 hm)))
  rcases resizeWith_cases f s map n with heq | ⟨m, b, hm, -, hb, heq⟩
  · rw [heq]
    cases hm : s.mapping? map with
    | none => rw [resize, hm, hx]
    | some m => exact other hm (carries_resize s map n)
  · rw [heq]
    rcases (resizes_resizeFileWith f s map m b n).fst_eq with heq | ⟨d, b', heq⟩
    · rw [heq, hx]
    · rw [heq]
      exact other hm (carries_backing (still_disk s d) hm (hb ▸ Backing.Goes.file b b'))

omit [DecidableEq κ] [ToString κ] in
/-- A mapping of a file that belongs to no repository leaves the handles that are there, and the
tables. -/
lemma mapFile_keeps (s : Store κ) (p : Path) (n : UInt64) (readOnly : Bool) (gate : Option Gate) :
    (∀ i x, s.handle? i = some x → (s.mapFile p n readOnly gate).1.handle? i = some x) ∧
      (s.mapFile p n readOnly gate).1.tables = s.tables := by
  unfold mapFile
  cases readOnly with
  | true =>
    simp only [if_true]
    split
    · exact ⟨fun _ _ hx => hx, rfl⟩
    · exact ⟨fun i x hx => ((Still.refl s).added _).handle?_of_some hx, rfl⟩
  | false =>
    simp only [Bool.false_eq_true, if_false]
    split
    · exact ⟨fun _ _ hx => hx, rfl⟩
    · next d b _ => exact ⟨fun i x hx => ((still_disk s d).added _).handle?_of_some hx, rfl⟩

namespace Ordered

/-- **A handle stays as it is over an action** that neither works on it nor ends it. -/
lemma handle?_kept (h : Ordered s) {i : HandleId} {x : Handle} (hx : s.handle? i = some x)
    (hop : ∀ f op, a = .operate f op → i ∉ op.carried ∧ ¬ Finishes s i op)
    (hresize : ∀ f n, a = .resize f i n → ∀ m, x ≠ .mapping m) :
    (s.act a).handle? i = some x := by
  cases a with
  | operate f op =>
    obtain ⟨hcarried, hfinishes⟩ := hop f op rfl
    rcases s.stepUnder_cases f op with heq | alike
    · exact (congrArg (·.handle? i) heq).trans hx
    · obtain ⟨l, ht⟩ := h.tells
      exact (alike.handle? i).trans
        ((ht.effect_step h.sound op).handle?_eq hx hcarried hfinishes)
  | mapFile p n readOnly gate => exact (mapFile_keeps s p n readOnly gate).1 i _ hx
  | mapBuffer b readOnly capacity => exact ((Still.refl s).added _).handle?_of_some hx
  | resize f map n =>
    refine handle?_resizeWith hx map (fun hi => hresize f n ?_) f n
    rw [hi]

/-- **A reader stays as it is over an action on something else.** -/
lemma handle?_act (h : Ordered s) (hr : s.handle? reader = some (.reader r))
    (hspares : a.Spares reader) : (s.act a).handle? reader = some (.reader r) := by
  refine h.handle?_kept hr (fun f op hop => ?_) (by simp)
  obtain ⟨hcarried, hdrop⟩ := hspares f op hop
  refine ⟨hcarried, fun hfinishes => ?_⟩
  cases hfinishes with
  | unmap live => cases (mapping?_eq_some.1 live).symm.trans hr
  | close live => cases (writer?_eq_some.1 live).symm.trans hr
  | drop => exact hdrop rfl

/-- **No action changes a value that is read.** -/
lemma steady_act (h : Ordered s) (a : Action κ) : OnTables EntryTable.Steady s (s.act a) := by
  cases a with
  | operate f op => exact h.sound.steady_stepUnder h.exclusive f op
  | mapFile p n readOnly gate => exact steady_of_tables (mapFile_keeps s p n readOnly gate).2
  | mapBuffer b readOnly capacity => exact steady_of_tables rfl
  | resize f map n =>
    have plain := h.sound.steady_stepUnder h.exclusive .quiet (.resize map n)
    rw [stepUnder_quiet] at plain
    show OnTables EntryTable.Steady s (s.resizeWith f map n).1
    rcases resizeWith_cases f s map n with heq | ⟨m, b, -, -, -, heq⟩
    · rw [heq]
      exact plain
    · rw [heq]
      rcases (resizes_resizeFileWith f s map m b n).fst_eq with heq | ⟨d, b', heq⟩
      · rw [heq]
        exact steady_of_tables rfl
      · rw [heq]
        exact steady_of_tables rfl

/-- What a reader of a value or of a row reads stays over every action. -/
lemma sourceBytes_act (h : Ordered s) (hr : s.handle? reader = some (.reader r))
    (hfile : ∀ i n, r.source ≠ .file i n) (a : Action κ) :
    (s.act a).sourceBytes r.source = s.sourceBytes r.source := by
  cases hsource : r.source with
  | file i n => exact absurd hsource (hfile i n)
  | bytes b => rfl
  | entry t e =>
    have hvalue := (h.steady_act a).value_eq h.sound hr (Handle.reads?_reader hsource)
    exact congrArg Except.ok hvalue

/-- A turn leaves a store in order. -/
lemma turn (h : Ordered s) (reader : HandleId) (t : ReaderTurn κ) :
    Ordered (s.turn reader t).1 := by
  cases t with
  | ask call =>
    rw [Store.turn, ask_eq_act]
    exact h.act _
  | other a => exact h.act a

end Ordered

/-! ### Turns -/

omit [DecidableEq κ] [ToString κ] in
/-- What is delivered moves a reader, and nothing else of it changes. -/
lemma reader_deliver (hr : ∃ p, s.handle? reader = some (.reader { r with position := p }))
    (n : Nat) :
    ∃ p, (s.deliver reader n).1.handle? reader = some (.reader { r with position := p }) := by
  obtain ⟨p, hp⟩ := hr
  cases hcontent : s.sourceBytes r.source with
  | error e =>
    rw [deliver_error hp hcontent]
    exact ⟨p, hp⟩
  | ok content =>
    rw [deliver_reader hp hcontent]
    exact ⟨_, by rw [handle?_setHandle hp, if_pos rfl]⟩

omit [DecidableEq κ] [ToString κ] in
/-- A call of a reader moves it, and nothing else of it changes. -/
lemma reader_ask (hr : s.handle? reader = some (.reader r)) (call : ReaderCall) :
    ∃ p, (s.ask reader call).1.handle? reader = some (.reader { r with position := p }) := by
  unfold ask
  cases call with
  | readRaw n => exact reader_deliver ⟨r.position, hr⟩ _
  | readData buffer n =>
    dsimp only
    exact readData_induction
      (P := fun s' => ∃ p, s'.handle? reader = some (.reader { r with position := p }))
      (fun s' n h => reader_deliver h n) ⟨r.position, hr⟩ buffer n
  | readToEnd =>
    dsimp only
    unfold readToEnd
    rw [reader?_eq_some.2 hr]
    dsimp only
    split
    · exact ⟨r.position, hr⟩
    · exact reader_deliver ⟨r.position, hr⟩ _
  | seek offset =>
    dsimp only
    unfold seek
    rw [reader?_eq_some.2 hr]
    dsimp only
    split
    · exact ⟨r.position, hr⟩
    · exact ⟨offset, by rw [handle?_setHandle hr, if_pos rfl]⟩

namespace Ordered

variable {ts : List (ReaderTurn κ)}

/-- **Turns leave a store in order**, and a reader with what it reads. -/
lemma turns (h : Ordered s) (hr : s.handle? reader = some (.reader r))
    (hspares : ∀ t ∈ ts, t.Spares reader) : Ordered (s.turns reader ts).1 ∧
      ∃ p, (s.turns reader ts).1.handle? reader = some (.reader { r with position := p }) := by
  refine turns_induction (P := fun s' => Ordered s' ∧
    ∃ p, s'.handle? reader = some (.reader { r with position := p }))
    (fun s' t ht ⟨h', p, hp⟩ => ⟨h'.turn reader t, ?_⟩) ⟨h, r.position, hr⟩
  cases t with
  | ask call => exact reader_ask hp call
  | other a => exact ⟨p, h'.handle?_act hp (hspares _ ht)⟩

/-- **A reader of a value or of a row is never disturbed.** -/
lemma undisturbed (h : Ordered s) (hr : s.handle? reader = some (.reader r))
    (hfile : ∀ i n, r.source ≠ .file i n) (hspares : ∀ t ∈ ts, t.Spares reader) :
    s.Undisturbed reader ts := by
  intro r' hr' before hbefore
  obtain rfl : r' = r := Handle.reader.inj
    (Option.some.inj ((reader?_eq_some.1 hr').symm.trans hr))
  refine (turns_induction (P := fun s' => (Ordered s' ∧
    ∃ p, s'.handle? reader = some (.reader { r' with position := p })) ∧
      s'.sourceBytes r'.source = s.sourceBytes r'.source)
    (fun s' t ht ⟨⟨h', p, hp⟩, hsame⟩ => ⟨?_, ?_⟩) ⟨⟨h, r'.position, hr⟩, rfl⟩).2
  · have hspare : ∀ x ∈ [t], x.Spares reader := fun x hx =>
      List.mem_singleton.1 hx ▸ hspares t (hbefore.subset ht)
    exact h'.turns hp hspare
  · cases t with
    | ask call =>
      refine Eq.trans ?_ hsame
      exact congrFun (sourceBytes_ask s' reader call) r'.source
    | other a => exact (h'.sourceBytes_act hp hfile a).trans hsame

end Ordered

end Actions

end Store

end ClaimStore
