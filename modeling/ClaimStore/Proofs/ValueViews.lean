import ClaimStore.Proofs.ReaderBytes
import ClaimStore.Proofs.ValueSteps

/-!
# Views of values

What a handle reads of an entry is inside the value, and it stays as it is for as long as the handle
reads it, whatever is done meanwhile. A handle that was opened for a claim owns the entry that was
made under the identifier of the claim.

## Main definitions

* `Store.Insides` — all handles read inside the values.
* `Store.Viewed` — what is always true of handles and the values that they read.

## Main results

* `Store.Insides.step` — readers stay inside the values that they read.
* `Store.Viewed.stepUnder`, `Store.viewed_runUnder` — all operations keep it true.
* `Store.Effect.goes_back` — a handle that reads went on from the handle that was there.
* `Store.Viewed.reads_runUnder` — what a handle reads stays as it is.
-/

set_option autoImplicit false

namespace ClaimStore

/-! ### Handles that go on -/

section Handles

variable {x x' : Handle}

/-- A handle that goes on reads what it read. -/
lemma Handle.Goes.reads?_eq (h : x.Goes x') : x'.reads? = x.reads? := by
  cases h with
  | @mapping m m' hm =>
    obtain ⟨backing, readOnly, hooks⟩ := m
    obtain ⟨backing', readOnly', hooks'⟩ := m'
    have hgoes : backing.Goes backing' := hm.backing_goes
    cases hgoes with
    | file => rfl
    | entry hbor hview => simp [Handle.reads?, hbor, hview]
    | buffer => rfl
  | reader => rfl
  | writer => rfl
  | refl => rfl

/-- A handle that goes on writes what it wrote. -/
lemma Handle.Goes.writes?_eq (h : x.Goes x') : x'.writes? = x.writes? := by
  cases h with
  | @mapping m m' hm =>
    obtain ⟨backing, readOnly, hooks⟩ := m
    obtain ⟨backing', readOnly', hooks'⟩ := m'
    have hgoes : backing.Goes backing' := hm.backing_goes
    cases hgoes with
    | file => rfl
    | entry hbor hview => simp [Handle.writes?, hbor, hview]
    | buffer => rfl
  | reader => rfl
  | @writer w _ hsink =>
    obtain ⟨c, sink, n, lease⟩ := w
    cases hsink <;> cases lease <;> rfl
  | refl => rfl

/-- What is left of a handle reads nothing. -/
lemma Handle.Leaves.reads?_eq (h : x.Leaves (some x')) : x'.reads? = none := by
  cases h with
  | mapping m =>
    obtain ⟨backing, readOnly, hooks⟩ := m
    cases backing <;> rfl
  | writer => rfl

/-- Nor does it write anything. -/
lemma Handle.Leaves.writes?_eq (h : x.Leaves (some x')) : x'.writes? = none := by
  cases h with
  | mapping m =>
    obtain ⟨backing, readOnly, hooks⟩ := m
    cases backing <;> rfl
  | writer => rfl

/-- The value that a read-only mapping reads. -/
lemma Handle.reads?_mapping {m : Mapping} {b : EntryBacking} {t : TableId} {e : EntryId}
    (hb : m.backing = .entry b) (hview : b.view = .read) (hbor : b.borrow = some (t, e)) :
    (Handle.mapping m).reads? = some (t, e) := by
  simp [Handle.reads?, hb, hview, hbor]

/-- The value that a reader reads. -/
lemma Handle.reads?_reader {r : Reader} {t : TableId} {e : EntryId} (hr : r.source = .entry t e) :
    (Handle.reader r).reads? = some (t, e) := by
  simp [Handle.reads?, hr]

end Handles

namespace Store

open EntryTable (Steady Exclusive)

variable {κ : Type} {s s' : Store κ} {l l' : Ledger}

/-! ### Inside the values -/

/-- All handles read inside the values. -/
def Insides (s : Store κ) : Prop := ∀ h x, s.handle? h = some x → x.Inside s

/-- A value that a handle reads stays over a step that is steady. -/
lemma OnTables.value_eq (h : OnTables Steady s s') (hs : s.Sound) {i : HandleId} {x : Handle}
    (hx : s.handle? i = some x) {t : TableId} {e : EntryId} (hr : x.reads? = some (t, e)) :
    (s'.table t).value e = (s.table t).value e :=
  (h t).value_eq e (hs.readLock_pos_iff.2 ⟨i, readsValue_iff.2 ⟨x, hx, hr⟩⟩)

/-- A handle that stays is inside after a step that is steady. -/
lemma inside_steady {x : Handle} (hi : x.Inside s) (steady : OnTables Steady s s') (hs : s.Sound)
    {i : HandleId} (hx : s.handle? i = some x) : x.Inside s' := by
  cases x with
  | mapping m =>
    intro b t e hb hview hbor
    rw [steady.value_eq hs hx (Handle.reads?_mapping hb hview hbor)]
    exact hi b t e hb hview hbor
  | reader r =>
    intro t e hsource
    rw [steady.value_eq hs hx (Handle.reads?_reader hsource)]
    exact hi t e hsource
  | _ => trivial

/-- So is one that goes on without moving. -/
lemma inside_goes {x x' : Handle} (hi : x.Inside s) (hr : ∀ r, x ≠ .reader r) (hg : x.Goes x') :
    x'.Inside s := by
  cases hg with
  | @mapping m m' hm =>
    intro b' t e hb' hview hbor
    obtain ⟨backing, readOnly, hooks⟩ := m
    obtain ⟨backing', readOnly', hooks'⟩ := m'
    have hgoes : backing.Goes backing' := hm.backing_goes
    obtain rfl : backing' = .entry b' := hb'
    cases hgoes with
    | @entry b _ hbor' hview' hsize =>
      rw [hsize (by rw [← hview', hview]; nofun)]
      exact hi b t e rfl (hview' ▸ hview) (hbor' ▸ hbor)
  | reader r _ => exact absurd rfl (hr r)
  | writer => trivial
  | refl => exact hi

namespace Insides

/-- Steps in which no reader is worked on. -/
lemma carries (hi : Insides s) (hs : s.Sound) (steady : OnTables Steady s s')
    {hs' : List HandleId} (h : Carries hs' s s')
    (hne : ∀ i ∈ hs', ∀ r, s.handle? i ≠ some (.reader r)) : Insides s' := by
  intro i x' hx'
  by_cases hmem : i ∈ hs'
  · obtain ⟨x, hx, hg⟩ := h.back hx'
    have hr : ∀ r, x ≠ .reader r := fun r heq => hne i hmem r (heq ▸ hx)
    cases hg with
    | mapping hm =>
      -- what the mapping reads stays, so it may be looked at before it goes on
      have stays := inside_steady (hi i _ hx) steady hs hx
      exact inside_goes stays hr (.mapping hm)
    | reader r _ => exact absurd rfl (hr r)
    | writer => trivial
    | refl => exact inside_steady (hi i _ hx) steady hs hx
  · rw [h.other_eq i hmem] at hx'
    exact inside_steady (hi i x' hx') steady hs hx'

/-- A reader that moves inside its value. -/
lemma move (hi : Insides s) {reader : HandleId} {r : Reader}
    (hr : s.handle? reader = some (.reader r)) {p : Nat}
    (hp : ∀ t e, r.source = .entry t e → p ≤ ((s.table t).value e).size) :
    Insides (s.setHandle reader (.reader { r with position := p })) := by
  intro i x hx
  rw [handle?_setHandle hr] at hx
  split at hx
  · obtain rfl := Option.some.inj hx
    exact hp
  · have inside := hi i x hx
    cases x <;> exact inside

/-- A reader stays inside the value when it is read. -/
lemma deliver (hi : Insides s) (reader : HandleId) (n : Nat) :
    Insides (s.deliver reader n).1 := by
  cases hr : s.reader? reader with
  | none =>
    rw [Store.deliver, hr]
    exact hi
  | some r =>
    rw [reader?_eq_some] at hr
    cases hcontent : s.sourceBytes r.source with
    | error e =>
      rw [Store.deliver, reader?_eq_some.2 hr]
      dsimp only
      rw [hcontent]
      exact hi
    | ok content =>
      rw [deliver_reader hr hcontent]
      refine hi.move hr fun t e hsource => ?_
      have hle := hi reader _ hr t e hsource
      rw [hsource] at hcontent
      obtain rfl := Except.ok.inj hcontent
      rw [Bytes.size_slice]
      omega

/-- It stays inside when it is moved. -/
lemma seek (hi : Insides s) (reader : HandleId) (offset : Nat) :
    Insides (s.seek reader offset).1 := by
  unfold Store.seek
  split
  · exact hi
  · next r hr =>
    split
    · exact hi
    · next hle =>
      refine hi.move (reader?_eq_some.1 hr) fun t e hsource => ?_
      rw [readerLength, hsource] at hle
      exact Nat.le_of_not_lt hle

/-- It stays inside when it is read to its end. -/
lemma readToEnd (hi : Insides s) (reader : HandleId) : Insides (s.readToEnd reader).1 := by
  unfold Store.readToEnd
  split
  · exact hi
  · split
    · exact hi
    · exact hi.deliver reader _

section Writes

variable (hs : s.Sound) (hx : ∀ t, (s.table t).Exclusive)
include hs hx

/-- Readers stay inside when a writer takes bytes, as nobody reads what it writes to. -/
lemma accept (hi : Insides s) (writer : HandleId) (b : Bytes) :
    Insides (s.accept writer b).1 := by
  have steady := (hs.guarded_accept hx writer b).toSteady
  have carries := carries_accept s (List.mem_singleton.2 (rfl : writer = writer)) b
  cases hw : s.writer? writer with
  | none =>
    rw [Store.accept, hw]
    exact hi
  | some w =>
    refine hi.carries hs steady carries fun i hmem r hr => ?_
    obtain rfl := List.mem_singleton.1 hmem
    cases (writer?_eq_some.1 hw).symm.trans hr

/-- They stay inside when it takes bytes in full. -/
lemma writeAll (hi : Insides s) (writer : HandleId) (b : Bytes) :
    Insides (s.writeAll writer b).1 := by
  unfold Store.writeAll
  split
  · exact hi
  · exact hi.accept hs hx writer b

/-- They stay inside when it takes a payload. -/
lemma writeData (hi : Insides s) (writer : HandleId) (b : Bytes) :
    Insides (s.writeData writer b).1 := by
  have h := hi.writeAll hs hx writer b
  unfold Store.writeData
  split <;> next heq => rw [heq] at h; exact h

/-- They stay inside when bytes are copied. -/
lemma copy (hi : Insides s) {reader writer : HandleId} {r : Except IoError Nat}
    (h : s.copy reader writer = some (s', r)) : Insides s' := by
  refine (copy_induction (P := fun s' => s'.Sound ∧ (∀ t, (s'.table t).Exclusive) ∧ Insides s')
    (fun s₁ n h₁ => ?_) (fun s₁ b hb h₁ => ?_) ⟨hs, hx, hi⟩ h).2.2
  · have steady := steady_of_tables (s₁.tables_deliver reader n)
    exact ⟨(h₁.1.deliver reader n).sound, fun t => (steady t).exclusive (h₁.2.1 t),
      h₁.2.2.deliver reader n⟩
  · have guarded := h₁.1.guarded_writeAll h₁.2.1 writer b
    exact ⟨(h₁.1.writeAll writer hb).sound, fun t => (guarded t).exclusive (h₁.2.1 t),
      h₁.2.2.writeAll h₁.1 h₁.2.1 writer b⟩

end Writes

end Insides

variable [DecidableEq κ] [ToString κ]

omit [DecidableEq κ] [ToString κ] in
/-- A handle of another sort is no mapping that is worked on. -/
lemma Insides.onMapping (hi : Insides s) (hs : s.Sound) (steady : OnTables Steady s s')
    {map : HandleId} (h : Carries [map] s s') (hnone : s.mapping? map = none → s' = s) :
    Insides s' := by
  cases hm : s.mapping? map with
  | none => exact (hnone hm).symm ▸ hi
  | some m =>
    refine hi.carries hs steady h fun i hmem r hr => ?_
    obtain rfl := List.mem_singleton.1 hmem
    cases (mapping?_eq_some.1 hm).symm.trans hr

omit [DecidableEq κ] [ToString κ] in
/-- What a handle that ended leaves reads nothing. -/
lemma inside_leaves {x x' : Handle} (h : x.Leaves (some x')) : x'.Inside s := by
  generalize hx : some x' = o at h
  cases h with
  | mapping m =>
    obtain rfl := Option.some.inj hx
    rintro b t e hb hview -
    obtain ⟨backing, readOnly, hooks⟩ := m
    cases backing with
    | entry =>
      obtain rfl := Backing.entry.inj hb
      cases hview
    | _ => cases hb
  | writer w =>
    obtain rfl := Option.some.inj hx
    trivial
  | nothing => cases hx

/-- Handles that go on stay inside the values that they read. -/
lemma Insides.of_carries (hi : Insides s) (hs : s.Sound) (hx : ∀ t, (s.table t).Exclusive)
    {op : Operation κ} (h : Carries op.carried s (s.step op)) : Insides (s.step op) := by
  have steady := hs.steady_step hx op
  cases op with
  | writeAt map offset b =>
    refine hi.onMapping hs steady h fun hm => ?_
    simp [Store.step, applies, perform, Store.writeAt, hm]
  | fillView map byte =>
    refine hi.onMapping hs steady h fun hm => ?_
    simp [Store.step, applies, perform, Store.fillView, hm]
  | resize map n =>
    refine hi.onMapping hs steady h fun hm => ?_
    simp [Store.step, applies, perform, Store.resize, hm]
  | registerHook map name failure probe =>
    refine hi.onMapping hs steady h fun hm => ?_
    simp [Store.step, applies, perform, Store.registerHook, hm]
  | readRaw reader n => exact hi.deliver reader _
  | readData reader buffer maxLen =>
    exact readData_induction (P := Insides) (fun s' n h => h.deliver reader n) hi buffer maxLen
  | readToEnd reader => exact hi.readToEnd reader
  | seek reader offset => exact hi.seek reader offset
  | writeRaw writer b => exact hi.accept hs hx writer _
  | writeData writer b => exact hi.writeData hs hx writer b.bytes
  | copy reader writer =>
    show Insides (s.perform (.copy reader writer))
    rcases s.perform_copy reader writer with heq | ⟨s', r, hcopy, heq⟩ <;> rw [heq]
    · exact hi
    · exact hi.copy hs hx hcopy
  | _ => exact hi.carries hs steady h fun i hmem => by cases hmem

/-- **Readers stay inside the values that they read.** -/
lemma Insides.step (hi : Insides s) (ht : Tells l s) (hs : s.Sound)
    (hx : ∀ t, (s.table t).Exclusive) (op : Operation κ) : Insides (s.step op) := by
  have steady := hs.steady_step hx op
  have same : (s.step op).handles = s.handles → Insides (s.step op) := fun hh i x hx' =>
    have hx := (handle?_congr hh i).symm.trans hx'
    inside_steady (hi i x hx) steady hs hx
  cases ht.effect_step hs op with
  | founds _ _ h => exact same h.handles_eq
  | closes _ h => exact same (h ▸ rfl)
  | removes _ _ frame _ _ => exact same frame.handles_eq
  | frame _ hh _ _ _ => exact same hh
  | adds added fresh _ =>
    intro i x hx'
    rw [added.handle?] at hx'
    split at hx'
    · obtain rfl := Option.some.inj hx'
      exact fresh.inside
    · exact inside_steady (hi i x hx') steady hs hx'
  | ends _ live ended leaves _ _ _ _ =>
    intro i x hx'
    rw [ended.handle? live] at hx'
    split at hx'
    · exact inside_leaves (hx' ▸ leaves)
    · exact inside_steady (hi i x hx') steady hs hx'
  | carries _ h => exact hi.of_carries hs hx h

/-! ### Where handles come from -/

section Back

omit [DecidableEq κ] [ToString κ]

/-- **A handle was there before a step**, as itself or as the one that it is left of, or it was made
by the step. -/
lemma Effect.back {op : Operation κ} (h : Effect l l' s op s') {i : HandleId} {x' : Handle}
    (hx' : s'.handle? i = some x') :
    (∃ x, s.handle? i = some x ∧ (x.Goes x' ∨ x.Leaves (some x'))) ∨
      i = s.handles.length ∧ Fresh s' (l' i) x' := by
  have same : s'.handles = s.handles → ∃ x, s.handle? i = some x ∧
      (x.Goes x' ∨ x.Leaves (some x')) := fun hh =>
    ⟨x', (handle?_congr hh i).symm.trans hx', .inl (.refl x')⟩
  cases h with
  | founds _ _ h => exact .inl (same h.handles_eq)
  | closes _ h => exact .inl (same (h ▸ rfl))
  | removes _ _ frame _ _ => exact .inl (same frame.handles_eq)
  | frame _ hh _ _ _ => exact .inl (same hh)
  | carries _ h =>
    obtain ⟨x, hx, hg⟩ := h.back hx'
    exact .inl ⟨x, hx, .inl hg⟩
  | adds added fresh hl =>
    rw [added.handle?] at hx'
    split at hx'
    · next hi =>
      obtain rfl := Option.some.inj hx'
      rw [hl, hi, Ledger.set, if_pos rfl]
      exact .inr ⟨rfl, fresh⟩
    · exact .inl ⟨x', hx', .inl (.refl x')⟩
  | ends _ live ended leaves _ _ _ _ =>
    rw [ended.handle? live] at hx'
    split at hx'
    · next hi => exact .inl ⟨_, hi ▸ live, .inr (hx' ▸ leaves)⟩
    · exact .inl ⟨x', hx', .inl (.refl x')⟩

/-- **A handle that reads went on** from the handle that was there. -/
lemma Effect.goes_back {op : Operation κ} (h : Effect l l' s op s') {i : HandleId} {x' : Handle}
    (hi : i < s.handles.length) (hx' : s'.handle? i = some x') {p : TableId × EntryId}
    (hr : x'.reads? = some p) : ∃ x, s.handle? i = some x ∧ x.Goes x' := by
  obtain ⟨x, hx, hg | hleaves⟩ | ⟨rfl, -⟩ := h.back hx'
  · exact ⟨x, hx, hg⟩
  · cases hleaves.reads?_eq.symm.trans hr
  · exact absurd hi (Nat.lt_irrefl _)

end Back

/-! ### All states -/

/-- **What is always true of handles and the values that they read.** -/
structure Viewed (l : Ledger) (s : Store κ) : Prop where
  /-- Handles hold what is counted. -/
  sound : s.Sound
  /-- The ledger tells what they are. -/
  tells : Tells l s
  /-- No lock has readers and a writer inside. -/
  exclusive : ∀ t, (s.table t).Exclusive
  /-- Handles read inside the values. -/
  insides : Insides s
  /-- A handle that was opened for a claim owns the entry of the identifier. -/
  keyed : ∀ h y x t e, l h = some y → s.handle? h = some x → x.owned? = some (t, e) →
    (s.table t).keyOf? e = some (.text y.identifier)
  /-- A handle that ended reads and writes nothing. -/
  spent : ∀ h y x, l h = some y → y.ended = true → s.handle? h = some x →
    x.reads? = none ∧ x.writes? = none

omit [DecidableEq κ] [ToString κ] in
/-- Nothing is read of an empty store. -/
lemma viewed_empty (name : String) : Viewed Ledger.empty (onDirectory name : Store κ) where
  sound := sound_onDirectory name
  tells := tells_empty name
  exclusive t e he := absurd he (Nat.lt_irrefl 0)
  insides h x hx := by simp [onDirectory, handle?] at hx
  keyed h y x t e hy := nomatch hy
  spent h y x hy := nomatch hy

namespace Viewed

/-- What is viewed stays so when an operation is made. -/
lemma step (hv : Viewed l s) (op : Operation κ) : Viewed (l.after .quiet s op) (s.step op) where
  sound := (hv.sound.step op).sound
  tells := hv.tells.step hv.sound op
  exclusive t := (hv.sound.steady_step hv.exclusive op t).exclusive (hv.exclusive t)
  insides := hv.insides.step hv.tells hv.sound hv.exclusive op
  keyed i y x' t e hy hx' ho := by
    obtain ⟨x, hx, -⟩ | ⟨-, fresh⟩ := (hv.tells.effect_step hv.sound op).back hx'
    · have hlt := lt_of_handle? hx
      obtain ⟨y', hy', -, hid, -⟩ | ⟨-, hopened⟩ := after_entry hy
      · obtain ⟨z, hz, howned⟩ := (hv.sound.step op).lasts.owned_eq i x' hlt hx'
        refine (hv.sound.steady_step hv.exclusive op t).keyOf?_eq e _ ?_
        rw [← hid]
        exact hv.keyed i y' z t e hy' hz (howned.symm.trans ho)
      · exact absurd (hv.sound.opened_eq_length hopened) (Nat.ne_of_lt hlt)
    · exact fresh.keyed y t e hy ho
  spent i y x' hy hended hx' := by
    -- a handle that ended before still reads and writes nothing
    have old : ∀ {x}, l i = some y → s.handle? i = some x → x.Goes x' ∨ x.Leaves (some x') →
        x'.reads? = none ∧ x'.writes? = none := by
      rintro x hy hx (hg | hleaves)
      · rw [hg.reads?_eq, hg.writes?_eq]
        exact hv.spent i y x hy hended hx
      · exact ⟨hleaves.reads?_eq, hleaves.writes?_eq⟩
    have effect := hv.tells.effect_step hv.sound op
    obtain ⟨x, hx, hxx'⟩ | ⟨-, fresh⟩ := effect.back hx'
    · cases effect with
      | founds _ hl _ => exact old (hl ▸ hy) hx hxx'
      | closes hl _ => exact old (hl ▸ hy) hx hxx'
      | removes _ hl _ _ _ => exact old (hl ▸ hy) hx hxx'
      | frame hl _ _ _ _ => exact old (hl ▸ hy) hx hxx'
      | carries hl _ => exact old (hl ▸ hy) hx hxx'
      | adds _ _ hl =>
        refine old ?_ hx hxx'
        rwa [hl, Ledger.set, if_neg (Nat.ne_of_lt (lt_of_handle? hx))] at hy
      | @ends j _ _ _ _ live ended leaves _ _ _ hl =>
        by_cases hij : i = j
        · subst hij
          rw [ended.handle? live, if_pos rfl] at hx'
          have hleaves := hx' ▸ leaves
          exact ⟨hleaves.reads?_eq, hleaves.writes?_eq⟩
        · refine old ?_ hx hxx'
          rwa [hl, Ledger.set, if_neg hij] at hy
    · exact absurd (fresh.live y hy) (by simp [hended])

omit [DecidableEq κ] [ToString κ] in
/-- What is read is in the tables, so it agrees where these agree. -/
lemma alike (hv : Viewed l s) (h : Alike s s') : Viewed l s' := by
  have table_eq : ∀ t, s'.table t = s.table t := fun t => by rw [table, table, h.tables_eq]
  refine ⟨hv.sound.alike h, hv.tells.of_frame h.handles_eq h.repositories_eq,
    fun t => table_eq t ▸ hv.exclusive t, fun i x hx => ?_, fun i y x t e hy hx ho => ?_,
    fun i y x hy hended hx => hv.spent i y x hy hended (h.handle? i ▸ hx)⟩
  · have inside := hv.insides i x (h.handle? i ▸ hx)
    cases x with
    | mapping m => exact fun b t e => table_eq t ▸ inside b t e
    | reader r => exact fun t e => table_eq t ▸ inside t e
    | _ => trivial
  · rw [table_eq]
    exact hv.keyed i y x t e hy (h.handle? i ▸ hx) ho

/-- **All operations keep it true**, whatever fails on the way. -/
lemma stepUnder (hv : Viewed l s) (f : Faults) (op : Operation κ) :
    Viewed (l.after f s op) (s.stepUnder f op) := by
  rcases after_cases f l s op with ⟨hstep, hl⟩ | ⟨alike, hl⟩
  · rw [hstep, hl]
    exact hv
  · rw [hl]
    exact (hv.step op).alike alike

/-- **A handle that reads went on from the one that was there, and what it reads stays as it is**,
over all that is done meanwhile. -/
lemma reads_runUnder (hv : Viewed l s) (ops : List (Faults × Operation κ)) {i : HandleId}
    (hi : i < s.handles.length) {x' : Handle} (hx' : (s.runUnder ops).handle? i = some x')
    {t : TableId} {e : EntryId} (hr : x'.reads? = some (t, e)) :
    ∃ x, s.handle? i = some x ∧ x.Goes x' ∧
      ((s.runUnder ops).table t).value e = (s.table t).value e := by
  refine (ledger_induction (P := fun s' l' => Viewed l' s' ∧ s.handles.length ≤ s'.handles.length ∧
    ∀ x', s'.handle? i = some x' → x'.reads? = some (t, e) →
      ∃ x, s.handle? i = some x ∧ x.Goes x' ∧ (s'.table t).value e = (s.table t).value e)
    (fun f s' l' op ⟨hv', hle, ih⟩ => ⟨hv'.stepUnder f op, ?_, fun x'' hx'' hr'' => ?_⟩)
    ⟨hv, Nat.le_refl _, fun x hx _ => ⟨x, hx, .refl x, rfl⟩⟩ ops).2.2 x' hx' hr
  · rcases s'.stepUnder_cases f op with h | alike
    · rw [h]
      exact hle
    · rw [alike.handles_eq]
      exact Nat.le_trans hle (hv'.sound.step op).lasts.length_le
  · have back : ∃ x', s'.handle? i = some x' ∧ x'.Goes x'' := by
      rcases s'.stepUnder_cases f op with h | alike
      · exact ⟨x'', h ▸ hx'', .refl x''⟩
      · exact (hv'.tells.effect_step hv'.sound op).goes_back (Nat.lt_of_lt_of_le hi hle)
          (alike.handle? i ▸ hx'') hr''
    obtain ⟨x', hx', hg'⟩ := back
    have hr' : x'.reads? = some (t, e) := hg'.reads?_eq.symm.trans hr''
    obtain ⟨x, hx, hg, hvalue⟩ := ih x' hx' hr'
    refine ⟨x, hx, hg.trans hg', ?_⟩
    rw [(hv'.sound.steady_stepUnder hv'.exclusive f op).value_eq hv'.sound hx' hr', hvalue]

end Viewed

/-- **It is true after every run.** -/
lemma viewed_runUnder (name : String) (ops : List (Faults × Operation κ)) :
    Viewed (ledgerOf name ops) ((onDirectory name : Store κ).runUnder ops) :=
  ledger_induction (P := fun s l => Viewed l s) (fun f _ _ op hv => hv.stepUnder f op)
    (viewed_empty name) ops

end Store

end ClaimStore
