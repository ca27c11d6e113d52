import ClaimStore.Proofs.Exclusion
import ClaimStore.Proofs.FillLoop

/-!
# Stable views

What a reader or a read-only mapping of a volatile repository reads is the value as it was stored
when the handle was opened, byte for byte and for as long as the handle is live, whatever is done
meanwhile to the table, to other handles and through other claims. So no read is ever out of range,
and none sees bytes of a later writer.

## Main definitions

* `Operation.mappedSize?` — the number of bytes that a mapping is opened with.
* `Store.stored?` — what a table stores for an identifier.
* `Store.StableViews` — what is read stays as it is, from a state on.

## Main results

* `Store.Insides.shows`, `Store.Insides.delivers` — reads are in range.
* `Store.mapInTable_ok`, `Store.readInTable_ok` — opens that read.
* `Store.Viewed.stableViews` — what is read stays as it is.
* `Store.stableViews_runUnder` — readers or one writer, and stable views, after every run.
-/

set_option autoImplicit false

namespace ClaimStore

/-- The number of bytes that a mapping is opened with. -/
def Operation.mappedSize? {κ : Type} : Operation κ → Option UInt64
  | .mapContent _ _ n _ | .mapClaim _ n _ => some n
  | _ => none

namespace Store

variable {κ : Type} {s s' : Store κ} {l : Ledger} {t : TableId} {e : EntryId} {h : HandleId}

/-! ### Reads in range -/

/-- **A read-only mapping shows** the first bytes of its value, all of which are there. -/
lemma Insides.shows (hi : Insides s) {m : Mapping} (hm : s.mapping? h = some m)
    (hr : s.readsValue t e h = true) :
    s.mappingSize m ≤ ((s.table t).value e).size ∧
      s.data h = some (((s.table t).value e).take (s.mappingSize m)) := by
  obtain ⟨x, hx, hreads⟩ := readsValue_iff.1 hr
  have hx' := mapping?_eq_some.1 hm
  obtain rfl := Option.some.inj (hx'.symm.trans hx)
  have inside := hi h _ hx
  obtain ⟨backing, readOnly, hooks⟩ := m
  cases backing with
  | file => cases hreads
  | buffer => cases hreads
  | entry b =>
    obtain ⟨borrow, size, view⟩ := b
    cases view with
    | read =>
      obtain rfl : borrow = some (t, e) := hreads
      refine ⟨inside _ t e rfl rfl rfl, ?_⟩
      rw [data, hm]
      rfl
    | _ => cases hreads

/-- **A reader delivers** bytes of its value from a position inside it. -/
lemma Insides.delivers (hi : Insides s) {k : Reader} (hk : s.reader? h = some k)
    (hr : s.readsValue t e h = true) :
    k.position ≤ ((s.table t).value e).size ∧
      (∀ n, (s.readRaw h n).2 = .ok (((s.table t).value e).slice k.position n)) ∧
      ∀ buffer n, (s.readData h buffer n).2 = .ok (((s.table t).value e).slice k.position n) := by
  obtain ⟨x, hx, hreads⟩ := readsValue_iff.1 hr
  rw [reader?_eq_some] at hk
  obtain rfl := Option.some.inj (hk.symm.trans hx)
  have inside := hi h _ hx
  have hsource : k.source = .entry t e := by
    obtain ⟨c, source, p⟩ := k
    cases source with
    | entry t' e' =>
      obtain ⟨rfl, rfl⟩ := Prod.mk.inj (Option.some.inj hreads)
      rfl
    | _ => cases hreads
  have hcontent : s.sourceBytes k.source = .ok ((s.table t).value e) := by rw [hsource]; rfl
  have hlength : s.readerLength k = ((s.table t).value e).size := by rw [readerLength, hsource]
  refine ⟨inside t e hsource, fun n => ?_, fun buffer n => ?_⟩
  · rw [readRaw_reader hx hcontent, hsource]
    rfl
  · rw [readData_reader hx hcontent hlength]

/-! ### Opens that read -/

section Opens

open EntryTable (Settles)

variable [DecidableEq κ] {c : ClaimId}

/-- The value that a table stores for an identifier. -/
def stored? (s : Store κ) (t : TableId) (x : String) : Option Bytes :=
  ((s.table t).find? (.text x)).map (s.table t).value

omit [DecidableEq κ] in
/-- The handle that an open of an entry makes. -/
lemma handle?_opened (s : Store κ) (t : TableId) (table : EntryTable (Key κ)) (c : ClaimId)
    (x : Handle) :
    (((s.setTable t table).takeReference c).addHandle x).1.handle? s.handles.length = some x := by
  have still := (still_setTable s t table).trans (still_takeReference _ c)
  rw [(still.added x).handle?, if_pos rfl]

/-- **A read-only mapping of an entry** that is opened finds its bytes in the value, which stays. -/
lemma mapInTable_ok [ToString κ] {w : RegistryId} {n : UInt64}
    (hok : (s.mapInTable t w c n true).2 = .ok h) :
    ∃ e hooks, (s.table t).find? (.text (s.identifier c)) = some e ∧
      n.toNat ≤ ((s.table t).value e).size ∧
      ((s.mapInTable t w c n true).1.table t).value e = (s.table t).value e ∧
      (s.mapInTable t w c n true).1.handle? h =
        some (.mapping ⟨.entry ⟨some (t, e), n.toNat, .read⟩, true, hooks⟩) := by
  unfold mapInTable at hok ⊢
  simp only [if_true] at hok ⊢
  split at hok
  · cases hok
  next e borrowed hb =>
  obtain ⟨hf, rfl⟩ := EntryTable.borrow_eq_some hb
  split at hok
  · cases hok
  next locked hl =>
  have hlt := lt_of_stored (EntryTable.stored_of_find? hf)
  obtain ⟨settles, hn⟩ := EntryTable.settles_lockFor hl
  have hvalue := (settles.value_eq e).trans ((EntryTable.settles_takeOwner _ e).value_eq e)
  obtain rfl := Except.ok.inj hok
  refine ⟨e, _, hf, hvalue ▸ hn, ?_, handle?_opened s t locked c _⟩
  show ((s.setTable t locked).table t).value e = _
  rw [table_setTable_self hlt, hvalue]

/-- **A reader of an entry** that is opened leaves the value as it is. -/
lemma readInTable_ok (hok : (s.readInTable t c).2 = .ok h) :
    ∃ e, (s.table t).find? (.text (s.identifier c)) = some e ∧
      ((s.readInTable t c).1.table t).value e = (s.table t).value e ∧
      (s.readInTable t c).1.handle? h = some (.reader ⟨c, .entry t e, 0⟩) := by
  unfold readInTable at hok ⊢
  dsimp only at hok ⊢
  split at hok
  · cases hok
  next e borrowed hb =>
  obtain ⟨hf, rfl⟩ := EntryTable.borrow_eq_some hb
  split at hok
  · cases hok
  next locked hl =>
  have hlt := lt_of_stored (EntryTable.stored_of_find? hf)
  have hvalue := ((EntryTable.settles_tryRead hl).value_eq e).trans
    ((EntryTable.settles_takeOwner _ e).value_eq e)
  obtain rfl := Except.ok.inj hok
  refine ⟨e, hf, ?_, handle?_opened s t locked c _⟩
  show ((s.setTable t locked).table t).value e = _
  rw [table_setTable_self hlt, hvalue]

omit [DecidableEq κ] in
/-- An open that succeeds is one in the backend of its repository. -/
lemma inRepository_eq {r : RepositoryId} {b : Backend}
    {act : Store κ → Backend → Store κ × Except Failure HandleId}
    (hok : (s.inRepository r c act).2 = .ok h) (hb : s.backendOf? r = some b) :
    s.inRepository r c act = act s b := by
  unfold Store.inRepository at hok ⊢
  split at hok
  · next b' hb' =>
    obtain rfl := Option.some.inj ((backendOf?_of_backend? hb').symm.trans hb)
    rfl
  · cases hok

variable [ToString κ] {f : Faults} {op : Operation κ} {r : RepositoryId} {b : Backend} {x : String}

/-- What an operation does that opens a mapping, directly or through the claim. -/
lemma opened_mapping (happ : s.applies op = true) (hb : s.backendOf? r = some b) {n : UInt64}
    (hn : op.mappedSize? = some n) {readOnly : Bool}
    (ho : s.openedUnder f op = some (h, ⟨c, x, .mapping r readOnly, false⟩)) :
    x = s.identifier c ∧ s.stepUnder f op = (s.mapInUnder f b c n readOnly).1 ∧
      (s.mapInUnder f b c n readOnly).2 = .ok h := by
  have hstep : s.stepUnder f op = s.performUnder f op := by rw [Store.stepUnder, if_pos happ]
  rw [hstep]
  cases op with
  | mapContent r' c' n' readOnly' =>
    obtain rfl := Option.some.inj hn
    obtain ⟨hok, hy⟩ := made_eq_some ho
    cases hy
    have heq : s.mapContentUnder f r c n' readOnly = s.mapInUnder f b c n' readOnly :=
      inRepository_eq hok hb
    rw [performUnder, heq]
    exact ⟨rfl, rfl, heq ▸ hok⟩
  | mapClaim c' n' readOnly' =>
    obtain rfl := Option.some.inj hn
    obtain ⟨p, hp, hm⟩ := Option.bind_eq_some_iff.1 ho
    obtain ⟨hok, hy⟩ := made_eq_some hm
    cases hy
    have hrouted : s.mapClaimUnder f c n' readOnly = s.mapContentUnder f p.1 c n' readOnly :=
      routed_eq hp _
    rw [hrouted] at hok
    have heq : s.mapContentUnder f p.1 c n' readOnly = s.mapInUnder f b c n' readOnly :=
      inRepository_eq hok hb
    rw [performUnder, hrouted, heq]
    exact ⟨rfl, rfl, heq ▸ hok⟩
  | _ => cases hn

/-- What an operation does that opens a reader, directly or through the claim. -/
lemma opened_reader (happ : s.applies op = true) (hb : s.backendOf? r = some b)
    (ho : s.openedUnder f op = some (h, ⟨c, x, .reader r, false⟩)) :
    x = s.identifier c ∧ s.stepUnder f op = (s.readInUnder f b c).1 ∧
      (s.readInUnder f b c).2 = .ok h := by
  have hstep : s.stepUnder f op = s.performUnder f op := by rw [Store.stepUnder, if_pos happ]
  rw [hstep]
  cases op with
  | readContent r' c' =>
    obtain ⟨hok, hy⟩ := made_eq_some ho
    cases hy
    have heq : s.readContentUnder f r c = s.readInUnder f b c := inRepository_eq hok hb
    rw [performUnder, heq]
    exact ⟨rfl, rfl, heq ▸ hok⟩
  | readClaim c' =>
    obtain ⟨p, hp, hm⟩ := Option.bind_eq_some_iff.1 ho
    obtain ⟨hok, hy⟩ := made_eq_some hm
    cases hy
    have hrouted : s.readClaimUnder f c = s.readContentUnder f p.1 c := routed_eq hp _
    rw [hrouted] at hok
    have heq : s.readContentUnder f p.1 c = s.readInUnder f b c := inRepository_eq hok hb
    rw [performUnder, hrouted, heq]
    exact ⟨rfl, rfl, heq ▸ hok⟩
  | mapContent | writeContent => cases (made_eq_some ho).2
  | mapClaim | writeClaim =>
    obtain ⟨p, hp, hm⟩ := Option.bind_eq_some_iff.1 ho
    cases (made_eq_some hm).2
  | _ => cases ho

end Opens

/-! ### What is read later -/

section Later

/-- A read-only mapping that goes on shows as many bytes as before. -/
lemma mappingSize_goes {m : Mapping} {x' : Handle} (hg : (Handle.mapping m).Goes x')
    {p : TableId × EntryId} (hr : (Handle.mapping m).reads? = some p) (s s' : Store κ) :
    ∃ m', x' = .mapping m' ∧ s'.mappingSize m' = s.mappingSize m := by
  cases hg with
  | @mapping _ m' hm =>
    refine ⟨m', rfl, ?_⟩
    obtain ⟨backing, readOnly, hooks⟩ := m
    obtain ⟨backing', readOnly', hooks'⟩ := m'
    have hgoes : backing.Goes backing' := hm.backing_goes
    cases hgoes with
    | file => cases hr
    | buffer => cases hr
    | @entry b b' hbor hview hsize =>
      obtain ⟨borrow, size, view⟩ := b
      obtain ⟨borrow', size', view'⟩ := b'
      cases view with
      | read =>
        obtain rfl : borrow = some p := hr
        obtain rfl : borrow' = some p := hbor
        obtain rfl : view' = .read := hview
        exact hsize nofun
      | _ => cases hr
  | refl =>
    refine ⟨m, rfl, ?_⟩
    obtain ⟨backing, readOnly, hooks⟩ := m
    cases backing with
    | entry b =>
      obtain ⟨borrow, size, view⟩ := b
      cases view with
      | read =>
        obtain rfl : borrow = some p := hr
        rfl
      | _ => cases hr
    | _ => cases hr

variable [DecidableEq κ] [ToString κ]

namespace Viewed

/-- What is always true stays true over a run. -/
lemma runUnder (hv : Viewed l s) (ops : List (Faults × Operation κ)) :
    Viewed (l.runUnder s ops) (s.runUnder ops) :=
  ledger_induction (P := fun s l => Viewed l s) (fun f _ _ op hv => hv.stepUnder f op) hv ops

/-- A repository keeps its backend over a run. -/
lemma backendOf?_runUnder (hv : Viewed l s) {r : RepositoryId} {b : Backend}
    (hb : s.backendOf? r = some b) (ops : List (Faults × Operation κ)) :
    (s.runUnder ops).backendOf? r = some b :=
  (ledger_induction (P := fun s l => Viewed l s ∧ s.backendOf? r = some b)
    (fun f _ _ op h => ⟨h.1.stepUnder f op, h.1.tells.backendOf?_stepUnder h.1.sound f op h.2⟩)
    ⟨hv, hb⟩ ops).2

/-- **A live reader of an identifier** reads the entry that it read before, whose value stayed. -/
lemma reads_later (hv : Viewed l s) {r : RepositoryId} {w : RegistryId} {x : String}
    (hb : s.backendOf? r = some (.volatile t w)) (hr : s.readsValue t e h = true)
    (ops : List (Faults × Operation κ)) (hlive : (l.runUnder s ops).readsFrom r x h = true) :
    (s.runUnder ops).stored? t x = some ((s.table t).value e) ∧
      (s.runUnder ops).readsValue t e h = true ∧
      ((s.runUnder ops).table t).value e = (s.table t).value e := by
  obtain ⟨z, hz, hzr⟩ := readsValue_iff.1 hr
  have hb' := hv.backendOf?_runUnder hb ops
  obtain ⟨e', hf, hr'⟩ := (hv.runUnder ops).stored_of_readsFrom hb' hlive
  obtain ⟨z', hz', hzr'⟩ := readsValue_iff.1 hr'
  obtain ⟨y, hy, hg, hvalue⟩ := hv.reads_runUnder ops (lt_of_handle? hz) hz' hzr'
  obtain rfl := Option.some.inj (hy.symm.trans hz)
  obtain ⟨-, rfl⟩ := Prod.mk.inj (Option.some.inj ((hg.reads?_eq.symm.trans hzr').symm.trans hzr))
  exact ⟨by rw [stored?, hf, Option.map_some, hvalue], hr', hvalue⟩

/-- **A read-only mapping that still reads** shows what it showed. -/
lemma data_later (hv : Viewed l s) {m : Mapping} (hm : s.mapping? h = some m)
    (ops : List (Faults × Operation κ)) (hr : (s.runUnder ops).readsValue t e h = true) :
    (s.runUnder ops).data h = some (((s.table t).value e).take (s.mappingSize m)) := by
  obtain ⟨z', hz', hzr'⟩ := readsValue_iff.1 hr
  have hz := mapping?_eq_some.1 hm
  obtain ⟨z, hz₁, hg, hvalue⟩ := hv.reads_runUnder ops (lt_of_handle? hz) hz' hzr'
  obtain rfl := Option.some.inj (hz₁.symm.trans hz)
  obtain ⟨m', rfl, hsize⟩ := mappingSize_goes hg (hg.reads?_eq.symm.trans hzr') s (s.runUnder ops)
  rw [((hv.runUnder ops).insides.shows (mapping?_eq_some.2 hz') hr).2, hsize, hvalue]

end Viewed

end Later

/-! ### All states -/

variable [DecidableEq κ] [ToString κ]

/-- **What is read stays as it is**, over all that is done from a state on. -/
structure StableViews (l : Ledger) (s : Store κ) : Prop where
  /-- A read-only mapping shows the first bytes of its value, all of which are there. -/
  shows : ∀ t e h m, s.mapping? h = some m → s.readsValue t e h = true →
    s.mappingSize m ≤ ((s.table t).value e).size ∧
      s.data h = some (((s.table t).value e).take (s.mappingSize m))
  /-- A reader delivers bytes of its value from a position inside it. -/
  delivers : ∀ t e h k, s.reader? h = some k → s.readsValue t e h = true →
    k.position ≤ ((s.table t).value e).size ∧
      (∀ n, (s.readRaw h n).2 = .ok (((s.table t).value e).slice k.position n)) ∧
      ∀ buffer n, (s.readData h buffer n).2 = .ok (((s.table t).value e).slice k.position n)
  /-- What any handle reads later it reads now, and its value and its view stay. -/
  kept : ∀ ops t e h, h < s.handles.length → (s.runUnder ops).readsValue t e h = true →
    s.readsValue t e h = true ∧ ((s.runUnder ops).table t).value e = (s.table t).value e ∧
      ∀ m, s.mapping? h = some m → (s.runUnder ops).data h = s.data h
  /-- A read-only mapping of a claim that is opened now shows, for as long as it is live, the first
  bytes of what is stored now, and all of this stays stored. -/
  mapped : ∀ f op h c x r t w n, s.applies op = true → s.backendOf? r = some (.volatile t w) →
    op.mappedSize? = some n →
    s.openedUnder f op = some (h, ⟨c, x, .mapping r true, false⟩) →
    ∃ v, s.stored? t x = some v ∧ n.toNat ≤ v.size ∧ ∀ ops,
      (l.runUnder s ((f, op) :: ops)).readsFrom r x h = true →
        (s.runUnder ((f, op) :: ops)).stored? t x = some v ∧
          (s.runUnder ((f, op) :: ops)).data h = some (v.take n.toNat)
  /-- A reader of a claim that is opened now delivers, for as long as it is live, bytes of what is
  stored now, from a position inside it, and all of this stays stored. -/
  opened : ∀ f op h c x r t w, s.applies op = true → s.backendOf? r = some (.volatile t w) →
    s.openedUnder f op = some (h, ⟨c, x, .reader r, false⟩) →
    ∃ v, s.stored? t x = some v ∧ ∀ ops,
      (l.runUnder s ((f, op) :: ops)).readsFrom r x h = true →
        (s.runUnder ((f, op) :: ops)).stored? t x = some v ∧ ∃ p ≤ v.size,
          (∀ n, ((s.runUnder ((f, op) :: ops)).readRaw h n).2 = .ok (v.slice p n)) ∧
            ∀ buffer n, ((s.runUnder ((f, op) :: ops)).readData h buffer n).2 = .ok (v.slice p n)

/-- **What is read stays as it is**, wherever views are as they have to be.

**Proof sketch.** A handle that reads a value later had the same read lock now, and no step changes
a value that is locked for reading. So a view that was opened shows the value it was opened on, as
long as it lives. -/
lemma Viewed.stableViews (hv : Viewed l s) : StableViews l s where
  shows t e h m hm hr := hv.insides.shows hm hr
  delivers t e h k hk hr := hv.insides.delivers hk hr
  kept ops t e h hlt hr := by
    obtain ⟨z', hz', hzr'⟩ := readsValue_iff.1 hr
    obtain ⟨z, hz, hg, hvalue⟩ := hv.reads_runUnder ops hlt hz' hzr'
    have hr₀ : s.readsValue t e h = true :=
      readsValue_iff.2 ⟨z, hz, hg.reads?_eq.symm.trans hzr'⟩
    refine ⟨hr₀, hvalue, fun m hm => ?_⟩
    rw [hv.data_later hm ops hr, (hv.insides.shows hm hr₀).2]
  mapped f op h c x r t w n happ hb hn ho := by
    obtain ⟨rfl, hstep, hok⟩ := opened_mapping happ hb hn ho
    obtain ⟨e, hooks, hf, hle, hvalue, hx⟩ := mapInTable_ok (w := w) hok
    have hv₁ := hv.stepUnder f op
    have hb₁ := hv.tells.backendOf?_stepUnder hv.sound f op hb
    replace hx : (s.stepUnder f op).handle? h = _ := hstep ▸ hx
    replace hvalue : ((s.stepUnder f op).table t).value e = (s.table t).value e := hstep ▸ hvalue
    refine ⟨(s.table t).value e, by rw [stored?, hf, Option.map_some], hle, fun ops hlive => ?_⟩
    have hr₁ : (s.stepUnder f op).readsValue t e h = true := readsValue_iff.2 ⟨_, hx, rfl⟩
    obtain ⟨hstored, hr, -⟩ := hv₁.reads_later hb₁ hr₁ ops hlive
    rw [hvalue] at hstored
    refine ⟨hstored, ?_⟩
    have hdata := hv₁.data_later (mapping?_eq_some.2 hx) ops hr
    rw [hvalue] at hdata
    exact hdata
  opened f op h c x r t w happ hb ho := by
    obtain ⟨rfl, hstep, hok⟩ := opened_reader happ hb ho
    obtain ⟨e, hf, hvalue, hx⟩ := readInTable_ok hok
    have hv₁ := hv.stepUnder f op
    have hb₁ := hv.tells.backendOf?_stepUnder hv.sound f op hb
    replace hx : (s.stepUnder f op).handle? h = _ := hstep ▸ hx
    replace hvalue : ((s.stepUnder f op).table t).value e = (s.table t).value e := hstep ▸ hvalue
    refine ⟨(s.table t).value e, by rw [stored?, hf, Option.map_some], fun ops hlive => ?_⟩
    have hr₁ : (s.stepUnder f op).readsValue t e h = true := readsValue_iff.2 ⟨_, hx, rfl⟩
    obtain ⟨hstored, hr, hvalue'⟩ := hv₁.reads_later hb₁ hr₁ ops hlive
    rw [hvalue] at hstored hvalue'
    refine ⟨hstored, ?_⟩
    -- the reader went on, so it is one still
    obtain ⟨z', hz', hzr'⟩ := readsValue_iff.1 hr
    obtain ⟨z, hz, hg, -⟩ := hv₁.reads_runUnder ops (lt_of_handle? hx) hz' hzr'
    obtain rfl := Option.some.inj (hz.symm.trans hx)
    obtain ⟨k, rfl⟩ : ∃ k, z' = .reader k := by
      cases hg with
      | reader k p => exact ⟨_, rfl⟩
      | refl => exact ⟨_, rfl⟩
    have hdelivers := (hv₁.runUnder ops).insides.delivers (reader?_eq_some.2 hz') hr
    rw [hvalue'] at hdelivers
    exact ⟨k.position, hdelivers⟩

/-- **Readers or one writer, and stable views.** After every run, whatever fails on the way, a value
of a volatile repository has readers or one writer, opens are refused exactly where they would break
that, and what a reader or a read-only mapping reads stays, for as long as it is live, what was
stored when it was opened. -/
theorem stableViews_runUnder (name : String) (ops : List (Faults × Operation κ)) :
    Exclusion (ledgerOf name ops) ((onDirectory name).runUnder ops) ∧
      StableViews (ledgerOf name ops) ((onDirectory name).runUnder ops) :=
  have hv := viewed_runUnder name ops
  ⟨hv.exclusion, hv.stableViews⟩

/-- While two claims of one identifier map its two bytes, a writer of either is refused, and so is a
mapping that would make them more. -/
example :
    let s := (onDirectory "d" : Store).run
      [.openRepository (.volatile 100 10), .addClaim "x" (some 0), .addClaim "x" (some 0),
        .writeClaim 0 false, .writeData 0 ⟨.ofList [1, 2], Payload.size_two_lt⟩, .close 0,
        .mapClaim 0 2 true, .mapClaim 1 1 true]
    failureKind? (s.writeClaim 1 false).2 = some .writerActive ∧
      failureKind? (s.mapClaim 0 5 false).2 = some .writerActive ∧
      s.data 1 = some (.ofList [1, 2]) ∧ s.data 2 = some (.ofList [1]) := by
  decide +kernel

end Store

end ClaimStore
