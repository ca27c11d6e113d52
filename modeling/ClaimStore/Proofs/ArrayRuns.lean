import ClaimStore.Proofs.FailedResizes
import ClaimStore.Proofs.MappedArrays

/-!
# Mappings as arrays, along all sequences

A mapping of a store goes on as the array that it shows, whatever is asked of it and whatever is
done meanwhile that leaves its bytes. What is asked of a mapping of an entry changes the value of
that entry and no other. Bytes of another component are an array where its operations agree with
each other.

## Main definitions

* `Store.ValuesKept` — a step that changes the value of one entry at most.
* `Store.Continues` — a mapping, some turns later.
* `Store.IsArray` — a mapping is an array, and so is what its table stores.
* `PassthroughOps.Faithful` — operations that agree with each other.

## Main results

* `Store.Continues.ask`, `Store.Continues.act` — one turn.
* `PassthroughOps.faithful_buffer` — the operations on a buffer agree.
* `Store.isArray_beside` — every mapping is an array along every sequence.
-/

set_option autoImplicit false

namespace ClaimStore

/-- A mapping that goes on is one of the same entry. -/
lemma Mapping.owned?_goes {m m' : Mapping} (hg : m.backing.Goes m'.backing) :
    (Handle.mapping m').owned? = (Handle.mapping m).owned? := by
  rw [Handle.owned?, Handle.owned?]
  generalize m.backing = b at hg
  generalize m'.backing = b' at hg
  cases hg with
  | file | buffer => rfl
  | entry hborrow => exact hborrow

/-- A mapping that goes on takes the same calls. -/
lemma Mapping.Takes.goes {m m' : Mapping} {call : ArrayCall} (h : m.Takes call)
    (hro : m'.readOnly = m.readOnly) (hg : m.backing.Goes m'.backing) : m'.Takes call := by
  cases call with
  | resize n =>
    refine Or.imp hro.trans (fun hnot b' hb' => ?_) h
    rw [hb'] at hg
    generalize hb : m.backing = backing at hg
    cases hg with
    | file b => exact hnot b hb
  | read | write | lend => trivial

namespace Store

variable {κ : Type} [DecidableEq κ] {s s' : Store κ} {map : HandleId} {m m' : Mapping}

/-! ### What a call changes -/

/-- **No look-up changes, and no value but that of the entry that a mapping shows.** -/
structure ValuesKept (m : Mapping) (s s' : Store κ) : Prop where
  /-- The same entries are found. -/
  find?_eq : ∀ t key, (s'.table t).find? key = (s.table t).find? key
  /-- Other entries have the same values. -/
  value_eq : ∀ t e, (Handle.mapping m).owned? ≠ some (t, e) →
    (s'.table t).value e = (s.table t).value e

/-- The tables stay. -/
lemma valuesKept_of_tables (m : Mapping) (h : s'.tables = s.tables) : ValuesKept m s s' where
  find?_eq t key := by rw [table, table, h]
  value_eq t e _ := by rw [table, table, h]

/-- One entry is changed, and keeps its key and its place. -/
lemma valuesKept_modify {t : TableId} {e : EntryId} (how : (Handle.mapping m).owned? = some (t, e))
    {f : Entry (Key κ) → Entry (Key κ)} (hkey : ∀ c, (f c).key = c.key)
    (hstored : ∀ c, (f c).stored = c.stored) {x : EntryTable (Key κ)}
    (hx : x.cells = ((s.table t).modify e f).cells) (hs : s'.tables = (s.setTable t x).tables) :
    ValuesKept m s s' := by
  have htable : ∀ t', s'.table t' = (s.setTable t x).table t' := fun t' => by
    rw [table, table, hs]
  refine ⟨fun t' key => ?_, fun t' e' hne => ?_⟩ <;> rw [htable, table_setTable] <;> split
  · next h => rw [EntryTable.find?_of_cells hx, EntryTable.find?_modify _ _ hkey hstored, h.1]
  · rfl
  · next h =>
    obtain ⟨rfl, -⟩ := h
    have he : e' ≠ e := by
      rintro rfl
      exact hne how
    rw [EntryTable.value_of_cells hx, EntryTable.value_modify_of_ne he]
  · rfl

/-- The bytes of a mapping are given back. -/
lemma valuesKept_setView (s : Store κ) (map : HandleId) (m : Mapping) (v : Bytes) :
    ValuesKept m s (s.setView map m v) := by
  unfold setView
  cases hb : m.backing with
  | file b =>
    dsimp only
    split
    · exact valuesKept_of_tables m rfl
    · exact valuesKept_of_tables m rfl
  | entry b =>
    dsimp only
    split
    · next t e hbor =>
      exact valuesKept_modify (owned?_mapping hb hbor) (f := fun c => { c with value := v })
        (x := (s.table t).setValue e v) (fun _ => rfl) (fun _ => rfl) rfl rfl
    · exact valuesKept_of_tables m rfl
  | buffer b => exact valuesKept_of_tables m rfl

/-- A range of a mapping is written. -/
lemma valuesKept_writeAt (hm : s.mapping? map = some m) (offset : Nat) (b : Bytes) :
    ValuesKept m s (s.writeAt map offset b).1 := by
  unfold writeAt
  rw [hm]
  dsimp only
  split
  · exact valuesKept_of_tables m rfl
  · split
    · exact valuesKept_of_tables m rfl
    · split
      · exact valuesKept_setView s map m _
      · exact valuesKept_of_tables m rfl

/-- A mapping that takes it has another length. -/
lemma valuesKept_resize (hm : s.mapping? map = some m) {n : UInt64} (htakes : m.Takes (.resize n)) :
    ValuesKept m s (s.resize map n).1 := by
  unfold resize
  rw [hm]
  dsimp only
  split
  · exact valuesKept_of_tables m rfl
  next hro =>
  cases hb : m.backing with
  | file b => exact absurd hb (htakes.resolve_left hro b)
  | entry b =>
    dsimp only
    unfold resizeEntry
    split
    · next t e hbor _ =>
      split
      · exact valuesKept_of_tables m rfl
      · next x hx =>
        obtain ⟨_, -, heq⟩ := EntryTable.resizeValue_ok hx
        have hcells : x.cells = ((s.table t).modify e (Entry.fitted n.toNat)).cells := by rw [heq]
        exact valuesKept_modify (owned?_mapping hb hbor) (f := Entry.fitted n.toNat)
          (fun _ => rfl) (fun _ => rfl) hcells rfl
    · exact valuesKept_of_tables m rfl
  | buffer b =>
    dsimp only
    unfold resizeBuffer
    split
    · exact valuesKept_of_tables m rfl
    · split
      · exact valuesKept_of_tables m rfl
      · exact valuesKept_of_tables m rfl

omit [DecidableEq κ] in
/-- To give bytes back is to write them all. -/
lemma setView_eq_writeAt (hm : s.mapping? map = some m) {v v' : Bytes}
    (hv : s.mutableView? m = some v) (hsize : v'.size = v.size) :
    s.setView map m v' = (s.writeAt map 0 v').1 := by
  have hpatch : Bytes.patch 0 v' v = v' := by
    have htake := Bytes.take_patch_zero v' v
    have hlength : (Bytes.patch 0 v' v).size = v'.size := by
      rw [Bytes.size_patch (by omega), hsize]
    rw [← hlength, Bytes.take_size] at htake
    exact htake
  unfold writeAt
  rw [hm]
  dsimp only
  rw [(mutableView?_eq_some.1 hv).1, if_neg Bool.false_ne_true, hv]
  dsimp only
  rw [if_pos (by omega), hpatch]

/-- **A call leaves the state, writes a range or changes the length.** -/
lemma ask_fst_cases (hm : s.mapping? map = some m) (f : MappingFaults) {call : ArrayCall}
    (htakes : m.Takes call) : ((capability map).ask f s call).1 = s ∨
      (∃ offset b, ((capability map).ask f s call).1 = (s.writeAt map offset b).1) ∨
      ∃ n, m.Takes (.resize n) ∧ ((capability map).ask f s call).1 = (s.resize map n).1 := by
  cases call with
  | read offset len => exact .inl rfl
  | write offset b =>
    refine .inr (.inl ⟨offset, b, ?_⟩)
    rw [← writeAt_capability]
    rfl
  | lend r =>
    unfold Capability.ask
    rw [dataMut_capability hm]
    cases hv : s.mutableView? m with
    | none => exact .inl rfl
    | some v =>
      have hsize : (Bytes.ofList (r.apply v.toList)).size = v.size := by
        rw [← Bytes.length_toList, Bytes.toList_ofList, r.length_apply, Bytes.length_toList]
      exact .inr (.inl ⟨0, _, setView_eq_writeAt hm hv hsize⟩)
  | resize n => exact .inr (.inr ⟨n, htakes, congrArg Prod.fst (resizeWith_takes hm htakes f n)⟩)

/-- **A call changes no other value.** -/
lemma valuesKept_ask (hm : s.mapping? map = some m) (f : MappingFaults) {call : ArrayCall}
    (htakes : m.Takes call) : ValuesKept m s ((capability map).ask f s call).1 := by
  rcases ask_fst_cases hm f htakes with heq | ⟨offset, b, heq⟩ | ⟨n, htakes', heq⟩ <;> rw [heq]
  · exact valuesKept_of_tables m rfl
  · exact valuesKept_writeAt hm offset b
  · exact valuesKept_resize hm htakes'

/-- A call changes no other handle, and its mapping goes on. -/
lemma carries_ask (hm : s.mapping? map = some m) (f : MappingFaults) {call : ArrayCall}
    (htakes : m.Takes call) : Carries [map] s ((capability map).ask f s call).1 := by
  rcases ask_fst_cases hm f htakes with heq | ⟨offset, b, heq⟩ | ⟨n, -, heq⟩ <;> rw [heq]
  · exact .refl s
  · exact carries_writeAt s map offset b
  · exact carries_resize s map n

variable [ToString κ]

/-- A call is an action, or changes nothing. -/
lemma ask_capability_act (hm : s.mapping? map = some m) (f : MappingFaults) {call : ArrayCall}
    (htakes : m.Takes call) : ((capability map).ask f s call).1 = s ∨
      ∃ a : Action κ, ((capability map).ask f s call).1 = s.act a := by
  have hquiet : ∀ op : Operation κ, s.applies op = true →
      s.act (.operate .quiet op) = s.perform op := fun op happlies => by
    rw [act, stepUnder_quiet, step, if_pos happlies]
  rcases ask_fst_cases hm f htakes with heq | ⟨offset, b, heq⟩ | ⟨n, -, heq⟩
  · exact .inl heq
  · exact .inr ⟨_, heq.trans (hquiet (.writeAt map offset b) rfl).symm⟩
  · exact .inr ⟨_, heq.trans (hquiet (.resize map n) rfl).symm⟩

/-! ### Mappings that go on -/

/-- A mapping stays as it is over an action on something else. -/
lemma Ordered.mapping?_act (h : Ordered s) (hm : s.mapping? map = some m) {a : Action κ}
    (ha : a.Elsewhere map) : (s.act a).mapping? map = some m := by
  obtain ⟨hspares, hunmaps, hresize⟩ := ha
  refine mapping?_eq_some.2 (h.handle?_kept (mapping?_eq_some.1 hm) (fun f op hop => ?_)
    fun f n heq => absurd heq (hresize f n))
  obtain ⟨hcarried, hdrop⟩ := hspares f op hop
  refine ⟨hcarried, fun hfinishes => ?_⟩
  cases hfinishes with
  | unmap => exact hunmaps ⟨f, hop⟩
  | close live => cases (writer?_eq_some.1 live).symm.trans (mapping?_eq_some.1 hm)
  | drop => exact hdrop rfl

/-- **A mapping, some turns later**: the store is in order, with the files that are open, and the
mapping is at its place, writable or not as before. -/
structure Continues (m : Mapping) (map : HandleId) (s : Store κ) : Prop where
  /-- The store is in order. -/
  ordered : Ordered s
  /-- The files are there. -/
  files : FilesThere s
  /-- The mapping went on. -/
  goes : ∃ m', s.mapping? map = some m' ∧ m'.readOnly = m.readOnly ∧ m.backing.Goes m'.backing

namespace Continues

/-- A session in which there is a mapping. -/
lemma session (name : String) (as : List (Action κ))
    (hm : ((onDirectory name : Store κ).session as).mapping? map = some m) :
    Continues m map ((onDirectory name : Store κ).session as) where
  ordered := (ordered_onDirectory name).session as
  files := filesThere_session name as
  goes := ⟨m, hm, rfl, .refl m.backing⟩

/-- **One call**: the mapping answers as the array does, and goes on. -/
lemma ask (h : Continues m map s) (f : MappingFaults) {call : ArrayCall} (htakes : m.Takes call) :
    (capability map).AsPlain (s.denial? map) f s call ∧
      Continues m map ((capability map).ask f s call).1 := by
  obtain ⟨m', hm', hro, hg⟩ := h.goes
  have htakes' := htakes.goes hro hg
  refine ⟨(lends_capability h.ordered h.files hm').ask f call fun n hn => ?_, ?_⟩
  · subst hn
    exact asPlain_resize h.ordered hm' f n htakes'
  obtain ⟨x, hx, hgoes⟩ := (carries_ask hm' f htakes').goes map _ (mapping?_eq_some.1 hm')
  have hgoes' : ∃ m'', ((capability map).ask f s call).1.mapping? map = some m'' ∧
      m''.readOnly = m.readOnly ∧ m.backing.Goes m''.backing := by
    cases hgoes with
    | mapping hmap =>
      exact ⟨_, mapping?_eq_some.2 hx, hmap.readOnly_eq.trans hro, hg.trans hmap.backing_goes⟩
    | refl => exact ⟨m', mapping?_eq_some.2 hx, hro, hg⟩
  rcases ask_capability_act hm' f htakes' with heq | ⟨a, heq⟩
  · exact heq.symm ▸ h
  · exact ⟨heq ▸ h.ordered.act a, heq ▸ h.files.act h.ordered.sound a, hgoes'⟩

/-- **Something else**: the mapping stays as it is. -/
lemma act (h : Continues m map s) {a : Action κ} (ha : a.Elsewhere map) :
    Continues m map (s.act a) ∧ (capability map).isReadOnly (s.act a) =
      (capability map).isReadOnly s := by
  obtain ⟨m', hm', hro, hg⟩ := h.goes
  have hm'' := h.ordered.mapping?_act hm' ha
  refine ⟨⟨h.ordered.act a, h.files.act h.ordered.sound a, m', hm'', hro, hg⟩, ?_⟩
  rw [isReadOnly_capability hm'', isReadOnly_capability hm']

end Continues

end Store

/-! ### Bytes of another component -/

section Passthrough

variable {ρ κ : Type}

/-- **Operations that agree with each other**: the bytes that can be changed are those that are
shown, what is given back for them is shown afterwards, and a change of length that does not fail
cuts them or pads them with zeros. -/
structure PassthroughOps.Faithful (ops : PassthroughOps ρ) : Prop where
  /-- The bytes that are shown are lent out. -/
  lent_eq : ∀ x, (ops.dataMut x).bytes = ops.data x
  /-- They stay if none are given back. -/
  back_none : ∀ x, ops.data ((ops.dataMut x).back none) = ops.data x
  /-- As many others as there are replace them. -/
  back_some : ∀ x v, v.size = (ops.data x).size → ops.data ((ops.dataMut x).back (some v)) = v
  /-- They stay if a change of length fails. -/
  resize_error : ∀ x n x' e, ops.resize x n = (x', .error e) → ops.data x' = ops.data x
  /-- They have the new length if it does not. -/
  resize_ok : ∀ x n x', ops.resize x n = (x', .ok ()) → ops.data x' = (ops.data x).fit n.toNat

/-- **The operations on a buffer agree with each other.** -/
lemma PassthroughOps.faithful_buffer (capacity : Option Nat) :
    (PassthroughOps.buffer capacity).Faithful where
  lent_eq _ := rfl
  back_none _ := rfl
  back_some _ _ _ := rfl
  resize_error x n x' e h := by
    have hsame := refusesInPlace_buffer capacity x n e (congrArg Prod.snd h)
    rw [h] at hsame
    exact congrArg (buffer capacity).data hsame
  resize_ok x n x' h := by
    unfold buffer at h ⊢
    dsimp only at h ⊢
    split at h
    · cases congrArg Prod.snd h
    · next v hv =>
      obtain rfl : v = x' := congrArg Prod.fst h
      unfold BufferBacking.resized at hv
      split at hv
      · exact (Except.ok.inj hv).symm
      · split at hv
        · cases hv
        · exact (Except.ok.inj hv).symm

/-- The lengths that a component refuses. -/
def Passthrough.denial? (ops : PassthroughOps ρ) (p : Passthrough ρ) (n : UInt64) :
    Option Failure :=
  p.state.bind fun x =>
    match (ops.resize x n).2 with
    | .error e => some e
    | .ok () => none

/-- What turns make of a mapping of the bytes of another component, and of an array beside it. The
store may become any other meanwhile. -/
def Passthrough.beside [DecidableEq κ] (ops : PassthroughOps ρ) (x : Store κ × Passthrough ρ)
    (ts : List (ArrayTurn (Store κ))) : (Store κ × Passthrough ρ) × PlainArray :=
  (Passthrough.capability ops).beside (fun x s => (s, x.2)) (fun x => x.2.denial? ops) x ts

namespace PassthroughOps.Faithful

variable [DecidableEq κ] {ops : PassthroughOps ρ} (h : ops.Faithful) (x : Store κ × Passthrough ρ)
include h

/-- The bytes of a component can be lent out. -/
lemma lends : (Passthrough.capability ops).Lends x where
  bytes_eq := by
    obtain ⟨s, state, readOnly, hooks⟩ := x
    cases readOnly with
    | true => rfl
    | false =>
      cases state with
      | none => rfl
      | some r => exact congrArg some (h.lent_eq r)
  back_eq l hl o ho := by
    obtain ⟨s, state, readOnly, hooks⟩ := x
    cases readOnly with
    | true => cases hl
    | false =>
      cases state with
      | none => cases hl
      | some r =>
        obtain rfl := Option.some.inj hl
        refine ⟨congrArg some ?_, rfl⟩
        cases o with
        | none => exact (h.back_none r).trans (h.lent_eq r).symm
        | some v => exact h.back_some r v ((ho v rfl).trans (congrArg Bytes.size (h.lent_eq r)))

/-- A component changes its length as an array does. -/
lemma asPlain_resize (f : MappingFaults) (n : UInt64) :
    (Passthrough.capability ops).AsPlain (x.2.denial? ops) f x (.resize n) := by
  obtain ⟨s, state, readOnly, hooks⟩ := x
  cases readOnly with
  | true => rfl
  | false =>
    cases state with
    | none => rfl
    | some r =>
      unfold Capability.AsPlain Capability.ask Capability.plain
      simp only [Passthrough.capability, Passthrough.resize, Passthrough.data, PlainArray.ask,
        PlainArray.failure?, PlainArray.changesBytes, PlainArray.needsBytes, Passthrough.denial?]
      rcases hr : ops.resize r n with ⟨r', e | u⟩
      · simp [hr, h.resize_error r n r' e hr, ArrayAnswer.ofBytes]
      · have hdata := h.resize_ok r n r' hr
        simp [hr, PlainArray.after, PlainArray.answer, ArrayAnswer.ofBytes, h.back_none,
          h.lent_eq, hdata, PlainArray.fitted_toList]

/-- **A component is an array along every sequence**, whatever becomes of the store. -/
lemma mirrors_beside (ts : List (ArrayTurn (Store κ))) :
    (Passthrough.capability ops).Mirrors ((Passthrough.beside ops x ts).1.2.denial? ops)
      (fun _ => True) (Passthrough.beside ops x ts).1 (Passthrough.beside ops x ts).2 := by
  have hcall : ∀ (x : Store κ × Passthrough ρ) f call,
      (Passthrough.capability ops).AsPlain (x.2.denial? ops) f x call := fun x f call =>
    (h.lends x).ask f call fun n _ => h.asPlain_resize x f n
  have hts : ∀ t ∈ ts, ArrayTurn.Among (fun _ => True) (fun _ : Store κ => True) t :=
    fun t _ => by cases t <;> trivial
  have hquiet : (Passthrough.capability ops).Undisturbed (fun x s => (s, x.2)) x ts :=
    Capability.undisturbed_of_data_eq (by intro _ _; rfl) x ts
  have hrun := Capability.beside_eq (P := fun _ => True) (fun x s => (s, x.2))
    (fun x => x.2.denial? ops) (fun x f call _ _ => ⟨hcall x f call, trivial⟩)
    (fun _ _ _ _ => ⟨trivial, rfl⟩) trivial hts hquiet
  rw [Passthrough.beside, ← hrun.2]
  exact Capability.mirrors_plain fun f call _ => hcall _ f call

end PassthroughOps.Faithful

end Passthrough

/-! ### Arrays -/

namespace Store

variable {κ : Type} [DecidableEq κ] [ToString κ] {s : Store κ} {map : HandleId} {m : Mapping}

/-- **A mapping is an array.** It shows the array and answers as the array does. For an entry, the
value that the table stores is the array, of which a mapping that is read-only may show a first
part only, and no call changes another value. -/
structure IsArray (m : Mapping) (map : HandleId) (s : Store κ) (a : PlainArray) : Prop where
  /-- It shows the array, and answers as the array does. -/
  mirrors : (capability map).Mirrors (s.denial? map) m.Takes s a
  /-- The array is what the table stores. -/
  stored : ∀ b t e, m.backing = .entry b → b.borrow = some (t, e) → b.view ≠ .released →
    (s.table t).Stored e ∧ a.cells = some (if m.readOnly then
      ((s.table t).value e).toList.take b.size else ((s.table t).value e).toList)
  /-- A call changes no other value. -/
  kept : ∀ f call, m.Takes call → ValuesKept m s ((capability map).ask f s call).1

/-- A mapping that went on is the array that it shows.

**Proof sketch.** Each call answers as the plain array does. A mapping of an entry shows the value,
or its beginning where the mapping is read-only and shorter, and a call changes the value of no
other entry. -/
lemma Continues.isArray (h : Continues m map s) :
    IsArray m map s ((capability map).plain s) where
  mirrors := Capability.mirrors_plain fun f _ htakes => (h.ask f htakes).1
  stored b t e hb hbor hview := by
    obtain ⟨m', hm', hro, hg⟩ := h.goes
    rw [hb] at hg
    generalize hb' : m'.backing = backing' at hg
    cases hg with
    | @entry _ b' hborrow hviews hsizes =>
    have hview' : b'.view ≠ .released := hviews ▸ hview
    refine ⟨h.ordered.stored_mapping hm' hb' (hborrow.trans hbor), ?_⟩
    show ((capability map).data s).map Bytes.toList = _
    rw [data_capability hm', view?, hb', ← hro]
    dsimp only
    unfold entryView?
    rw [hborrow.trans hbor]
    cases hro' : m'.readOnly with
    | true =>
      have hread : b'.view = .read := by
        cases hv : b'.view with
        | read => rfl
        | released => exact absurd hv hview'
        | write => cases ((h.ordered.shaped map m' hm').entry b' hb' hv).symm.trans hro'
      have hsize : b'.size = b.size := hsizes (by rw [← hviews, hread]; simp)
      rw [hread, hsize]
      exact congrArg some (Bytes.toList_take _ _)
    | false =>
      rw [h.ordered.view_write hm' hro' hb' hview']
      rfl
  kept f call htakes := by
    obtain ⟨m', hm', hro, hg⟩ := h.goes
    have hkept := valuesKept_ask hm' f (htakes.goes hro hg)
    refine ⟨hkept.find?_eq, fun t e hne => hkept.value_eq t e ?_⟩
    rwa [Mapping.owned?_goes hg]

/-- **Every mapping is an array of bytes.** Whatever is asked of a mapping of a store, a call takes
the bytes that it shows, and answers, as a plain array of bytes does, along every sequence of calls
and of other actions that leave those bytes; the table of a mapping of an entry stores the array, or
bytes that begin with it where the mapping is read-only. A mapping of the bytes of another component
whose operations agree with each other is an array as well. -/
theorem isArray_beside :
    (∀ (name : String) (as : List (Action κ)) (map : HandleId) (m : Mapping)
        (ts : List (ArrayTurn (Action κ))),
      ((onDirectory name : Store κ).session as).mapping? map = some m →
      (∀ t ∈ ts, t.Among m.Takes (Action.Elsewhere map)) →
      (capability map).Undisturbed act ((onDirectory name : Store κ).session as) ts →
      let r := (capability map).beside act (denial? map) ((onDirectory name).session as) ts
      IsArray m map r.1 r.2) ∧
    ∀ {ρ : Type} (ops : PassthroughOps ρ), ops.Faithful →
      ∀ (x : Store κ × Passthrough ρ) (ts : List (ArrayTurn (Store κ))),
        let r := Passthrough.beside ops x ts
        (Passthrough.capability ops).Mirrors (r.1.2.denial? ops) (fun _ => True) r.1 r.2 := by
  refine ⟨fun name as map m ts hm hts hquiet => ?_, fun ops hops x ts => hops.mirrors_beside x ts⟩
  have hrun := Capability.beside_eq (P := Continues m map) act (denial? map)
    (fun _ f _ h htakes => h.ask f htakes) (fun _ _ h ha => h.act ha) (.session name as hm) hts
    hquiet
  dsimp only
  rw [← hrun.2]
  exact hrun.1.isArray

/-- An entry is mapped writable, with two bytes. -/
def entryMapped : List (Action Nat) :=
  [.operate .quiet (.addTable 100 10), .operate .quiet (.insertEntry 0 (.text "k")),
    .operate .quiet (.mapKey 0 (.text "k") 2 false)]

/-- A byte is written, another entry is made, and the mapping is made longer and changed in
place. -/
def entryRewritten : List (ArrayTurn (Action Nat)) :=
  [.ask .quiet (.write 1 (.ofList [7])),
    .other (.operate .quiet (.insertEntry 0 (.text "j"))),
    .ask .quiet (.resize 3),
    .ask .quiet (.lend ⟨List.reverse, fun _ => List.length_reverse⟩)]

/-- All calls are taken, and the other entry is made without the mapping. -/
lemma among_entryRewritten : ∀ t ∈ entryRewritten, t.Among
    (Mapping.Takes ⟨.entry ⟨some (0, 0), 2, .write⟩, false, .empty⟩) (Action.Elsewhere 1) := by
  intro t ht
  simp only [entryRewritten, List.mem_cons, List.not_mem_nil, or_false] at ht
  rcases ht with rfl | rfl | rfl | rfl
  · trivial
  · refine ⟨fun f op heq => ?_, fun hunmaps => ?_, by simp⟩
    · obtain ⟨-, rfl⟩ := Action.operate.inj heq
      exact ⟨List.not_mem_nil, by simp⟩
    · obtain ⟨f, heq⟩ := hunmaps
      cases heq
  · exact .inr (by simp)
  · trivial

/-- A mapping of a buffer of one byte. -/
def oneByte : Store × Passthrough Bytes := (onDirectory "d", .new (.ofList [1]) false)

/-- A mapping of an entry, and one of a buffer that can hold four bytes, are arrays. -/
theorem isArray_entryRewritten :
    IsArray ⟨.entry ⟨some (0, 0), 2, .write⟩, false, .empty⟩ 1
        ((capability 1).beside act (denial? 1) ((onDirectory "d" : Store).session entryMapped)
          entryRewritten).1
        ((capability 1).beside act (denial? 1) ((onDirectory "d" : Store).session entryMapped)
          entryRewritten).2 ∧
      (Passthrough.capability (.buffer (some 4))).Mirrors
        ((Passthrough.beside (.buffer (some 4)) oneByte
          [.ask .quiet (.resize 3)]).1.2.denial? (.buffer (some 4))) (fun _ => True)
        (Passthrough.beside (.buffer (some 4)) oneByte [.ask .quiet (.resize 3)]).1
        (Passthrough.beside (.buffer (some 4)) oneByte [.ask .quiet (.resize 3)]).2 := by
  have hquiet : (capability 1).Undisturbed act ((onDirectory "d" : Store).session entryMapped)
      entryRewritten := by
    simp only [entryRewritten, Capability.Undisturbed, and_true]
    decide +kernel
  exact ⟨isArray_beside.1 "d" entryMapped 1 ⟨.entry ⟨some (0, 0), 2, .write⟩, false, .empty⟩
    entryRewritten (by decide +kernel) among_entryRewritten hquiet,
    isArray_beside.2 (.buffer (some 4)) (PassthroughOps.faithful_buffer (some 4)) oneByte
      [.ask .quiet (.resize 3)]⟩

/-- The array at the end: the byte that was written is in its middle. -/
example : ((capability 1).beside act (denial? 1) ((onDirectory "d" : Store).session entryMapped)
    entryRewritten).2 = ⟨some [0, 7, 0], true⟩ := by
  decide +kernel

/-- A value of two bytes is mapped read-only, with its first byte. -/
def valueMappedShort : List (Action Nat) :=
  [.operate .quiet (.addTable 100 10), .operate .quiet (.insertEntry 0 (.text "k")),
    .operate .quiet (.lockValue 0 true),
    .operate .quiet (.appendValue 0 1 ⟨.ofList [1, 2], Payload.size_two_lt⟩),
    .operate .quiet (.drop 1), .operate .quiet (.mapKey 0 (.text "k") 1 true)]

/-- **A mapping that is read-only may show less than the table stores**: it has as many bytes as
were asked for, which may be fewer. -/
theorem not_stored_mappedShort :
    ¬ ∀ (as : List (Action Nat)) (map : HandleId) (m : Mapping)
      (ts : List (ArrayTurn (Action Nat))),
      ((onDirectory "d" : Store).session as).mapping? map = some m →
      (∀ t ∈ ts, t.Among m.Takes (Action.Elsewhere map)) →
      (capability map).Undisturbed act ((onDirectory "d" : Store).session as) ts →
      ∀ b t e, m.backing = .entry b → b.borrow = some (t, e) → b.view ≠ .released →
        let r := (capability map).beside act (denial? map) ((onDirectory "d" : Store).session as) ts
        r.2.cells = some ((r.1.table t).value e).toList := by
  intro h
  have hstored := h valueMappedShort 2 ⟨.entry ⟨some (0, 0), 1, .read⟩, true, .empty⟩ []
    (by decide +kernel) (by simp) trivial ⟨some (0, 0), 1, .read⟩ 0 0 rfl rfl (by decide)
  exact absurd hstored (by decide +kernel)

end Store

end ClaimStore
