import ClaimStore.Proofs.LimitReports
import ClaimStore.Proofs.OpenFiles
import ClaimStore.Proofs.Ownership
import ClaimStore.Proofs.PlainArrays
import ClaimStore.Proofs.ReaderBytes

/-!
# Mappings are arrays of bytes

Every mapping of a store answers as the plain array of bytes that it shows, whatever keeps the
bytes: a file, an entry or a buffer. Here this is shown for one call in a state that is in order.

## Main definitions

* `Mapping.Takes` — the calls that a mapping takes as an array does.
* `Action.Elsewhere` — an action that is none on a mapping.
* `Store.denial?` — the lengths that there is no room for.

## Main results

* `Store.data_setView` — what is given back for the bytes of a mapping is shown.
* `Store.lends_capability` — the bytes of a mapping can be lent out.
* `Store.asPlain_resize` — a change of length.
-/

set_option autoImplicit false

namespace ClaimStore

/-! ### Calls -/

/-- The calls that a mapping takes as an array does. The length of a file is another matter: behind
the bytes of the mapping, it may hold more. -/
def Mapping.Takes (m : Mapping) : ArrayCall → Prop
  | .resize _ => m.readOnly = true ∨ ∀ b, m.backing ≠ .file b
  | .read .. | .write .. | .lend _ => True

/-- The action is none on this mapping. -/
def Action.Elsewhere {κ : Type} (map : HandleId) (a : Action κ) : Prop :=
  a.Spares map ∧ ¬ a.Unmaps map ∧ ∀ f n, a ≠ .resize f map n

namespace Store

variable {κ : Type} {s s' : Store κ} {map : HandleId} {m m' : Mapping}

/-- **The lengths that there is no room for**: for an entry, longer than the value by more than the
limit of its table leaves; for a buffer, above what it can hold. -/
def denial? (map : HandleId) (s : Store κ) (n : UInt64) : Option Failure :=
  (s.mapping? map).bind fun m =>
    match m.backing with
    | .file _ => none
    | .entry b => b.borrow.bind fun p =>
      let room := (s.table p.1).budget.room
      let growth := n.toNat - ((s.table p.1).value p.2).size
      if room < growth then some (.content (.capacityExceeded growth room)) else none
    | .buffer b => b.capacity.bind fun c => if c < n.toNat then some (.overBuffer c) else none

/-! ### Bytes that are given back -/

/-- A mapping of an entry owns it. -/
lemma owned?_mapping {b : EntryBacking} (hb : m.backing = .entry b) {t : TableId} {e : EntryId}
    (hbor : b.borrow = some (t, e)) : (Handle.mapping m).owned? = some (t, e) := by
  rw [Handle.owned?, hb]
  exact hbor

/-- An entry that is shown is stored. -/
lemma Ordered.stored_mapping (h : Ordered s) (hm : s.mapping? map = some m) {b : EntryBacking}
    (hb : m.backing = .entry b) {t : TableId} {e : EntryId} (hbor : b.borrow = some (t, e)) :
    (s.table t).Stored e :=
  h.sound.stored_of_owned (mapping?_eq_some.1 hm) (owned?_mapping hb hbor)

/-- A writable mapping of an entry that shows bytes has the place of the writer. -/
lemma Ordered.view_write (h : Ordered s) (hm : s.mapping? map = some m) (hro : m.readOnly = false)
    {b : EntryBacking} (hb : m.backing = .entry b) (hview : b.view ≠ .released) :
    b.view = .write := by
  cases hv : b.view with
  | write => rfl
  | released => exact absurd hv hview
  | read =>
    have hwhole := h.sound.handles_whole map _ (mapping?_eq_some.1 hm) b hb hv
    rw [hro] at hwhole
    cases hwhole

/-- The value of an entry that was replaced. -/
lemma value_setValue {K : Type} {t : EntryTable K} {e : EntryId} (he : t.Stored e) (v : Bytes) :
    (t.setValue e v).value e = v := by
  obtain ⟨c, hc, -⟩ := he
  exact EntryTable.value_modify_self hc

/-- **What is given back for the bytes of a mapping is shown afterwards**, if it is as long.

**Proof sketch.** By the backing. A file keeps the written bytes in its view, and the length does
not change as the sizes agree; an entry keeps them as its value; a buffer holds them itself. -/
lemma data_setView (h : Ordered s) (hf : FilesThere s) (hm : s.mapping? map = some m)
    {v v' : Bytes} (hv : s.mutableView? m = some v) (hsize : v'.size = v.size) :
    (s.setView map m v').data map = some v' := by
  obtain ⟨hro, hv⟩ := mutableView?_eq_some.1 hv
  unfold view? at hv
  unfold setView
  cases hb : m.backing with
  | file b =>
    rw [hb] at hv
    dsimp only [fileView?] at hv ⊢
    have hshape := (h.shaped map m hm).file b hb
    cases hr : b.region with
    | unmapped =>
      rw [hr] at hv
      cases hv
    | empty =>
      rw [hr] at hv
      obtain rfl := Option.some.inj hv
      rw [data, hm]
      dsimp only [view?]
      rw [hb]
      dsimp only [fileView?]
      rw [hr]
      exact congrArg some (Bytes.size_eq_zero_iff.1 hsize).symm
    | mapped =>
      obtain ⟨id, ho⟩ := hshape.opened_eq hr
      rw [hr, ho] at hv
      rw [ho]
      -- the mapping shows as many bytes as before, and they are those that were given back
      have hlength : v'.size = b.length := by
        rw [hsize, ← Option.some.inj hv]
        exact Bytes.size_fit _ _
      have hid := hf.lt map id (opensFile_mapping hm hro hb ho)
      have hmap : ({ s with disk := s.disk.writeView id v' } : Store κ).mapping? map = some m := hm
      rw [data, hmap]
      dsimp only [view?]
      rw [hb]
      dsimp only [fileView?]
      rw [hr, ho]
      show some (((s.disk.writeView id v').data id).view b.length) = some v'
      rw [Disk.writeView, Disk.data_modify, if_pos ⟨rfl, hid⟩, ← hlength, FileData.view_writeView]
  | entry b =>
    rw [hb] at hv
    obtain ⟨borrow, size, view⟩ := b
    cases borrow with
    | none => cases hv
    | some p =>
      obtain ⟨t, e⟩ := p
      have hstored := h.stored_mapping hm hb rfl
      have hview : view = .write :=
        h.view_write hm hro hb (by rintro rfl; cases hv)
      subst hview
      have hmap : (s.setTable t ((s.table t).setValue e v')).mapping? map = some m := hm
      dsimp only
      rw [data, hmap]
      dsimp only [view?]
      rw [hb]
      dsimp only [entryView?]
      rw [table_setTable_self (lt_of_stored hstored), value_setValue hstored]
  | buffer b =>
    dsimp only
    rw [data, mapping?_setHandle hm, if_pos rfl]
    rfl

section Answers

variable [DecidableEq κ]

/-- **The bytes of a mapping can be lent out**, in every state that is in order. -/
lemma lends_capability (h : Ordered s) (hf : FilesThere s) (hm : s.mapping? map = some m) :
    (capability map).Lends s where
  bytes_eq := by
    rw [dataMut_capability hm, isReadOnly_capability hm, data_capability hm, mutableView?]
    cases m.readOnly with
    | true => rfl
    | false =>
      simp only [Bool.false_eq_true, if_false]
      cases s.view? m <;> rfl
  back_eq l hl o ho := by
    rw [dataMut_capability hm] at hl
    obtain ⟨v, hv, rfl⟩ := Option.map_eq_some_iff.1 hl
    obtain ⟨hro, hview⟩ := mutableView?_eq_some.1 hv
    cases o with
    | none => exact ⟨(data_capability hm).trans hview, (isReadOnly_capability hm).trans hro⟩
    | some v' =>
      obtain ⟨m', ha⟩ := advances_setView hm v'
      refine ⟨data_setView h hf hm hv (ho v' rfl), ?_⟩
      exact (isReadOnly_capability ha.mapping_eq).trans (ha.readOnly_eq.trans hro)

/-! ### Changes of length -/

omit [DecidableEq κ] in
/-- A mapping of no file, or one that is read-only, is resized without failures. -/
lemma resizeWith_takes (hm : s.mapping? map = some m)
    (h : m.readOnly = true ∨ ∀ b, m.backing ≠ .file b) (f : MappingFaults) (n : UInt64) :
    s.resizeWith f map n = s.resize map n := by
  rcases resizeWith_cases f s map n with heq | ⟨m', b, hm', hro, hb, -⟩
  · exact heq
  · obtain rfl := Option.some.inj (hm.symm.trans hm')
    rcases h with htrue | hnot
    · rw [hro] at htrue
      cases htrue
    · exact absurd hb (hnot b)

/-- **A value becomes longer exactly where the limit of its table leaves room.** -/
lemma resizeValue_cases {K : Type} {t : EntryTable K} (ht : t.Exact) {e : EntryId}
    (he : t.Stored e) (n : UInt64) :
    (t.budget.room < n.toNat - (t.value e).size ∧ t.resizeValue e n = .error
      (.capacityExceeded (n.toNat - (t.value e).size) t.budget.room)) ∨
    ¬ t.budget.room < n.toNat - (t.value e).size ∧ ∃ t', t.resizeValue e n = .ok t' ∧
      t'.value e = (t.value e).fit n.toNat := by
  have hlt := ht.size_value_lt he
  have hword : (UInt64.ofNat (t.value e).size).toNat = (t.value e).size :=
    UInt64.toNat_ofNat_of_lt' hlt
  cases hr : t.resizeValue e n with
  | error x =>
    obtain ⟨rfl, hroom⟩ := EntryTable.resizeValue_error hlt hr
    exact .inl ⟨hroom, rfl⟩
  | ok t' =>
    obtain ⟨b, hb, rfl⟩ := EntryTable.resizeValue_ok hr
    obtain ⟨hbytes, -, hlimits, hwithin⟩ :=
      Budget.adjust_ok ht.within (hword.symm ▸ ht.size_value_le he) hb
    refine .inr ⟨?_, _, rfl, ?_⟩
    · have hmax : b.bytesUsed.toNat ≤ t.budget.maxBytes.toNat :=
        hlimits.1 ▸ hwithin.bytes_le
      rw [hword] at hbytes
      rw [Budget.room]
      omega
    · obtain ⟨c, hc, -⟩ := he
      have hvalue : t.value e = c.value := by rw [EntryTable.value, hc]
      rw [hvalue]
      exact EntryTable.value_modify_self (f := Entry.fitted n.toNat) hc

/-- A mapping that shows nothing is not resized. -/
lemma asPlain_lost {f : MappingFaults} {n : UInt64} (hm : s.mapping? map = some m)
    (hro : m.readOnly = false) (hview : s.view? m = none)
    (hr : s.resizeWith f map n = (s, .error (.content (.invalidMapping "resize")))) :
    (capability map).AsPlain (s.denial? map) f s (.resize n) := by
  have hask : (capability map).ask f s (.resize n) =
      (s, .refused (.content (.invalidMapping "resize"))) := by
    show ((s.resizeWith f map n).1, ArrayAnswer.ofBytes (s.resizeWith f map n).2) = _
    rw [hr]
    rfl
  rw [Capability.AsPlain, hask, Capability.plain, isReadOnly_capability hm, data_capability hm, hro,
    hview]
  rfl

/-- **A mapping that is resized as an array is**: there is no room for the length, and nothing
changes, or there is, and it shows the bytes at their new length. -/
lemma asPlain_resized {f : MappingFaults} {n : UInt64} {v : Bytes} (hm : s.mapping? map = some m)
    (hro : m.readOnly = false) (hview : s.view? m = some v)
    (hr : (∃ e, s.denial? map n = some e ∧ s.resizeWith f map n = (s, .error e)) ∨
      s.denial? map n = none ∧ ∃ s' m', s.resizeWith f map n = (s', .ok (v.fit n.toNat)) ∧
        s'.mapping? map = some m' ∧ m'.readOnly = false ∧ s'.view? m' = some (v.fit n.toNat)) :
    (capability map).AsPlain (s.denial? map) f s (.resize n) := by
  have hplain : (capability map).plain s = ⟨some v.toList, true⟩ := by
    rw [Capability.plain, isReadOnly_capability hm, data_capability hm, hro, hview]
    rfl
  have hask : (capability map).ask f s (.resize n) =
      ((s.resizeWith f map n).1, .ofBytes (s.resizeWith f map n).2) := rfl
  rw [Capability.AsPlain, hask, hplain]
  unfold PlainArray.ask PlainArray.failure? PlainArray.changesBytes PlainArray.needsBytes
  rcases hr with ⟨e, hdenial, hr⟩ | ⟨hdenial, s', m', hr, hm', hro', hview'⟩
  · rw [hr]
    simp only [if_true, hdenial]
    exact congrArg₂ Prod.mk hplain.symm rfl
  · have hplain' : (capability map).plain s' = ⟨some (v.fit n.toNat).toList, true⟩ := by
      rw [Capability.plain, isReadOnly_capability hm', data_capability hm', hro', hview']
      rfl
    rw [hr]
    simp only [if_true, hdenial, PlainArray.after, PlainArray.answer, Option.map_some,
      Option.getD_some, PlainArray.fitted_toList]
    exact congrArg₂ Prod.mk hplain'.symm rfl

/-- A mapping of an entry.

**Proof sketch.** Where the entry is borrowed for writing, the budget decides: without room for the
growth nothing changes, and otherwise the new value is the old one fitted to the length. Where it
was given back the mapping shows nothing, and the call is refused. -/
lemma asPlain_resizeEntry (h : Ordered s) (hm : s.mapping? map = some m) (hro : m.readOnly = false)
    {b : EntryBacking} (hb : m.backing = .entry b) (f : MappingFaults) (n : UInt64) :
    (capability map).AsPlain (s.denial? map) f s (.resize n) := by
  have heq : s.resizeWith f map n = s.resizeEntry map m b n := by
    rw [resizeWith, hm]
    dsimp only
    rw [hro, hb]
    rfl
  by_cases hshown : b.borrow.isSome = true ∧ b.view ≠ .released
  · obtain ⟨⟨t, e⟩, hbor⟩ := Option.isSome_iff_exists.1 hshown.1
    have hw := h.view_write hm hro hb hshown.2
    have hstored := h.stored_mapping hm hb hbor
    have hlt := lt_of_stored hstored
    have hview : s.view? m = some ((s.table t).value e) := by
      unfold view? entryView?
      rw [hb]
      dsimp only
      rw [hbor, hw]
    have hdenial : s.denial? map n =
        if (s.table t).budget.room < n.toNat - ((s.table t).value e).size then
          some (.content (.capacityExceeded (n.toNat - ((s.table t).value e).size)
            (s.table t).budget.room)) else none := by
      rw [denial?, hm, Option.bind_some, hb]
      dsimp only
      rw [hbor, Option.bind_some]
    refine asPlain_resized hm hro hview ?_
    rw [heq, hdenial]
    unfold resizeEntry
    rw [hbor, hw]
    dsimp only
    rcases resizeValue_cases (h.sound.tables_sound t).toExact hstored n with
      ⟨hroom, hr⟩ | ⟨hroom, x, hr, hvalue⟩
    · rw [hr, if_pos hroom]
      exact .inl ⟨_, rfl, rfl⟩
    · rw [hr, if_neg hroom]
      have htable : (s.setTable t x).table t = x := table_setTable_self hlt x
      refine .inr ⟨rfl, (s.setTable t x).setHandle map
        (.mapping { m with backing := .entry { b with size := n.toNat } }),
        { m with backing := .entry { b with size := n.toNat } }, ?_, ?_, hro, ?_⟩
      · rw [← hvalue, ← hbor, ← hw]
      · rw [mapping?_setHandle (s := s.setTable t x) hm, if_pos rfl]
      · unfold view? entryView?
        dsimp only
        rw [hbor, hw]
        dsimp only
        show some (((s.setTable t x).table t).value e) = _
        rw [htable, hvalue]
  · have hnone : s.view? m = none := by
      rw [← Option.not_isSome_iff_eq_none, isSome_view?, hb]
      simpa [Backing.isValid] using hshown
    refine asPlain_lost hm hro hnone ?_
    rw [heq]
    unfold resizeEntry
    split
    · next hbor hw => exact absurd ⟨by rw [hbor]; rfl, by simp [hw]⟩ hshown
    · rfl

/-- A mapping of a buffer.

**Proof sketch.** As for an entry, with the room of the buffer in place of the budget. -/
lemma asPlain_resizeBuffer (hm : s.mapping? map = some m) (hro : m.readOnly = false)
    {b : BufferBacking} (hb : m.backing = .buffer b) (f : MappingFaults) (n : UInt64) :
    (capability map).AsPlain (s.denial? map) f s (.resize n) := by
  have heq : s.resizeWith f map n = s.resizeBuffer map m b n := by
    rw [resizeWith, hm]
    dsimp only
    rw [hro, hb]
    rfl
  have hview : s.view? m = b.buffer := by rw [view?, hb]
  cases hbuf : b.buffer with
  | none =>
    refine asPlain_lost hm hro (hview.trans hbuf) ?_
    rw [heq, resizeBuffer, hbuf]
  | some v =>
    refine asPlain_resized hm hro (hview.trans hbuf) ?_
    have hdenial : s.denial? map n =
        b.capacity.bind fun c => if c < n.toNat then some (.overBuffer c) else none := by
      rw [denial?, hm, Option.bind_some, hb]
    have hmade : (s.setHandle map (.mapping
        { m with backing := .buffer { b with buffer := some (v.fit n.toNat) } })).mapping? map =
          some { m with backing := .buffer { b with buffer := some (v.fit n.toNat) } } := by
      rw [mapping?_setHandle hm, if_pos rfl]
    rw [heq, hdenial]
    unfold resizeBuffer BufferBacking.resized
    rw [hbuf]
    cases hcap : b.capacity with
    | none =>
      rw [hcap] at hmade
      exact .inr ⟨rfl, _, _, rfl, hmade, hro, rfl⟩
    | some c =>
      rw [hcap] at hmade
      simp only [Option.bind_some]
      by_cases hc : c < n.toNat
      · rw [if_pos hc, if_pos hc]
        exact .inl ⟨_, rfl, rfl⟩
      · rw [if_neg hc, if_neg hc]
        exact .inr ⟨rfl, _, _, rfl, hmade, hro, rfl⟩

/-- **A mapping of an entry or of a buffer is resized as an array is**, and so is one that is
read-only: not at all. -/
lemma asPlain_resize (h : Ordered s) (hm : s.mapping? map = some m) (f : MappingFaults)
    (n : UInt64) (htakes : m.Takes (.resize n)) :
    (capability map).AsPlain (s.denial? map) f s (.resize n) := by
  cases hro : m.readOnly with
  | true =>
    have hask : (capability map).ask f s (.resize n) =
        (s, .refused (.content (.notSupported "resize"))) := by
      show ((s.resizeWith f map n).1, ArrayAnswer.ofBytes (s.resizeWith f map n).2) = _
      rw [resizeWith, hm]
      dsimp only
      rw [if_pos hro]
      rfl
    rw [Capability.AsPlain, hask, Capability.plain, isReadOnly_capability hm, hro]
    rfl
  | false =>
    cases hb : m.backing with
    | file b => exact absurd hb ((htakes.resolve_left (by simp [hro])) b)
    | entry b => exact asPlain_resizeEntry h hm hro hb f n
    | buffer b => exact asPlain_resizeBuffer hm hro hb f n

end Answers

end Store

end ClaimStore
