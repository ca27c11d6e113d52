import ClaimStore.Proofs.SessionRuns

/-!
# What a mapping shows is one thing

A mapping answers with its bytes, with those that can be changed, and with its size, each kept in a
place of its own: a file mapping has a part of the file beside a length, an entry mapping takes its
size from the value or from what was asked for, a passthrough mapping asks its component. The
answers always agree. A mapping that is read-only never changes its size, and one that was unmapped
shows nothing for good.

## Main definitions

* `Capability.Coherent` — the answers of a mapping agree.
* `Capability.LendsAll` — as many bytes can be changed as the size says.
* `Capability.Lost` — a mapping that shows nothing refuses all that is done with it.
* `Capability.Coheres` — the answers agree, now and later.

## Main results

* `Store.Ordered.coheres` — the mappings of every state that is in order.
* `coheres_session` — all mappings after all sessions, and all passthrough mappings.
* `not_lendsAll_firstTwo` — a component may give more bytes to be changed than it shows.
-/

set_option autoImplicit false

namespace ClaimStore

/-! ### Answers that agree -/

namespace Capability

variable {σ : Type}

/-- The most bytes that can be shown. -/
def maxView : Nat := 0x7FFFFFFFFFFFFFFF

/-- **The answers of a mapping agree.** -/
structure Coherent (C : Capability σ) (s : σ) : Prop where
  /-- It is valid exactly if it shows bytes. -/
  valid_iff_data : C.isValid s = true ↔ ∃ v, C.data s = some v
  /-- It is valid exactly if its size is that of some bytes. -/
  valid_iff_size : (∀ v, C.data s = some v → v.size ≤ maxView) →
    (C.isValid s = true ↔ C.size s ≠ Limits.unmappedSize)
  /-- Its size is the number of bytes that it shows. -/
  size_eq : ∀ v, C.data s = some v → C.size s = v.size
  /-- Its bytes can be changed exactly if it is valid and not read-only. -/
  mutable_iff : (∃ l, C.dataMut s = some l) ↔ C.isValid s = true ∧ C.isReadOnly s = false

/-- **As many bytes can be changed as the size says**, if any can. -/
def LendsAll (C : Capability σ) (s : σ) : Prop :=
  ∀ l, C.dataMut s = some l → l.bytes.size = C.size s

/-- The answers agree if the sizes do, and a mapping without bytes says so. -/
lemma Coherent.of_sizes {C : Capability σ} {s : σ}
    (hnone : C.data s = none → C.size s = Limits.unmappedSize)
    (hsome : ∀ v, C.data s = some v → C.size s = v.size)
    (hmutable : (∃ l, C.dataMut s = some l) ↔ C.isValid s = true ∧ C.isReadOnly s = false) :
    C.Coherent s where
  valid_iff_data := Option.isSome_iff_exists
  valid_iff_size hmax := by
    unfold isValid
    cases hdata : C.data s with
    | none => simp [hnone hdata]
    | some v =>
      have hv := hmax v hdata
      have hlt : maxView < Limits.unmappedSize := by decide
      rw [hsome v hdata]
      exact iff_of_true rfl (by omega)
  size_eq := hsome
  mutable_iff := hmutable

/-- **A mapping that shows nothing** refuses all that is done with it, and stays as it is. -/
structure Lost (C : Capability σ) (s : σ) : Prop where
  /-- It shows no bytes. -/
  data_eq : C.data s = none
  /-- It has none that can be changed. -/
  dataMut_eq : C.dataMut s = none
  /-- Its size says so. -/
  size_eq : C.size s = Limits.unmappedSize
  /-- Its length cannot be changed. -/
  resize_eq : ∀ f n, C.resize f s n = (s, .error (.content
    (if C.isReadOnly s then .notSupported "resize" else .invalidMapping "resize")))
  /-- Nothing can be written. -/
  writeAt_eq : ∀ offset b, C.writeAt s offset b = (s, .error (.content
    (if C.isReadOnly s then .notSupported "write" else .invalidMapping "write")))
  /-- Nothing can be read. -/
  readAt_eq : ∀ offset len, C.readAt s offset len = .error (.content (.invalidMapping "read"))

/-- A mapping without bytes refuses them. -/
lemma Lost.of_none {C : Capability σ} {s : σ} (hdata : C.data s = none)
    (hmutable : C.dataMut s = none) (hsize : C.size s = Limits.unmappedSize)
    (hresize : ∀ f n, C.resize f s n = (s, .error (.content
      (if C.isReadOnly s then .notSupported "resize" else .invalidMapping "resize")))) :
    C.Lost s where
  data_eq := hdata
  dataMut_eq := hmutable
  size_eq := hsize
  resize_eq := hresize
  writeAt_eq offset b := by
    unfold writeAt
    rw [hmutable]
    split <;> rfl
  readAt_eq offset len := by
    unfold readAt
    rw [hdata]

/-- **The answers of a mapping agree, now and later.** What can be made of a state while the mapping
is neither unmapped nor dropped is `Meanwhile`, and while it is not dropped, `Later`. -/
structure Coheres (C : Capability σ) (Meanwhile Later : σ → σ → Prop) (s : σ) : Prop where
  /-- They agree. -/
  coherent : C.Coherent s
  /-- A read-only mapping stays valid, or not, and keeps its size. -/
  still : C.isReadOnly s = true → ∀ s', Meanwhile s s' →
    C.isValid s' = C.isValid s ∧ C.size s' = C.size s
  /-- A mapping that was unmapped shows nothing for good, whatever failed in that. -/
  lost : ∀ f s', Later (C.unmap f s).1 s' → C.Lost s' ∧ C.isReadOnly s' = C.isReadOnly s

end Capability

/-! ### Mappings of a store -/

namespace Store

variable {κ : Type} {s s' : Store κ} {map : HandleId} {m m' : Mapping}

/-- **The size of a mapping is the number of bytes that it shows.**

**Proof sketch.** By the backing. The view of a file is fitted to the length of the mapping; a
read-only view of an entry is not longer than the value; all others show what they measure. -/
lemma Ordered.mappingSize_eq (h : Ordered s) (hm : s.mapping? map = some m) {v : Bytes}
    (hv : s.view? m = some v) : s.mappingSize m = v.size := by
  unfold view? at hv
  unfold mappingSize
  cases hb : m.backing with
  | file b =>
    have hshape := (h.shaped map m hm).file b hb
    rw [hb] at hv
    dsimp only [fileView?] at hv ⊢
    cases hr : b.region with
    | mapped =>
      obtain ⟨id, ho⟩ := hshape.opened_eq hr
      rw [hr, ho] at hv
      rw [if_neg nofun, ← Option.some.inj hv]
      exact (Bytes.size_fit _ _).symm
    | empty =>
      rw [hr] at hv
      rw [if_neg nofun, hshape.length_eq hr, ← Option.some.inj hv]
      rfl
    | unmapped =>
      rw [hr] at hv
      cases hv
  | entry b =>
    obtain ⟨borrow, size, view⟩ := b
    rw [hb] at hv
    cases borrow with
    | none => cases hv
    | some p =>
      obtain ⟨t, e⟩ := p
      cases view with
      | read =>
        have hle := h.insides map _ (mapping?_eq_some.1 hm) ⟨some (t, e), size, .read⟩ t e hb rfl
          rfl
        rw [← Option.some.inj hv, Bytes.size_take]
        exact (Nat.min_eq_left hle).symm
      | write =>
        rw [← Option.some.inj hv]
      | released => cases hv
  | buffer b =>
    rw [hb] at hv
    dsimp only at hv ⊢
    rw [hv]

/-- A mapping that shows nothing says so with its size. -/
lemma mappingSize_none (hv : s.view? m = none) : s.mappingSize m = Limits.unmappedSize := by
  unfold view? at hv
  unfold mappingSize
  cases hb : m.backing with
  | file b =>
    rw [hb] at hv
    dsimp only [fileView?] at hv ⊢
    cases hr : b.region with
    | mapped =>
      rw [hr] at hv
      dsimp only at hv
      split at hv <;> cases hv
    | empty =>
      rw [hr] at hv
      cases hv
    | unmapped => rw [if_pos rfl]
  | entry b =>
    obtain ⟨borrow, size, view⟩ := b
    rw [hb] at hv
    rcases borrow with _ | ⟨t, e⟩
    · rfl
    · cases view with
      | released => rfl
      | _ => cases hv
  | buffer b =>
    rw [hb] at hv
    dsimp only at hv ⊢
    rw [hv]

/-- The size of a read-only mapping is a matter of its backing. -/
lemma mappingSize_congr (hb : m'.backing = m.backing) (hm : m.Shaped) (hro : m.readOnly = true) :
    s'.mappingSize m' = s.mappingSize m := by
  unfold mappingSize
  rw [hb]
  cases hbacking : m.backing with
  | file b => rfl
  | buffer b => rfl
  | entry b =>
    obtain ⟨borrow, size, view⟩ := b
    cases view with
    | write => exact absurd ((hm.entry _ hbacking rfl).symm.trans hro) nofun
    | _ => cases borrow <;> rfl

section Answers

variable [DecidableEq κ]

/-- **The answers of every mapping agree** in a state that is in order. -/
lemma Ordered.coherent (h : Ordered s) (hm : s.mapping? map = some m) :
    (capability map).Coherent s := by
  refine .of_sizes (fun hnone => ?_) (fun v hv => ?_) ?_
  · rw [size_capability hm]
    exact mappingSize_none (data_capability hm ▸ hnone)
  · rw [size_capability hm]
    exact h.mappingSize_eq hm (data_capability hm ▸ hv)
  · rw [Capability.isValid, data_capability hm, dataMut_capability hm, isReadOnly_capability hm,
      mutableView?]
    cases m.readOnly <;> cases s.view? m <;> simp

/-- **Every mapping lends all bytes that it shows** in a state that is in order. -/
lemma Ordered.lendsAll (h : Ordered s) (hm : s.mapping? map = some m) :
    (capability map).LendsAll s := by
  intro l hl
  rw [dataMut_capability hm] at hl
  obtain ⟨v, hv, rfl⟩ := Option.map_eq_some_iff.1 hl
  rw [size_capability hm]
  exact (h.mappingSize_eq hm (mutableView?_eq_some.1 hv).2).symm

/-- **A mapping that has no view any more shows nothing.** -/
lemma lost_closed (hm : s.mapping? map = some m) (h : m.backing.closed = m.backing) :
    (capability map).Lost s := by
  have hnone := view?_closed s h.symm
  refine .of_none ?_ ?_ ?_ fun f n => ?_
  · rw [data_capability hm, hnone]
  · rw [dataMut_capability hm, mutableView?_closed h, Option.map_none]
  · rw [size_capability hm, mappingSize_none hnone]
  · rw [isReadOnly_capability hm]
    exact resizeWith_closed f hm h n

/-- What is left of a mapping that was unmapped. -/
lemma mapping?_unmapped (hm : s.mapping? map = some m) (f : Faults) :
    (s.unmapUnder f map).1.mapping? map = some m.ended := by
  rw [(alike_unmapUnder f s map).mapping?, mapping?_eq_some,
    (ended_unmap hm).handle? (mapping?_eq_some.1 hm), if_pos rfl]

variable [ToString κ]

/-- What sessions make of a state that neither unmap nor drop a mapping. -/
def Meanwhile (map : HandleId) (s s' : Store κ) : Prop :=
  ∃ as : List (Action κ), (∀ a ∈ as, ¬ a.Unmaps map ∧ ¬ a.Drops map) ∧ s' = s.session as

/-- What sessions make of a state that do not drop a mapping. -/
def Later (map : HandleId) (s s' : Store κ) : Prop :=
  ∃ as : List (Action κ), (∀ a ∈ as, ¬ a.Drops map) ∧ s' = s.session as

/-- A state comes after itself. -/
lemma later_refl (map : HandleId) (s : Store κ) : Later map s s :=
  ⟨[], fun _ ha => (nomatch ha), (session_nil s).symm⟩

/-- A mapping that has no view any more shows nothing for good. -/
lemma Ordered.lost_later (h : Ordered s) (hm : s.mapping? map = some m)
    (hclosed : m.backing.closed = m.backing) (hlater : Later map s s') :
    (capability map).Lost s' ∧ (capability map).isReadOnly s' = m.readOnly := by
  obtain ⟨as, hdrops, rfl⟩ := hlater
  obtain ⟨m', hm', hb, hro⟩ := h.backing_session hm (.inr hclosed) hdrops
  exact ⟨lost_closed hm' (by rw [hb, hclosed]), by rw [isReadOnly_capability hm', hro]⟩

/-- **The answers of every mapping agree, now and later.** -/
lemma Ordered.coheres (h : Ordered s) (hm : s.mapping? map = some m) :
    (capability map).Coheres (Meanwhile map) (Later map) s where
  coherent := h.coherent hm
  still hro s' hmeanwhile := by
    rw [isReadOnly_capability hm] at hro
    obtain ⟨as, has, rfl⟩ := hmeanwhile
    obtain ⟨m', hm', hb, -⟩ := h.backing_session hm (.inl ⟨hro, fun a ha => (has a ha).1⟩)
      fun a ha => (has a ha).2
    refine ⟨?_, ?_⟩
    · rw [isValid_capability hm', isValid_capability hm, hb]
    · rw [size_capability hm', size_capability hm, mappingSize_congr hb (h.shaped map m hm) hro]
  lost f s' hlater := by
    have hunmapped : Ordered (s.unmapUnder f.toFaults map).1 := h.stepUnder f.toFaults (.unmap map)
    obtain ⟨hlost, hro⟩ := hunmapped.lost_later (mapping?_unmapped hm f.toFaults)
      m.backing.closed_closed hlater
    exact ⟨hlost, by rw [hro, isReadOnly_capability hm]; rfl⟩

/-- **A mapping that was made for a key that is absent shows nothing for good.** -/
lemma Ordered.lost_mapKey (h : Ordered s) {t : TableId} (ht : t < s.tables.length) {key : Key κ}
    (hkey : (s.table t).find? key = none) (f : Faults) (n : UInt64) (readOnly : Bool)
    (hlater : Later s.handles.length (s.stepUnder f (.mapKey t key n readOnly)) s') :
    (capability s.handles.length).Lost s' ∧
      (capability s.handles.length).isReadOnly s' = readOnly := by
  have hmade : s.stepUnder f (.mapKey t key n readOnly) = (s.addHandle (.mapping
      ⟨.entry ⟨none, Limits.unmappedSize, .released⟩, readOnly, .empty⟩)).1 := by
    have happ : s.applies (.mapKey t key n readOnly) = true := decide_eq_true ht
    show (if s.applies _ then (s.mapKey t key n readOnly).1 else s) = _
    rw [if_pos happ, mapKey, hkey]
    rfl
  have hm : (s.stepUnder f (.mapKey t key n readOnly)).mapping? s.handles.length =
      some ⟨.entry ⟨none, Limits.unmappedSize, .released⟩, readOnly, .empty⟩ := by
    rw [hmade, mapping?_eq_some, ((Still.refl s).added _).handle?]
    exact if_pos rfl
  exact (h.stepUnder f _).lost_later hm rfl hlater

end Answers

end Store

/-! ### Bytes of another component -/

/-- **Operations on a component whose size is the number of its bytes.** -/
def PassthroughOps.Sized {ρ : Type} (ops : PassthroughOps ρ) : Prop :=
  ∀ x, ops.size x = (ops.data x).size

/-- The operations on a buffer are like that. -/
lemma PassthroughOps.sized_buffer (capacity : Option Nat) : (buffer capacity).Sized := fun _ => rfl

namespace Passthrough

variable {ρ κ : Type} [DecidableEq κ] {ops : PassthroughOps ρ}

/-- The answers of a passthrough mapping agree. -/
lemma coherent (h : ops.Sized) (x : Store κ × Passthrough ρ) : (capability ops).Coherent x := by
  obtain ⟨s, state, readOnly, hooks⟩ := x
  cases state with
  | none =>
    refine .of_sizes (fun _ => rfl) (fun v hv => by cases hv) ?_
    cases readOnly <;> simp [Capability.isValid, capability, data, dataMut]
  | some y =>
    refine .of_sizes (fun hv => by cases hv) (fun v hv => ?_) ?_
    · obtain rfl := Option.some.inj hv
      exact h y
    · cases readOnly <;> simp [Capability.isValid, capability, data, dataMut]

/-- **A passthrough mapping lends as many bytes as its component does**: all that it shows exactly
if the component gives as many to be changed as it shows. -/
lemma lendsAll_iff (h : ops.Sized) (x : Store κ × Passthrough ρ) :
    (capability ops).LendsAll x ↔ (x.2.readOnly = false → ∀ y, x.2.state = some y →
      (ops.dataMut y).bytes.size = (ops.data y).size) := by
  obtain ⟨s, state, readOnly, hooks⟩ := x
  cases readOnly with
  | true => exact iff_of_true (fun _ hl => nomatch hl) fun hro => nomatch hro
  | false =>
    cases state with
    | none => exact iff_of_true (fun _ hl => nomatch hl) fun _ _ hy => nomatch hy
    | some y =>
      constructor
      · rintro hlends - y' hy'
        obtain rfl := Option.some.inj hy'
        exact (hlends _ rfl).trans (h y)
      · intro hsame l hl
        obtain rfl := Option.some.inj hl
        exact (hsame rfl y rfl).trans (h y).symm

/-- A step leaves a mapping read-only or not, and a read-only one its state until it is unmapped. -/
lemma step_readOnly (ops : PassthroughOps ρ) (f : MappingFaults) (x : Store κ × Passthrough ρ)
    (step : MappingStep) :
    ((capability ops).step f x step).2.readOnly = x.2.readOnly ∧
      (x.2.readOnly = true → step ≠ .unmap →
        ((capability ops).step f x step).2.state = x.2.state) := by
  obtain ⟨s, state, readOnly, hooks⟩ := x
  cases step with
  | register name failure probe => exact ⟨rfl, fun _ _ => rfl⟩
  | unmap => exact ⟨rfl, fun _ hne => absurd rfl hne⟩
  | writeAt offset b =>
    cases readOnly with
    | true => exact ⟨rfl, fun _ _ => rfl⟩
    | false =>
      obtain ⟨state', hstep, -⟩ := step_eq ops f (s, ⟨state, false, hooks⟩)
        (show (MappingStep.writeAt offset b).hook? = none from rfl) nofun
      exact ⟨by rw [hstep], nofun⟩
  | fill byte =>
    cases readOnly with
    | true => exact ⟨rfl, fun _ _ => rfl⟩
    | false =>
      obtain ⟨state', hstep, -⟩ := step_eq ops f (s, ⟨state, false, hooks⟩)
        (show (MappingStep.fill byte).hook? = none from rfl) nofun
      exact ⟨by rw [hstep], nofun⟩
  | resize n =>
    cases readOnly with
    | true => exact ⟨rfl, fun _ _ => rfl⟩
    | false =>
      obtain ⟨state', hstep, -⟩ := step_eq ops f (s, ⟨state, false, hooks⟩)
        (show (MappingStep.resize n).hook? = none from rfl) nofun
      exact ⟨by rw [hstep], nofun⟩

/-- A passthrough mapping that was released stays so. -/
lemma step_none (ops : PassthroughOps ρ) (f : MappingFaults) {x : Store κ × Passthrough ρ}
    (hx : x.2.state = none) (step : MappingStep) :
    ((capability ops).step f x step).2.state = none := by
  have steps : step.hook? = none → step ≠ .unmap →
      ((capability ops).step f x step).2.state = none := fun hk hne => by
    obtain ⟨state', hstep, hnone⟩ := step_eq ops f x hk hne
    rw [hstep]
    exact hnone hx
  cases step with
  | register => exact hx
  | unmap => rfl
  | _ => exact steps rfl nofun

/-- It shows nothing. -/
lemma lost_none {x : Store κ × Passthrough ρ} (hx : x.2.state = none) :
    (capability ops).Lost x := by
  obtain ⟨s, state, readOnly, hooks⟩ := x
  obtain rfl : state = none := hx
  refine .of_none rfl ?_ rfl fun f n => ?_ <;> cases readOnly <;> rfl

/-- What steps make of a passthrough mapping that do not unmap it. -/
def Meanwhile (ops : PassthroughOps ρ) (x x' : Store κ × Passthrough ρ) : Prop :=
  ∃ steps, Capability.KeepsMapped steps ∧ x' = (capability ops).run x steps

/-- What steps make of a passthrough mapping. -/
def Later (ops : PassthroughOps ρ) (x x' : Store κ × Passthrough ρ) : Prop :=
  ∃ steps, x' = (capability ops).run x steps

/-- **The answers of a passthrough mapping agree, now and later.** -/
lemma coheres (h : ops.Sized) (x : Store κ × Passthrough ρ) :
    (capability ops).Coheres (Meanwhile ops) (Later ops) x where
  coherent := coherent h x
  still hro x' hmeanwhile := by
    obtain ⟨steps, hsteps, rfl⟩ := hmeanwhile
    have hstate : ((capability ops).run x steps).2.state = x.2.state := by
      induction steps generalizing x with
      | nil => rfl
      | cons y steps ih =>
        obtain ⟨hkeep, hsame⟩ := step_readOnly ops y.1 x y.2
        exact (ih _ (hkeep.trans hro) fun z hz => hsteps z (List.mem_cons_of_mem y hz)).trans
          (hsame hro (hsteps y List.mem_cons_self))
    refine ⟨?_, ?_⟩
    · simp only [Capability.isValid, capability, data] at hstate ⊢
      rw [hstate]
    · show size ops ((capability ops).run x steps).2 = size ops x.2
      unfold size
      rw [hstate]
  lost f x' hlater := by
    obtain ⟨steps, rfl⟩ := hlater
    have hrun : ∀ (y : Store κ × Passthrough ρ), y.2.state = none →
        ((capability ops).run y steps).2.state = none ∧
          ((capability ops).run y steps).2.readOnly = y.2.readOnly := by
      induction steps with
      | nil => exact fun y hy => ⟨hy, rfl⟩
      | cons z steps ih =>
        intro y hy
        obtain ⟨hstate, hro⟩ := ih _ (step_none ops z.1 hy z.2)
        exact ⟨hstate, hro.trans (step_readOnly ops z.1 y z.2).1⟩
    obtain ⟨hstate, hro⟩ := hrun ((capability ops).unmap f x).1 rfl
    exact ⟨lost_none hstate, hro⟩

end Passthrough

/-- **The answers of every mapping agree**, of a file, an entry or a buffer, in every state that a
session leads to, whatever failed in it: also after a change of length that fails half-way. As many
bytes can be changed as are shown. A read-only mapping keeps its size until it is unmapped, and a
mapping that was unmapped, or was made for a key that is absent, shows nothing and refuses
everything for good. So it is with passthrough mappings of any component whose size is the number of
its bytes, but as many bytes can be changed as the component gives to be changed. -/
theorem coheres_session {κ : Type} [DecidableEq κ] [ToString κ] :
    (∀ (name : String) (as : List (Action κ)) (map : HandleId) (m : Mapping),
      ((Store.onDirectory name).session as).mapping? map = some m →
        (Store.capability map).Coheres (Store.Meanwhile map) (Store.Later map)
            ((Store.onDirectory name).session as) ∧
          (Store.capability map).LendsAll ((Store.onDirectory name).session as)) ∧
    (∀ (name : String) (as : List (Action κ)) (f : Faults) (t : TableId) (key : Key κ) (n : UInt64)
      (readOnly : Bool) (s s' : Store κ), s = (Store.onDirectory name).session as →
        t < s.tables.length → (s.table t).find? key = none →
        Store.Later s.handles.length (s.stepUnder f (.mapKey t key n readOnly)) s' →
          (Store.capability s.handles.length).Lost s' ∧
            (Store.capability s.handles.length).isReadOnly s' = readOnly) ∧
    ∀ (ρ : Type) (ops : PassthroughOps ρ), ops.Sized → ∀ x : Store κ × Passthrough ρ,
      (Passthrough.capability ops).Coheres (Passthrough.Meanwhile ops) (Passthrough.Later ops) x ∧
        ((Passthrough.capability ops).LendsAll x ↔ (x.2.readOnly = false →
          ∀ y, x.2.state = some y → (ops.dataMut y).bytes.size = (ops.data y).size)) := by
  have ordered : ∀ (name : String) (as : List (Action κ)),
      ((Store.onDirectory name : Store κ).session as).Ordered := fun name as =>
    (Store.ordered_onDirectory name).session as
  refine ⟨fun name as map m hm => ⟨(ordered name as).coheres hm, (ordered name as).lendsAll hm⟩, ?_,
    fun ρ ops h x => ⟨Passthrough.coheres h x, Passthrough.lendsAll_iff h x⟩⟩
  rintro name as f t key n readOnly s s' rfl ht hkey hlater
  exact (ordered name as).lost_mapKey ht hkey f n readOnly hlater

/-- The operations on a component that shows two of its bytes and gives all to be changed. -/
def PassthroughOps.firstTwo : PassthroughOps Bytes where
  data x := x.take 2
  dataMut x := ⟨x, fun v => v.getD x⟩
  size x := (x.take 2).size
  resize x n := (x.fit n.toNat, .ok ())

/-- **A component may give more bytes to be changed than it shows**, and then a passthrough mapping
does so too: of three bytes, two are shown and all are lent. -/
theorem not_lendsAll_firstTwo : ¬ ∀ (ρ : Type) (ops : PassthroughOps ρ), ops.Sized →
    ∀ x : Store Nat × Passthrough ρ, (Passthrough.capability ops).LendsAll x := by
  intro h
  have hlends := h Bytes .firstTwo (fun _ => rfl)
    (Store.onDirectory "d", .new (.ofList [1, 2, 3]) false) _ rfl
  revert hlends
  decide +kernel

/-- A session in which a table is made, and a new file is mapped writable. -/
def mappedFile : List (Action Nat) :=
  [.operate .quiet (.addTable 100 10), .mapFile (.ofString "/d/x") 2 false none]

/-- The answers agree for that mapping, for one of a key that is absent from the table, and for a
passthrough mapping of two bytes. -/
theorem coheres_session_mappedFile :
    ((Store.onDirectory "d" : Store).session mappedFile).mapping? 0 = some
        ⟨.file ⟨.ofString "/d/x", some (.file 0), .mapped, 2, none⟩, false, .empty⟩ ∧
      (Store.capability 0).Coheres (Store.Meanwhile 0) (Store.Later 0)
        ((Store.onDirectory "d" : Store).session mappedFile) ∧
      (Store.capability 0).LendsAll ((Store.onDirectory "d" : Store).session mappedFile) ∧
      (Store.capability ((Store.onDirectory "d" : Store).session mappedFile).handles.length).Lost
        (((Store.onDirectory "d" : Store).session mappedFile).stepUnder
          .quiet (.mapKey 0 (.text "a") 1 false)) ∧
      (PassthroughOps.buffer none).Sized ∧
      (Passthrough.capability (.buffer none)).Coheres (Passthrough.Meanwhile (.buffer none))
        (Passthrough.Later (.buffer none)) ((Store.onDirectory "d" : Store), .new (.ofList [1, 2])
          false) ∧
      (Passthrough.capability (.buffer none)).LendsAll
        ((Store.onDirectory "d" : Store), .new (.ofList [1, 2]) false) := by
  have hm : ((Store.onDirectory "d" : Store).session mappedFile).mapping? 0 = some
      ⟨.file ⟨.ofString "/d/x", some (.file 0), .mapped, 2, none⟩, false, .empty⟩ := by
    decide +kernel
  have ht : 0 < ((Store.onDirectory "d" : Store).session mappedFile).tables.length := by
    decide +kernel
  have hkey : (((Store.onDirectory "d" : Store).session mappedFile).table 0).find? (.text "a") =
      none := by decide +kernel
  have hfile := coheres_session.1 "d" mappedFile 0 _ hm
  have hlost := coheres_session.2.1 "d" mappedFile .quiet 0 (.text "a") 1 false
    ((Store.onDirectory "d").session mappedFile) _ rfl ht hkey (Store.later_refl _ _)
  have hbuffer := coheres_session.2.2 _ (.buffer none) (PassthroughOps.sized_buffer none)
    ((Store.onDirectory "d" : Store), .new (.ofList [1, 2]) false)
  exact ⟨hm, hfile.1, hfile.2, hlost.1, PassthroughOps.sized_buffer none, hbuffer.1,
    hbuffer.2.2 fun _ _ _ => rfl⟩

/-- A change of length that fails after the file was cut leaves the mapping invalid, and a later one
makes it valid again. -/
example :
    let cut := (Store.onDirectory "d" : Store).session
      (mappedFile ++ [.resize { MappingFaults.quiet with remap := some .lengthTooLarge } 0 4])
    (Store.capability 0).isValid cut = false ∧ (Store.capability 0).size cut = Limits.unmappedSize ∧
      (Store.capability 0).size (cut.session [.resize .quiet 0 4]) = 4 := by
  decide +kernel

end ClaimStore
