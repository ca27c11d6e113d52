import ClaimStore.Store.Capability
import ClaimStore.Proofs.SoundHandles

/-!
# Mappings through their operations

The operations through which callers use a mapping of a store are those of the store, and what is
made of the views is what the store does. A mapping of a buffer of its own is the passthrough
mapping of that buffer: each step of one is the same step of the other.

## Main definitions

* `Store.presented` — a store with a passthrough mapping of a buffer in the place of a mapping.

## Main results

* `Store.readAt_capability`, `Store.writeAt_capability`, `Store.fill_capability` — ranges.
* `Store.step_buffer` — a mapping of a buffer of its own is a passthrough mapping.
-/

set_option autoImplicit false

namespace ClaimStore.Store

variable {κ : Type} [DecidableEq κ] {s : Store κ} {map : HandleId} {m : Mapping}

/-! ### The operations on a mapping that is there -/

section There

/-- A mapping lends out the bytes that it shows. -/
lemma data_capability (hm : s.mapping? map = some m) : (capability map).data s = s.view? m := by
  show s.data map = _
  rw [data, hm]

/-- A mapping lends out for writing the view that it can change, and takes back what was made of
it. -/
lemma dataMut_capability (hm : s.mapping? map = some m) : (capability map).dataMut s =
    (s.mutableView? m).map fun v => ⟨v, fun changed => changed.elim s (s.setView map m)⟩ := by
  unfold capability
  simp only [hm, Option.bind_some]

/-- A mapping has the size that its backing says. -/
lemma size_capability (hm : s.mapping? map = some m) :
    (capability map).size s = s.mappingSize m := by
  unfold capability
  simp only [hm]

/-- A mapping is read-only as it was opened. -/
lemma isReadOnly_capability (hm : s.mapping? map = some m) :
    (capability map).isReadOnly s = m.readOnly := by
  unfold capability
  simp only [hm]

/-- A mapping has the hooks that were registered at it. -/
lemma hooks_capability (hm : s.mapping? map = some m) : (capability map).hooks s = m.hooks := by
  unfold capability
  simp only [hm]

/-- A mapping refuses a change of length for its own reasons. -/
lemma refusal?_capability (hm : s.mapping? map = some m) (f : MappingFaults) :
    (capability map).refusal? f s = f.refusal? m := by
  unfold capability
  simp only [hm, Option.bind_some]

/-- Whether a mapping shows bytes depends on its backing alone. -/
lemma isValid_capability (hm : s.mapping? map = some m) :
    (capability map).isValid s = m.backing.isValid := by
  rw [← isSome_view? s m, Capability.isValid, data_capability hm]

end There

/-! ### Ranges -/

/-- A read at an offset of a mapping is the general one. -/
lemma readAt_capability (s : Store κ) (map : HandleId) (offset len : Nat) :
    (capability map).readAt s offset len = s.readAt map offset len := rfl

/-- A write of a range goes through the bytes that can be changed. -/
lemma writeAt_capability (s : Store κ) (map : HandleId) (offset : Nat) (b : Bytes) :
    (capability map).writeAt s offset b = s.writeAt map offset b := by
  cases hm : s.mapping? map with
  | none => simp [Capability.writeAt, writeAt, capability, hm]
  | some m =>
    simp only [Capability.writeAt, writeAt, hm, dataMut_capability hm, isReadOnly_capability hm]
    cases s.mutableView? m <;> rfl

/-- So does one that sets them all. -/
lemma fill_capability (s : Store κ) (map : HandleId) (byte : UInt8) :
    (capability map).fill s byte = (s.fillView map byte).1 := by
  cases hm : s.mapping? map with
  | none => simp [Capability.fill, fillView, capability, hm]
  | some m =>
    simp only [Capability.fill, fillView, hm, dataMut_capability hm]
    cases s.mutableView? m <;> rfl

/-! ### Buffers -/

/-- The store with a passthrough mapping of a buffer in the place of a mapping. -/
def presented (map : HandleId) (capacity : Option Nat) (x : Store κ × Passthrough Bytes) :
    Store κ :=
  x.1.setHandle map (.mapping
    { backing := .buffer { buffer := x.2.state, capacity }
      readOnly := x.2.readOnly
      hooks := x.2.hooks })

section Buffers

variable {state : Option Bytes} {capacity : Option Nat} {readOnly : Bool} {u : UnmapHooks}

omit [DecidableEq κ] in
/-- A mapping of a buffer, as it is in the store. -/
lemma presented_self
    (hm : s.mapping? map = some ⟨.buffer ⟨state, capacity⟩, readOnly, u⟩) :
    presented map capacity (s, ⟨state, readOnly, u⟩) = s :=
  setHandle_self (mapping?_eq_some.1 hm)

/-- A buffer shows what the passthrough mapping shows, and as much of it. -/
lemma data_buffer (hm : s.mapping? map = some ⟨.buffer ⟨state, capacity⟩, readOnly, u⟩) :
    (capability map).data s = Passthrough.data (.buffer capacity) ⟨state, readOnly, u⟩ ∧
      (capability map).size s = Passthrough.size (.buffer capacity) ⟨state, readOnly, u⟩ := by
  rw [data_capability hm, size_capability hm]
  cases state <;> exact ⟨rfl, rfl⟩

/-- What can be changed is what can be changed through the passthrough mapping. -/
lemma dataMut_buffer (hm : s.mapping? map = some ⟨.buffer ⟨state, capacity⟩, readOnly, u⟩) :
    (capability map).dataMut s =
      (Passthrough.dataMut (.buffer capacity) ⟨state, readOnly, u⟩).map fun l =>
        ⟨l.bytes, fun v => presented map capacity (s, l.back v)⟩ := by
  rw [dataMut_capability hm]
  cases readOnly with
  | true => rfl
  | false =>
    cases state with
    | none => rfl
    | some v =>
      refine congrArg some (congrArg (Loan.mk v) (funext fun changed => ?_))
      cases changed with
      | none => exact (presented_self hm).symm
      | some v' => rfl

/-- A change of length is that of the passthrough mapping. -/
lemma resize_buffer (hm : s.mapping? map = some ⟨.buffer ⟨state, capacity⟩, readOnly, u⟩)
    (f : MappingFaults) (n : UInt64) : (capability map).resize f s n =
      (presented map capacity
          (s, (Passthrough.resize (.buffer capacity) ⟨state, readOnly, u⟩ n).1),
        (Passthrough.resize (.buffer capacity) ⟨state, readOnly, u⟩ n).2) := by
  show s.resizeWith f map n = _
  have hself := presented_self hm
  cases readOnly with
  | true => simp [resizeWith, hm, Passthrough.resize, hself]
  | false =>
    cases state with
    | none => simp [resizeWith, hm, Passthrough.resize, resizeBuffer, hself]
    | some v =>
      simp only [resizeWith, hm, Passthrough.resize, resizeBuffer, PassthroughOps.buffer]
      cases BufferBacking.resized { buffer := some v, capacity } v n.toNat with
      | error e => simp [hself]
      | ok v' => rfl

/-- Unmapping is the release of the passthrough mapping. -/
lemma unmap_buffer (hm : s.mapping? map = some ⟨.buffer ⟨state, capacity⟩, readOnly, u⟩)
    (f : MappingFaults) : (capability map).unmap f s =
      (presented map capacity
          (Passthrough.release (.buffer capacity) f.toFaults s ⟨state, readOnly, u⟩).1,
        (Passthrough.release (.buffer capacity) f.toFaults s ⟨state, readOnly, u⟩).2) := by
  show s.unmapUnder f.toFaults map = _
  have hrefusal : f.refusal? ⟨.buffer ⟨state, capacity⟩, readOnly, u⟩ = none :=
    refusal?_eq_none (by simp)
  have hback : s.writeBackUnder f.toFaults ⟨.buffer ⟨state, capacity⟩, readOnly, u⟩ = s := by
    rw [writeBackUnder, hrefusal]
    cases readOnly <;> rfl
  have hview : s.view? ⟨.buffer ⟨state, capacity⟩, readOnly, u⟩ =
      Passthrough.data (.buffer capacity) ⟨state, readOnly, u⟩ := by
    cases state <;> rfl
  simp only [unmapUnder, hm, hback, hrefusal, hview, Passthrough.release, Option.none_or]
  rfl

/-- **A mapping of a buffer of its own is a passthrough mapping**: each step of the one is the same
step of the other. -/
theorem step_buffer (hm : s.mapping? map = some ⟨.buffer ⟨state, capacity⟩, readOnly, u⟩)
    (f : MappingFaults) (step : MappingStep) : (capability map).step f s step =
      presented map capacity
        ((Passthrough.capability (.buffer capacity)).step f (s, ⟨state, readOnly, u⟩) step) := by
  have hself := presented_self hm
  cases step with
  | register name failure probe =>
    show s.registerHook map _ = _
    rw [registerHook, hm]
    rfl
  | writeAt offset b =>
    simp only [Capability.step, Capability.writeAt, isReadOnly_capability hm, dataMut_buffer hm,
      Passthrough.capability]
    cases readOnly with
    | true => exact hself.symm
    | false =>
      cases state with
      | none => exact hself.symm
      | some v =>
        simp only [Passthrough.dataMut, PassthroughOps.buffer, Bool.false_eq_true, if_false,
          Option.map_some]
        split <;> rfl
  | fill byte =>
    simp only [Capability.step, Capability.fill, dataMut_buffer hm, Passthrough.capability]
    cases (Passthrough.dataMut (.buffer capacity) ⟨state, readOnly, u⟩) with
    | none => exact hself.symm
    | some l => rfl
  | resize n => exact congrArg Prod.fst (resize_buffer hm f n)
  | unmap => exact congrArg Prod.fst (unmap_buffer hm f)

end Buffers

end ClaimStore.Store
