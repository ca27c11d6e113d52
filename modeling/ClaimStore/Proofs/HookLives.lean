import ClaimStore.Proofs.HookRuns
import ClaimStore.Proofs.Capabilities
import ClaimStore.Proofs.Keeper

/-!
# The laws of hooks

Mappings of files, entries and buffers in a store obey the laws of hooks, and so do passthrough
mappings of any component. Each runs its hooks in a place of
its own, before or after its view ends, and yet every hook is given the bytes that were shown just
before. For a file this needs that the mapping is inside the file, because writing back may change
what is seen behind its end.

## Main definitions

* `Store.Live`, `Store.Over` — a mapping that was not unmapped yet, and one that was.

## Main results

* `Store.view?_writeBack` — writing back changes nothing that is shown.
* `Store.hookLaws`, `Passthrough.hookLaws` — the laws, for the mappings of a store and for
  passthrough mappings.
-/

set_option autoImplicit false

namespace ClaimStore

/-! ### Mappings that show nothing any more -/

/-- What is closed stays closed. -/
@[simp] lemma Backing.closed_closed (b : Backing) : b.closed.closed = b.closed := by
  cases b <;> rfl

namespace Store

variable {κ : Type} {s s' : Store κ} {map : HandleId} {m : Mapping}

/-- A mapping whose view has ended for good shows nothing that could be changed. -/
lemma mutableView?_closed (h : m.backing.closed = m.backing) : s.mutableView? m = none := by
  unfold mutableView?
  rw [view?_closed s h.symm]
  split <;> rfl

/-- Nor is there anything to be written back. -/
lemma writeBackUnder_closed (f : Faults) (h : m.backing.closed = m.backing) :
    f.refusal? m = none ∧ s.writeBackUnder f m = s := by
  have hnot : ∀ b, m.backing = .file b → b.opened = none ∧ b.region = .unmapped := by
    intro b hb
    rw [hb] at h
    rw [← Backing.file.inj h]
    exact ⟨rfl, rfl⟩
  have hrefusal : f.refusal? m = none := refusal?_eq_none fun _ b hb id ho => by
    rw [(hnot b hb).1] at ho
    cases ho
  refine ⟨hrefusal, ?_⟩
  rw [writeBackUnder, hrefusal]
  dsimp only
  unfold writeBack
  split
  · next b _ hb =>
    unfold FileBacking.flush
    rw [(hnot b hb).1, (hnot b hb).2]
  · rfl

/-- Its length cannot be changed. -/
lemma resizeWith_closed (f : MappingFaults) (hm : s.mapping? map = some m)
    (h : m.backing.closed = m.backing) (n : UInt64) : s.resizeWith f map n =
      (s, .error (.content (if m.readOnly then .notSupported "resize"
        else .invalidMapping "resize"))) := by
  unfold resizeWith
  rw [hm]
  dsimp only
  cases m.readOnly with
  | true => rfl
  | false =>
    simp only [Bool.false_eq_true, if_false]
    cases hb : m.backing with
    | file b =>
      rw [hb] at h
      rw [← Backing.file.inj h]
      rfl
    | entry b =>
      rw [hb] at h
      rw [← Backing.entry.inj h]
      unfold resizeEntry
      cases b.borrow <;> rfl
    | buffer b =>
      rw [hb] at h
      rw [← Backing.buffer.inj h]
      rfl

/-! ### The laws -/

/-- **Writing back does not change what is shown**, where the mapping is inside its file. -/
lemma view?_writeBack (hp : s.InFile m) : (s.writeBack m).view? m = s.view? m := by
  cases hro : m.readOnly with
  | true =>
    unfold writeBack
    rw [hro]
  | false =>
    cases hb : m.backing with
    | file b =>
      by_cases hshown : b.region = .mapped ∧ ∃ id, b.opened = some (.file id)
      · obtain ⟨hr, id, ho⟩ := hshown
        have hback : (s.writeBack m).InFile m := fun b' id' hro' hb' ho' => by
          obtain rfl := Backing.file.inj (hb.symm.trans hb')
          rw [(alters_writeBack s hb ho').size_eq, bytes_writeBack]
          exact hp b id' hro' hb' ho'
        rw [view?_of_inFile hback hro hb ho hr, view?_of_inFile hp hro hb ho hr, bytes_writeBack]
      · have hsame : s.writeBack m = s := by
          unfold writeBack
          rw [hro, hb]
          dsimp only
          unfold FileBacking.flush
          split
          · next id hr ho => exact absurd ⟨hr, id, ho⟩ hshown
          · rfl
        rw [hsame]
    | entry b =>
      unfold writeBack
      rw [hro, hb]
    | buffer b =>
      unfold writeBack
      rw [hro, hb]

/-- A mapping inside its file shows the same when it was written back. -/
lemma view?_writeBackUnder (f : Faults) (hp : s.InFile m) :
    (s.writeBackUnder f m).view? m = s.view? m := by
  unfold writeBackUnder
  split
  · rfl
  · exact view?_writeBack hp

/-- Nothing is recorded when a mapping is written back. -/
lemma log_writeBackUnder (f : Faults) (s : Store κ) (m : Mapping) :
    (s.writeBackUnder f m).log = s.log := by
  unfold writeBackUnder
  split
  · rfl
  · rw [writeBack_eq]

/-- Nothing is recorded when a handle is forgotten. -/
lemma log_discard (s : Store κ) (h : HandleId) : (s.discard h).log = s.log := by
  unfold discard
  split
  · rfl
  · exact log_releaseAll s _

/-- A mapping that was not unmapped yet. -/
def Live (map : HandleId) (s : Store κ) : Prop :=
  ∃ m, s.mapping? map = some m ∧ m.hooks.fired = false ∧ s.InFile m

/-- A mapping that was unmapped. -/
def Over (map : HandleId) (s : Store κ) : Prop :=
  ∃ m, s.mapping? map = some m ∧ m.hooks = .spent ∧ m.backing.closed = m.backing

section Laws

variable [DecidableEq κ]

/-- What is left when a mapping was written back, hooks ran with some bytes, and its view ended. -/
def afterHooks (map : HandleId) (f : MappingFaults) (s : Store κ) (view : Bytes)
    (hooks : List Hook) : Store κ :=
  match s.mapping? map with
  | none => s
  | some m =>
    (((s.writeBackUnder f.toFaults m).runHooksUnder f.toFaults view hooks).1.releaseAll
      m.backing.viewResources).setHandle map (.mapping m.ended)

/-- **A mapping that is unmapped** runs the hooks that wait with what it showed. -/
lemma unmapUnder_eq (f : Faults) (hm : s.mapping? map = some m) (hp : s.InFile m) :
    s.unmapUnder f map =
      ((((s.writeBackUnder f m).runHooksUnder f ((s.view? m).getD .empty)
          m.hooks.pending).1.releaseAll m.backing.viewResources).setHandle map (.mapping m.ended),
        unlessFailed ((f.refusal? m).or (m.hooks.pending.findSome? (Hook.failure? f)))) := by
  unfold unmapUnder
  rw [hm]
  dsimp only
  rw [view?_writeBackUnder f hp, failure_runHooksUnder]
  rfl

/-- What is left of a mapping that was unmapped, whatever failed. -/
lemma mapping?_unmapUnder (f : Faults) (hm : s.mapping? map = some m) (hp : s.InFile m) :
    (s.unmapUnder f map).1.mapping? map = some m.ended := by
  rw [unmapUnder_eq f hm hp]
  have hback : (s.writeBackUnder f m).handles = s.handles :=
    (alike_writeBackUnder f s m).handles_eq
  have hhandles : (((s.writeBackUnder f m).runHooksUnder f ((s.view? m).getD .empty)
      m.hooks.pending).1.releaseAll m.backing.viewResources).handles = s.handles := by
    rw [handles_releaseAll, handles_runHooksUnder, hback]
  rw [mapping?_setHandle (mapping?_congr hhandles ▸ hm), if_pos rfl]

/-- An unmap calls the hooks that are pending, in order, with the last view, whatever fails. -/
lemma calls_unmapUnder (f : Faults) (hm : s.mapping? map = some m) (hp : s.InFile m) :
    calls (s.unmapUnder f map).1.log =
      calls s.log ++ m.hooks.pending.filterMap (Hook.call? ((s.view? m).getD .empty)) := by
  rw [unmapUnder_eq f hm hp]
  show calls (releaseAll _ _).log = _
  rw [log_releaseAll, calls_runHooksUnder, log_writeBackUnder]

/-- A drop records what an unmap does. -/
lemma log_dropUnder (f : Faults) (hm : s.mapping? map = some m) :
    (s.dropUnder f map).log = (s.unmapUnder f map).1.log := by
  unfold dropUnder
  rw [mapping?_eq_some.1 hm]
  exact log_discard _ _

/-- A mapping that was unmapped stays as it is when that is done again. -/
lemma unmapUnder_over (f : Faults) (h : Over map s) : s.unmapUnder f map = (s, .ok ()) := by
  obtain ⟨m, hm, hhooks, hclosed⟩ := h
  obtain ⟨hrefusal, hback⟩ := writeBackUnder_closed (s := s) f hclosed
  have hself : m.ended = m := by
    rw [Mapping.ended, hclosed, ← hhooks]
  have hnone : m.backing.viewResources = [] := by
    rw [← hclosed]
    cases m.backing with
    | entry b => cases hb : b.borrow <;> simp [Backing.closed, Backing.viewResources,
        EntryBacking.viewResources, hb]
    | _ => rfl
  unfold unmapUnder
  rw [hm]
  dsimp only
  rw [hback, hrefusal, hhooks, hnone]
  show ((s.setHandle map (.mapping m.ended)), _) = _
  rw [hself, setHandle_self (mapping?_eq_some.1 hm)]
  rfl

/-- A step that keeps a mapping mapped. -/
lemma live_step (f : MappingFaults) {step : MappingStep} (h : Live map s)
    (hk : step.hook? = none) (hne : step ≠ .unmap) : Live map ((capability map).step f s step) ∧
      (capability map).hooks ((capability map).step f s step) = (capability map).hooks s ∧
        ((capability map).step f s step).log = s.log := by
  obtain ⟨m, hm, hfired, hp⟩ := h
  have goes : (∃ m', Advances map m s m' ((capability map).step f s step)) →
      Live map ((capability map).step f s step) ∧
        (capability map).hooks ((capability map).step f s step) = (capability map).hooks s ∧
          ((capability map).step f s step).log = s.log := by
    rintro ⟨m', ha⟩
    refine ⟨⟨m', ha.mapping_eq, ha.hooks_eq ▸ hfired, ha.inFile hp⟩, ?_, ha.log_eq⟩
    rw [hooks_capability ha.mapping_eq, hooks_capability hm, ha.hooks_eq]
  cases step with
  | register => cases hk
  | unmap => exact absurd rfl hne
  | writeAt offset b =>
    apply goes
    rw [Capability.step, writeAt_capability]
    exact advances_writeAt hm offset b
  | fill byte =>
    apply goes
    rw [Capability.step, fill_capability]
    exact advances_fillView hm byte
  | resize n => exact goes (advances_resizeWith f hm n)

/-- A step after the mapping was unmapped. -/
lemma step_over (f : MappingFaults) {step : MappingStep} (h : Over map s)
    (hk : step.hook? = none) : (capability map).step f s step = s := by
  have hunmap := unmapUnder_over f.toFaults h
  obtain ⟨m, hm, hhooks, hclosed⟩ := h
  cases step with
  | register => cases hk
  | writeAt offset b =>
    rw [Capability.step, writeAt_capability, writeAt, hm]
    dsimp only
    rw [mutableView?_closed hclosed]
    split <;> rfl
  | fill byte =>
    rw [Capability.step, fill_capability, fillView, hm]
    dsimp only
    rw [mutableView?_closed hclosed]
  | resize n => exact congrArg Prod.fst (resizeWith_closed f hm hclosed n)
  | unmap => exact congrArg Prod.fst hunmap

/-- **The mappings of a store obey the laws of hooks.**

**Proof sketch.** Each law is one about unmaps: what an unmap leaves, calls and answers is read off
its equation for a mapping inside its file, and a drop records what an unmap does. A mapping without
hooks stays at its place, so what comes late runs at once. -/
lemma hookLaws (map : HandleId) :
    (capability (κ := κ) map).HookLaws (afterHooks map) (Live map) (Over map) where
  register s name failure probe h := by
    obtain ⟨m, hm, hfired, hp⟩ := h
    have hstep : s.registerHook map (.record name failure probe) = s.setHandle map
        (.mapping { m with hooks := m.hooks.push (.record name failure probe) }) := by
      rw [registerHook, hm]
      dsimp only
      rw [register, hfired]
      rfl
    show Live map (s.registerHook map _) ∧ (capability map).hooks (s.registerHook map _) = _ ∧
      (s.registerHook map _).log = _
    rw [hstep]
    have hnew : (s.setHandle map (.mapping
        { m with hooks := m.hooks.push (.record name failure probe) })).mapping? map =
          some { m with hooks := m.hooks.push (.record name failure probe) } := by
      rw [mapping?_setHandle hm, if_pos rfl]
    refine ⟨⟨_, hnew, hfired, inFile_congr rfl rfl rfl hp⟩, ?_, rfl⟩
    rw [hooks_capability hnew, hooks_capability hm]
  step f s step h hk hne := live_step f h hk hne
  unmap f s h := by
    obtain ⟨m, hm, hfired, hp⟩ := h
    refine ⟨⟨m.ended, mapping?_unmapUnder f.toFaults hm hp, rfl, m.backing.closed_closed⟩, ?_, ?_,
      ?_⟩
    · rw [hooks_capability hm, data_capability hm, afterHooks, hm]
      exact congrArg Prod.fst (unmapUnder_eq f.toFaults hm hp)
    · rw [hooks_capability hm, data_capability hm]
      exact calls_unmapUnder f.toFaults hm hp
    · rw [hooks_capability hm, refusal?_capability hm]
      exact congrArg Prod.snd (unmapUnder_eq f.toFaults hm hp)
  drop f s h := by
    obtain ⟨m, hm, hfired, hp⟩ := h
    rw [hooks_capability hm, data_capability hm]
    show calls (s.dropUnder f.toFaults map).log = _
    rw [log_dropUnder f.toFaults hm, calls_unmapUnder f.toFaults hm hp]
    rfl
  ended s h := by
    obtain ⟨m, hm, hhooks, hclosed⟩ := h
    rw [data_capability hm, hooks_capability hm]
    exact ⟨view?_closed _ hclosed.symm, hhooks⟩
  late s name failure probe h := by
    obtain ⟨m, hm, hhooks, hclosed⟩ := h
    have hstep : s.registerHook map (.record name failure probe) =
        s.record (.hook name .empty (probe.map s.claimView)) := by
      rw [registerHook, hm]
      dsimp only
      rw [register, hhooks]
      have hself : { m with hooks := UnmapHooks.spent } = m := by rw [← hhooks]
      show (s.record _).setHandle map (.mapping { m with hooks := UnmapHooks.spent }) = _
      rw [hself]
      exact setHandle_self (s := s.record _) (mapping?_eq_some.1 hm)
    show Over map (s.registerHook map _) ∧ calls (s.registerHook map _).log = _
    rw [hstep]
    refine ⟨⟨m, hm, hhooks, hclosed⟩, ?_⟩
    show calls (s.log ++ [_]) = _
    rw [calls, List.filterMap_append]
    rfl
  idle f s step h hk _ := by
    rw [step_over f h hk]
    exact ⟨h, rfl⟩
  again f s h := unmapUnder_over f.toFaults h
  gone f s h := by
    have hunmap := unmapUnder_over f.toFaults h
    obtain ⟨m, hm, -⟩ := h
    show calls (s.dropUnder f.toFaults map).log = _
    rw [log_dropUnder f.toFaults hm, hunmap]
    rfl

end Laws

end Store

/-! ### Bytes of another component -/

namespace Passthrough

variable {ρ κ : Type} [DecidableEq κ] (ops : PassthroughOps ρ)

/-- A step that keeps the hooks of a passthrough mapping, and a mapping that was released. -/
lemma step_eq (f : MappingFaults) (x : Store κ × Passthrough ρ) {step : MappingStep}
    (hk : step.hook? = none) (hne : step ≠ .unmap) : ∃ state,
      (capability ops).step f x step = (x.1, { x.2 with state }) ∧
        (x.2.state = none → state = none) := by
  obtain ⟨s, state, readOnly, u⟩ := x
  cases step with
  | register => cases hk
  | unmap => exact absurd rfl hne
  | writeAt offset b =>
    simp only [Capability.step, Capability.writeAt, capability, dataMut]
    cases readOnly with
    | true => exact ⟨state, rfl, id⟩
    | false =>
      cases state with
      | none => exact ⟨none, rfl, id⟩
      | some y =>
        simp only [Bool.false_eq_true, if_false, Option.map_some]
        split <;> exact ⟨_, rfl, (by simp)⟩
  | fill byte =>
    simp only [Capability.step, Capability.fill, capability, dataMut]
    cases readOnly with
    | true => exact ⟨state, rfl, id⟩
    | false =>
      cases state with
      | none => exact ⟨none, rfl, id⟩
      | some y => exact ⟨_, rfl, (by simp)⟩
  | resize n =>
    simp only [Capability.step, capability, resize]
    cases readOnly with
    | true => exact ⟨state, rfl, id⟩
    | false =>
      cases state with
      | none => exact ⟨none, rfl, id⟩
      | some y =>
        simp only [Bool.false_eq_true, if_false]
        split <;> exact ⟨_, rfl, (by simp)⟩

/-- What is left when hooks ran with some bytes and the mapping was released. -/
def afterHooks (f : MappingFaults) (x : Store κ × Passthrough ρ) (view : Bytes)
    (hooks : List Hook) : Store κ × Passthrough ρ :=
  ((x.1.runHooksUnder f.toFaults view hooks).1, { x.2 with state := none, hooks := .spent })

/-- **Passthrough mappings obey the laws of hooks**, whatever the operations on the component do. -/
lemma hookLaws : (capability (κ := κ) ops).HookLaws afterHooks (fun x => x.2.hooks.fired = false)
    (fun x => x.2.state = none ∧ x.2.hooks = .spent) where
  register x name failure probe h := by
    obtain ⟨s, state, readOnly, pending, fired⟩ := x
    obtain rfl : fired = false := h
    exact ⟨rfl, rfl, rfl⟩
  step f x step h hk hne := by
    obtain ⟨state, hstep, -⟩ := step_eq ops f x hk hne
    rw [hstep]
    exact ⟨h, rfl, rfl⟩
  unmap f x h :=
    ⟨⟨rfl, rfl⟩, rfl, Store.calls_runHooksUnder f.toFaults x.1 _ _,
      congrArg Store.unlessFailed (Store.failure_runHooksUnder f.toFaults x.1 _ _)⟩
  drop f x h := Store.calls_runHooksUnder f.toFaults x.1 _ _
  ended x h := ⟨by show x.2.data ops = none; rw [data, h.1]; rfl, h.2⟩
  late x name failure probe h := by
    obtain ⟨s, state, readOnly, u⟩ := x
    obtain ⟨rfl, rfl⟩ : state = none ∧ u = .spent := h
    refine ⟨⟨rfl, rfl⟩, ?_⟩
    show calls (s.log ++ [_]) = _
    rw [calls, List.filterMap_append]
    rfl
  idle f x step h hk hne := by
    obtain ⟨state, hstep, hnone⟩ := step_eq ops f x hk hne
    rw [hstep]
    exact ⟨⟨hnone h.1, h.2⟩, rfl⟩
  again f x h := by
    obtain ⟨s, state, readOnly, u⟩ := x
    obtain ⟨rfl, rfl⟩ : state = none ∧ u = .spent := h
    rfl
  gone f x h := by
    obtain ⟨s, state, readOnly, u⟩ := x
    obtain ⟨rfl, rfl⟩ : state = none ∧ u = .spent := h
    rfl

end Passthrough

end ClaimStore
