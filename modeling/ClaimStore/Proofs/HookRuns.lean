import ClaimStore.Proofs.MappingSteps
import ClaimStore.Proofs.HandleEnds

/-!
# The hooks of a mapping run once

Hooks wait while a mapping is used. When the mapping is unmapped for the first time, or dropped
without that, all of them run in order of registration, each with the bytes that were shown last,
also where some fail. A hook that is registered later runs at once with no bytes. All this follows
from a few laws of the steps of a mapping, which say nothing of where its bytes are kept.

## Main definitions

* `Hook.call?`, `Hook.failure?` — what a hook records when it runs, and what it fails with.
* `Capability.HookLaws` — the laws of the steps.
* `Capability.RunsHooksOnce` — what follows for all sequences of steps.

## Main results

* `Store.calls_runHooksUnder`, `Store.failure_runHooksUnder` — hooks that run.
* `Capability.HookLaws.runsHooksOnce` — steps that obey the laws run every hook once.
-/

set_option autoImplicit false

namespace ClaimStore

/-! ### What hooks record -/

/-- What a hook records when it runs with these bytes: its name and the bytes. -/
def Hook.call? (view : Bytes) : Hook → Option (String × Bytes)
  | .record name _ _ => some (name, view)
  | .store .. | .hold .. => none

/-- What a hook fails with, if it fails. -/
def Hook.failure? (f : Faults) : Hook → Option Failure
  | .record _ failure _ => failure.map .hook
  | .store .. => f.commit
  | .hold .. => none

/-- The name of the hook that ran, with the bytes that it was given. -/
def Event.call? : Event → Option (String × Bytes)
  | .hook name view _ => some (name, view)
  | .note _ => none

/-- The hooks that ran, in order, each with the bytes that it was given. -/
def calls (log : List Event) : List (String × Bytes) := log.filterMap Event.call?

namespace Store

variable {κ : Type} [DecidableEq κ] (f : Faults) (s : Store κ) (view : Bytes)

omit [DecidableEq κ] in
/-- Nothing is recorded when resources are given back. -/
lemma log_releaseAll (rs : List Resource) : (s.releaseAll rs).log = s.log := by
  induction rs generalizing s with
  | nil => rfl
  | cons r rs ih =>
    have hone : (s.release r).log = s.log := by
      rcases r with _ | (_ | _) | _ | _ | _ | _ <;> rfl
    exact (ih (s.release r)).trans hone

/-- A hook that runs. -/
lemma calls_runHookUnder (h : Hook) :
    calls (s.runHookUnder f view h).1.log = calls s.log ++ (h.call? view).toList ∧
      (s.runHookUnder f view h).2 = h.failure? f := by
  rcases h with ⟨d, key⟩ | ⟨c, l⟩ | ⟨name, failure, probe⟩
  · unfold runHookUnder
    cases hc : f.commit <;> simp [runHook, Hook.call?, Hook.failure?, modifyDatabase, hc]
  · simp [runHookUnder, runHook, Hook.call?, Hook.failure?, log_releaseAll]
  · simp [runHookUnder, runHook, Hook.call?, Hook.failure?, calls, record, Event.call?]

/-- **Hooks run in order, all of them**, each with the same bytes. -/
lemma calls_runHooksUnder (hs : List Hook) :
    calls (s.runHooksUnder f view hs).1.log = calls s.log ++ hs.filterMap (Hook.call? view) := by
  induction hs generalizing s with
  | nil => simp [runHooksUnder]
  | cons h hs ih =>
    rw [runHooksUnder, ih, (calls_runHookUnder f s view h).1, List.append_assoc,
      List.filterMap_cons]
    cases h.call? view <;> rfl

/-- **The first failure is the answer.** -/
lemma failure_runHooksUnder (hs : List Hook) :
    (s.runHooksUnder f view hs).2 = hs.findSome? (Hook.failure? f) := by
  induction hs generalizing s with
  | nil => rfl
  | cons h hs ih =>
    rw [runHooksUnder, ih, (calls_runHookUnder f s view h).2, List.findSome?_cons]
    cases h.failure? f <;> rfl

/-- Hooks change no handle. -/
lemma handles_runHooksUnder (hs : List Hook) :
    (s.runHooksUnder f view hs).1.handles = s.handles :=
  (alike_runHooksUnder f (.refl s) view view hs).handles_eq.trans
    (frame_runHooks s view hs).handles_eq

end Store

/-! ### Sequences of steps -/

namespace Capability

variable {σ : Type} {C : Capability σ}

/-- **The laws of the steps of a mapping** that is live, or that was unmapped. What running hooks
with some bytes and then ending the view makes of a state is `after`. -/
structure HookLaws (C : Capability σ) (after : MappingFaults → σ → Bytes → List Hook → σ)
    (Live Over : σ → Prop) : Prop where
  /-- A hook of a live mapping waits. -/
  register : ∀ s name failure probe, Live s → Live (C.register s (.record name failure probe)) ∧
    C.hooks (C.register s (.record name failure probe)) =
      (C.hooks s).push (.record name failure probe) ∧
    C.log (C.register s (.record name failure probe)) = C.log s
  /-- Other steps run no hooks. -/
  step : ∀ f s step, Live s → step.hook? = none → step ≠ .unmap → Live (C.step f s step) ∧
    C.hooks (C.step f s step) = C.hooks s ∧ C.log (C.step f s step) = C.log s
  /-- All hooks run when the mapping is unmapped. -/
  unmap : ∀ f s, Live s → Over (C.unmap f s).1 ∧
    (C.unmap f s).1 = after f s ((C.data s).getD .empty) (C.hooks s).pending ∧
    calls (C.log (C.unmap f s).1) =
      calls (C.log s) ++ (C.hooks s).pending.filterMap (Hook.call? ((C.data s).getD .empty)) ∧
    (C.unmap f s).2 = Store.unlessFailed
      ((C.refusal? f s).or ((C.hooks s).pending.findSome? (Hook.failure? f.toFaults)))
  /-- Or when it is dropped. -/
  drop : ∀ f s, Live s → calls (C.log (C.drop f s)) =
    calls (C.log s) ++ (C.hooks s).pending.filterMap (Hook.call? ((C.data s).getD .empty))
  /-- A mapping that was unmapped shows nothing, and no hook waits. -/
  ended : ∀ s, Over s → C.data s = none ∧ C.hooks s = .spent
  /-- A hook that is registered then runs at once, with no bytes. -/
  late : ∀ s name failure probe, Over s → Over (C.register s (.record name failure probe)) ∧
    calls (C.log (C.register s (.record name failure probe))) =
      calls (C.log s) ++ [(name, .empty)]
  /-- Other steps run no hooks. -/
  idle : ∀ f s step, Over s → step.hook? = none → step ≠ .unmap →
    Over (C.step f s step) ∧ C.log (C.step f s step) = C.log s
  /-- Unmapping it again changes nothing. -/
  again : ∀ f s, Over s → C.unmap f s = (s, .ok ())
  /-- Dropping it runs no hook. -/
  gone : ∀ f s, Over s → calls (C.log (C.drop f s)) = calls (C.log s)

/-- The mapping is not unmapped in these steps. -/
def KeepsMapped (steps : List (MappingFaults × MappingStep)) : Prop := ∀ x ∈ steps, x.2 ≠ .unmap

/-- **Every hook runs once.** From a state on, in which some hooks may wait already: -/
structure RunsHooksOnce (C : Capability σ) (after : MappingFaults → σ → Bytes → List Hook → σ)
    (s : σ) : Prop where
  /-- Until the mapping is unmapped, hooks wait in order of registration, and none runs. -/
  waits : ∀ steps, KeepsMapped steps →
    (C.hooks (C.run s steps)).pending = (C.hooks s).pending ++ registered steps ∧
      calls (C.log (C.run s steps)) = calls (C.log s)
  /-- When it is unmapped, all hooks run in that order, each with the bytes that were shown just
  before, and none waits any more. The answer is the failure to write back, or else that of the
  first hook that fails. Nothing is shown from then on, whatever failed. -/
  fires : ∀ steps f, KeepsMapped steps →
    (C.unmap f (C.run s steps)).1 = after f (C.run s steps)
        ((C.data (C.run s steps)).getD .empty) ((C.hooks s).pending ++ registered steps) ∧
      calls (C.log (C.unmap f (C.run s steps)).1) = calls (C.log s) ++
        ((C.hooks s).pending ++ registered steps).filterMap
          (Hook.call? ((C.data (C.run s steps)).getD .empty)) ∧
      (C.unmap f (C.run s steps)).2 = Store.unlessFailed ((C.refusal? f (C.run s steps)).or
        (((C.hooks s).pending ++ registered steps).findSome? (Hook.failure? f.toFaults))) ∧
      C.hooks (C.unmap f (C.run s steps)).1 = .spent ∧
      C.data (C.unmap f (C.run s steps)).1 = none
  /-- When it is dropped without having been unmapped, the same hooks run in the same way. -/
  fires_at_drop : ∀ steps f, KeepsMapped steps →
    calls (C.log (C.drop f (C.run s steps))) = calls (C.log s) ++
      ((C.hooks s).pending ++ registered steps).filterMap
        (Hook.call? ((C.data (C.run s steps)).getD .empty))
  /-- Whatever is done after it was unmapped, hooks that are registered run at once with no bytes,
  and no others run, at the end neither. -/
  later : ∀ steps f steps' f', KeepsMapped steps →
    calls (C.log (C.run (C.unmap f (C.run s steps)).1 steps')) =
        calls (C.log (C.unmap f (C.run s steps)).1) ++
          (registered steps').filterMap (Hook.call? .empty) ∧
      calls (C.log (C.drop f' (C.run (C.unmap f (C.run s steps)).1 steps'))) =
        calls (C.log (C.run (C.unmap f (C.run s steps)).1 steps'))
  /-- Unmapping it again succeeds and changes nothing. -/
  again : ∀ steps f steps' f', KeepsMapped steps →
    C.unmap f' (C.run (C.unmap f (C.run s steps)).1 steps') =
      (C.run (C.unmap f (C.run s steps)).1 steps', .ok ())

namespace HookLaws

variable {after : MappingFaults → σ → Bytes → List Hook → σ} {Live Over : σ → Prop} {s : σ}

/-- A step that keeps a mapping mapped. -/
lemma live_step (h : HookLaws C after Live Over) (f : MappingFaults) {step : MappingStep}
    (hs : Live s) (hne : step ≠ .unmap) : Live (C.step f s step) ∧
      (C.hooks (C.step f s step)).pending = (C.hooks s).pending ++ step.hook?.toList ∧
        C.log (C.step f s step) = C.log s := by
  cases hk : step.hook? with
  | none =>
    obtain ⟨hlive, hhooks, hlog⟩ := h.step f s step hs hk hne
    exact ⟨hlive, by rw [hhooks, Option.toList_none, List.append_nil], hlog⟩
  | some k =>
    cases step with
    | register name failure probe =>
      obtain ⟨hlive, hhooks, hlog⟩ := h.register s name failure probe hs
      obtain rfl := Option.some.inj hk
      exact ⟨hlive, congrArg UnmapHooks.pending hhooks, hlog⟩
    | _ => cases hk

/-- Hooks wait until the mapping is unmapped. -/
lemma live_run (h : HookLaws C after Live Over) (hs : Live s)
    {steps : List (MappingFaults × MappingStep)} (hsteps : KeepsMapped steps) :
    Live (C.run s steps) ∧
      (C.hooks (C.run s steps)).pending = (C.hooks s).pending ++ registered steps ∧
        C.log (C.run s steps) = C.log s := by
  induction steps generalizing s with
  | nil => exact ⟨hs, (List.append_nil _).symm, rfl⟩
  | cons x steps ih =>
    obtain ⟨hlive, hhooks, hlog⟩ := h.live_step x.1 hs (hsteps x List.mem_cons_self)
    obtain ⟨hlive', hhooks', hlog'⟩ := ih hlive fun y hy => hsteps y (List.mem_cons_of_mem x hy)
    refine ⟨hlive', ?_, hlog'.trans hlog⟩
    rw [run_cons, hhooks', hhooks, List.append_assoc, registered, registered, List.filterMap_cons]
    cases x.2.hook? <;> rfl

/-- A step after the mapping was unmapped. -/
lemma over_step (h : HookLaws C after Live Over) (f : MappingFaults) (step : MappingStep)
    (hs : Over s) :
    Over (C.step f s step) ∧ calls (C.log (C.step f s step)) =
      calls (C.log s) ++ (step.hook?.bind (Hook.call? .empty)).toList := by
  have idle : ∀ step : MappingStep, step.hook? = none → step ≠ .unmap →
      Over (C.step f s step) ∧ calls (C.log (C.step f s step)) = calls (C.log s) ++ [] := by
    intro step hk hne
    obtain ⟨hover, hlog⟩ := h.idle f s step hs hk hne
    exact ⟨hover, by rw [hlog, List.append_nil]⟩
  cases step with
  | register name failure probe => exact h.late s name failure probe hs
  | unmap =>
    have hsame : C.step f s .unmap = s := congrArg Prod.fst (h.again f s hs)
    rw [hsame]
    exact ⟨hs, (List.append_nil _).symm⟩
  | writeAt offset b => exact idle _ rfl nofun
  | fill byte => exact idle _ rfl nofun
  | resize n => exact idle _ rfl nofun

/-- Hooks run at once after the mapping was unmapped. -/
lemma over_run (h : HookLaws C after Live Over) (hs : Over s)
    (steps : List (MappingFaults × MappingStep)) : Over (C.run s steps) ∧
      calls (C.log (C.run s steps)) =
        calls (C.log s) ++ (registered steps).filterMap (Hook.call? .empty) := by
  induction steps generalizing s with
  | nil => exact ⟨hs, (List.append_nil _).symm⟩
  | cons x steps ih =>
    obtain ⟨hover, hcalls⟩ := h.over_step x.1 x.2 hs
    obtain ⟨hover', hcalls'⟩ := ih hover
    refine ⟨hover', ?_⟩
    rw [run_cons, hcalls', hcalls, List.append_assoc, registered, registered, List.filterMap_cons]
    cases x.2.hook? with
    | none => rfl
    | some k =>
      rw [Option.bind_some, List.filterMap_cons]
      cases k.call? .empty <;> rfl

/-- **A mapping is live or was unmapped**, whatever is done with it. -/
lemma live_or_over_run (h : HookLaws C after Live Over) (hs : Live s ∨ Over s)
    (steps : List (MappingFaults × MappingStep)) : Live (C.run s steps) ∨ Over (C.run s steps) := by
  induction steps generalizing s with
  | nil => exact hs
  | cons x steps ih =>
    rw [run_cons]
    apply ih
    obtain ⟨f, step⟩ := x
    rcases hs with hlive | hover
    · by_cases hunmap : step = .unmap
      · subst hunmap
        exact .inr (h.unmap f s hlive).1
      · exact .inl (h.live_step f hlive hunmap).1
    · exact .inr (h.over_step f step hover).1

/-- **Steps that obey the laws run every hook once.** -/
lemma runsHooksOnce (h : HookLaws C after Live Over) (hs : Live s) : RunsHooksOnce C after s where
  waits steps hsteps := by
    obtain ⟨-, hhooks, hlog⟩ := h.live_run hs hsteps
    exact ⟨hhooks, congrArg calls hlog⟩
  fires steps f hsteps := by
    obtain ⟨hlive, hhooks, hlog⟩ := h.live_run hs hsteps
    obtain ⟨hover, hafter, hcalls, hanswer⟩ := h.unmap f _ hlive
    obtain ⟨hdata, hspent⟩ := h.ended _ hover
    rw [hhooks] at hafter hanswer
    rw [hhooks, hlog] at hcalls
    exact ⟨hafter, hcalls, hanswer, hspent, hdata⟩
  fires_at_drop steps f hsteps := by
    obtain ⟨hlive, hhooks, hlog⟩ := h.live_run hs hsteps
    have hcalls := h.drop f _ hlive
    rwa [hhooks, hlog] at hcalls
  later steps f steps' f' hsteps := by
    have hover := (h.unmap f _ (h.live_run hs hsteps).1).1
    obtain ⟨hover', hcalls⟩ := h.over_run hover steps'
    exact ⟨hcalls, h.gone f' _ hover'⟩
  again steps f steps' f' hsteps := by
    have hover := (h.unmap f _ (h.live_run hs hsteps).1).1
    exact h.again f' _ (h.over_run hover steps').1

end HookLaws

end Capability

end ClaimStore
