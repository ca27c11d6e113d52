import ClaimStore.Proofs.HandleFrames

/-!
# What ends leave behind

A mapping that is unmapped and a writer that is closed stay in their places, without the hooks and
the lease that they had; a handle that is dropped leaves its place empty. All other handles stay as
they are.

## Main definitions

* `Mapping.ended`, `Writer.ended` — what is left.
* `Handle.Leaves` — what the end of a handle leaves in its place.
* `Store.Ended` — a step that ends one handle.

## Main results

* `Store.ended_unmap`, `Store.ended_close`, `Store.ended_drop` — the three ways to end a handle.
-/

set_option autoImplicit false

namespace ClaimStore

/-- A mapping that was unmapped. -/
def Mapping.ended (m : Mapping) : Mapping :=
  { m with backing := m.backing.closed, hooks := .spent }

/-- A writer that was closed. -/
def Writer.ended (w : Writer) : Writer := { w with lease := none }

/-- What the end of a handle leaves in its place. -/
inductive Handle.Leaves : Handle → Option Handle → Prop
  /-- A mapping is unmapped. -/
  | mapping (m : Mapping) : Leaves (.mapping m) (some (.mapping m.ended))
  /-- A writer is closed. -/
  | writer (w : Writer) : Leaves (.writer w) (some (.writer w.ended))
  /-- Anything may be dropped. -/
  | nothing (x : Handle) : Leaves x none

namespace Store

variable {κ : Type} {s s' s'' : Store κ} {h : HandleId}

/-- A step that ends one handle and leaves `x'` in its place. -/
structure Ended (h : HandleId) (x' : Option Handle) (s s' : Store κ) : Prop where
  /-- The other handles stay as they are. -/
  handles_eq : s'.handles = s.handles.set h x'
  /-- The repositories stay. -/
  repositories_eq : s'.repositories = s.repositories
  /-- The identifiers stay. -/
  identifiers_eq : s'.claims.map (·.identifier) = s.claims.map (·.identifier)

/-- What is there after a handle ended. -/
lemma Ended.handle? {x : Handle} {x' : Option Handle} (hend : Ended h x' s s')
    (hx : s.handle? h = some x) (i : HandleId) :
    s'.handle? i = if i = h then x' else s.handle? i := by
  have hlt := (List.getElem?_eq_some_iff.1 (handle?_eq_some.1 hx)).1
  unfold Store.handle?
  rw [hend.handles_eq]
  by_cases hi : i = h
  · subst hi
    rw [List.getElem?_set_self hlt, if_pos rfl]
  · rw [List.getElem?_set_ne (Ne.symm hi), if_neg hi]

/-- The end of a handle, after a step that changes none. -/
lemma Frame.ended (frame : Frame s s') (h : HandleId) (x' : Option Handle) :
    Ended h x' s { s' with handles := s'.handles.set h x' } :=
  ⟨congrArg (List.set · h x') frame.handles_eq, frame.repositories_eq, frame.identifiers_eq⟩

/-- A commit changes no handle. -/
lemma frame_commit (s : Store κ) (sink : Sink) : Frame s (s.commit sink) := by
  cases sink <;> exact ⟨rfl, rfl, rfl⟩

/-- **A writer that is closed.** -/
lemma ended_close {w : Writer} (hw : s.writer? h = some w) (hopen : w.isOpen = true) :
    Ended h (some (.writer w.ended)) s (s.close h) := by
  have heq : s.close h = ((s.commit w.sink).releaseAll w.openResources).setHandle h
      (.writer w.ended) := by
    rw [close, hw]
    exact if_pos hopen
  rw [heq]
  exact ((frame_commit s w.sink).trans (still_releaseAll _ _).toFrame).ended h _

/-- A writer that was closed before stays as it is. -/
lemma close_closed {w : Writer} (hw : s.writer? h = some w) (hopen : w.isOpen = false) :
    s.close h = s := by
  rw [close, hw]
  exact if_neg (by simp [hopen])

/-- What is no writer is not closed. -/
lemma close_none (hw : s.writer? h = none) : s.close h = s := by
  rw [close, hw]

/-- A handle that is forgotten is gone, and the others stay. -/
lemma ended_discard {x : Handle} (hx : s.handle? h = some x) : Ended h none s (s.discard h) := by
  have heq : s.discard h = { s.releaseAll x.resources with
      handles := (s.releaseAll x.resources).handles.set h none } := by
    rw [discard, hx]
  rw [heq]
  exact (still_releaseAll s x.resources).toFrame.ended h none

variable [DecidableEq κ]

/-- A hook changes no handle. -/
lemma frame_runHook (s : Store κ) (view : Bytes) (k : Hook) : Frame s (s.runHook view k).1 := by
  cases k with
  | store d key => exact ⟨rfl, rfl, rfl⟩
  | hold c l => exact (still_releaseAll s _).toFrame
  | record name failure probe => exact ⟨rfl, rfl, rfl⟩

/-- Nor do any hooks. -/
lemma frame_runHooks (s : Store κ) (view : Bytes) (hs : List Hook) :
    Frame s (s.runHooks view hs).1 := by
  induction hs generalizing s with
  | nil => exact .refl s
  | cons k hs ih => exact (frame_runHook s view k).trans (ih _)

/-- **A mapping that is unmapped.** -/
lemma ended_unmap {m : Mapping} (hm : s.mapping? h = some m) :
    Ended h (some (.mapping m.ended)) s (s.unmap h).1 := by
  rw [unmap, hm]
  exact ((still_writeBack s m).toFrame.trans ((frame_runHooks _ _ _).trans
    (still_releaseAll _ _).toFrame)).ended h _

omit [DecidableEq κ] in
/-- A handle that ends twice is gone. -/
lemma Ended.trans_none {x' : Option Handle} (hend : Ended h x' s s') (hend' : Ended h none s' s'') :
    Ended h none s s'' where
  handles_eq := by rw [hend'.handles_eq, hend.handles_eq, List.set_set]
  repositories_eq := hend'.repositories_eq.trans hend.repositories_eq
  identifiers_eq := hend'.identifiers_eq.trans hend.identifiers_eq

omit [DecidableEq κ] in
/-- What is left of a handle is in its place. -/
lemma Ended.handle?_self {x y : Handle} (hend : Ended h (some y) s s')
    (hx : s.handle? h = some x) : s'.handle? h = some y := by
  rw [hend.handle? hx, if_pos rfl]

/-- **A handle that is dropped.** -/
lemma ended_drop {x : Handle} (hx : s.handle? h = some x) : Ended h none s (s.drop h) := by
  unfold drop
  rw [hx]
  cases x with
  | mapping m =>
    have hend := ended_unmap (mapping?_eq_some.2 hx)
    exact hend.trans_none (ended_discard (hend.handle?_self hx))
  | writer w =>
    have hw := writer?_eq_some.2 hx
    show Ended h none s ((s.close h).discard h)
    cases hopen : w.isOpen with
    | true =>
      have hend := ended_close hw hopen
      exact hend.trans_none (ended_discard (hend.handle?_self hx))
    | false =>
      rw [close_closed hw hopen]
      exact ended_discard hx
  | _ => exact ended_discard hx

/-- Nothing is dropped twice. -/
lemma drop_none (hx : s.handle? h = none) : s.drop h = s := by
  rw [drop, hx]
  show s.discard h = s
  rw [discard, hx]

/-- What is no mapping is not unmapped. -/
lemma unmap_none (hm : s.mapping? h = none) : (s.unmap h).1 = s := by
  rw [unmap, hm]

end Store

end ClaimStore
