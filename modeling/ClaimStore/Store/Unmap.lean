import ClaimStore.Store.Content

/-!
# Unmapping

What happens when a mapping is unmapped: a writable file mapping is written back, the hooks run
with the bytes that the mapping showed last, in the order in which they were registered, and the
mapping shows nothing from then on. The bytes that hooks are given come first, so this module
also says what a mapping shows.

## Main definitions

* `Store.view?`, `Store.mappingSize` — what a mapping shows.
* `Store.flush` — writing back what was changed through a mapping.
* `Store.runHook`, `Store.runHooks` — running hooks.
* `Store.registerHook` — one more hook of a mapping.
* `Store.unmap` — the end of a mapping.

## Main results

* `Store.isSome_view?` — whether a mapping has a view depends on its backing alone.
* `Store.runHooks_append` — hooks in two parts run as one list.
-/

set_option autoImplicit false

namespace ClaimStore.Store

variable {κ : Type}

/-! ### What a mapping shows -/

/-- The bytes that a file mapping shows, if it shows any. -/
def fileView? (s : Store κ) (b : FileBacking) : Option Bytes :=
  match b.region with
  | .unmapped => none
  | .empty => some .empty
  | .mapped =>
    match b.opened with
    | some (.file id) => some (s.disk.view id b.length)
    | some (.directory _) | none => some .empty

/-- The bytes that an entry mapping shows, if it shows any. -/
def entryView? (s : Store κ) (b : EntryBacking) : Option Bytes :=
  match b.borrow, b.view with
  | some (t, e), .read => some (((s.table t).value e).take b.size)
  | some (t, e), .write => some ((s.table t).value e)
  | _, _ => none

/-- The bytes that a mapping shows, if it shows any. -/
def view? (s : Store κ) (m : Mapping) : Option Bytes :=
  match m.backing with
  | .file b => s.fileView? b
  | .entry b => s.entryView? b
  | .buffer b => b.buffer

/-- A mapping has a view exactly if its backing shows bytes. -/
@[simp] theorem isSome_view? (s : Store κ) (m : Mapping) :
    (s.view? m).isSome = m.backing.isValid := by
  rcases m with ⟨_ | _ | _, _, _⟩
  · next b => rcases b with ⟨_, _ | _ | _, _ | _ | _, _, _⟩ <;> rfl
  · next b => rcases b with ⟨_ | _, _, _ | _ | _⟩ <;> rfl
  · rfl

/-- The size that a mapping shows: `Limits.unmappedSize` where it shows no bytes. -/
def mappingSize (s : Store κ) (m : Mapping) : Nat :=
  match m.backing with
  | .file b => if b.region = .unmapped then Limits.unmappedSize else b.length
  | .entry b =>
    match b.borrow, b.view with
    | some _, .read => b.size
    | some (t, e), .write => ((s.table t).value e).size
    | _, _ => Limits.unmappedSize
  | .buffer b =>
    match b.buffer with
    | some buffer => buffer.size
    | none => Limits.unmappedSize

/-- The bytes that can be changed through a mapping, if there are any. -/
def mutableView? (s : Store κ) (m : Mapping) : Option Bytes :=
  if m.readOnly then none else s.view? m

/-- They are those that are shown, where the mapping is writable. -/
theorem mutableView?_eq_some {s : Store κ} {m : Mapping} {v : Bytes} :
    s.mutableView? m = some v ↔ m.readOnly = false ∧ s.view? m = some v := by
  unfold mutableView?
  cases m.readOnly <;> simp

/-! ### Writing back -/

/-- Writes back what was changed through a mapping, if it is a writable one of a file. -/
def writeBack (s : Store κ) (m : Mapping) : Store κ :=
  match m.readOnly, m.backing with
  | false, .file b => { s with disk := b.flush s.disk }
  | _, _ => s

/-- Writes back what was changed through a mapping, which goes on. -/
def flush (s : Store κ) (map : HandleId) : Store κ :=
  match s.mapping? map with
  | none => s
  | some m => s.writeBack m

/-! ### Hooks -/

variable [DecidableEq κ]

/-- Runs a hook with the bytes shown last. -/
def runHook (s : Store κ) (view : Bytes) : Hook → Store κ × Option Failure
  | .store d key => (s.modifyDatabase d (·.put key view), none)
  | .hold c l => (s.releaseAll (Hook.hold c l).resources, none)
  | .record name failure probe =>
    (s.record (.hook name view (probe.map s.claimView)), failure.map .hook)

/-- Runs hooks one after the other, all of them, and answers with the first failure. -/
def runHooks (s : Store κ) (view : Bytes) : List Hook → Store κ × Option Failure
  | [] => (s, none)
  | h :: hs =>
    let r := s.runHook view h
    let r' := r.1.runHooks view hs
    (r'.1, r.2.or r'.2)

/-- Hooks that run after others run on the state that those leave, and the first failure is the one
that is told. -/
theorem runHooks_append (s : Store κ) (view : Bytes) (hs ks : List Hook) :
    s.runHooks view (hs ++ ks) =
      (((s.runHooks view hs).1.runHooks view ks).1,
        (s.runHooks view hs).2.or ((s.runHooks view hs).1.runHooks view ks).2) := by
  induction hs generalizing s with
  | nil => simp [runHooks]
  | cons h hs ih => simp [runHooks, ih, Option.or_assoc]

/-- Registers a hook in a list: it waits, or runs at once with no bytes when the time to run has
come. The failure of a hook that is late is not reported. -/
def register (s : Store κ) (u : UnmapHooks) (h : Hook) : Store κ × UnmapHooks :=
  if u.fired then ((s.runHook .empty h).1, u) else (s, u.push h)

/-- Registers a hook of a mapping. -/
def registerHook (s : Store κ) (map : HandleId) (h : Hook) : Store κ :=
  match s.mapping? map with
  | none => s
  | some m =>
    let r := s.register m.hooks h
    r.1.setHandle map (.mapping { m with hooks := r.2 })

/-- Registers a hook in a list that belongs to no mapping. -/
def registerIn (s : Store κ) (list : Nat) (h : Hook) : Store κ :=
  match s.hookLists[list]? with
  | none => s
  | some u =>
    let r := s.register u h
    { r.1 with hookLists := r.1.hookLists.set list r.2 }

/-- What an operation without a value answers for a possible failure. -/
def unlessFailed : Option Failure → Except Failure Unit
  | none => .ok ()
  | some f => .error f

/-- Runs the hooks of a list that belongs to no mapping. -/
def fireList (s : Store κ) (list : Nat) (view : Bytes) : Store κ × Except Failure Unit :=
  match s.hookLists[list]? with
  | none => (s, .ok ())
  | some u =>
    let r := s.runHooks view u.pending
    ({ r.1 with hookLists := r.1.hookLists.set list .spent }, unlessFailed r.2)

/-! ### The end of a mapping -/

/-- Writes back what was changed, runs the hooks that wait and ends the view. A mapping that was
unmapped before has nothing to write back and no hooks that wait, and nothing changes. -/
def unmap (s : Store κ) (map : HandleId) : Store κ × Except Failure Unit :=
  match s.mapping? map with
  | none => (s, .ok ())
  | some m =>
    let s := s.writeBack m
    let r := s.runHooks ((s.view? m).getD .empty) m.hooks.pending
    let closed : Mapping := { m with backing := m.backing.closed, hooks := .spent }
    ((r.1.releaseAll m.backing.viewResources).setHandle map (.mapping closed), unlessFailed r.2)

end ClaimStore.Store
