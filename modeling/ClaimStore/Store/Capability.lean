import ClaimStore.Store.Passthrough

/-!
# What callers do with a mapping

Callers use every mapping through the same operations, wherever its bytes are kept. Reads and writes
of a range are made of the views, and are the same for all mappings.

## Main definitions

* `ClaimStore.Capability` — the operations on a mapping.
* `Capability.readAt`, `Capability.writeAt`, `Capability.fill` — those made of the views.
* `Store.capability` — the operations on a mapping of a store.
* `Passthrough.capability` — the operations on a mapping of the bytes of another component.
* `ClaimStore.MappingStep`, `Capability.run` — what is done with a mapping, and sequences of it.
-/

set_option autoImplicit false

namespace ClaimStore

/-- The operations on a mapping, in a state that holds the mapping and all that it can reach. -/
structure Capability (σ : Type) where
  /-- The bytes that are shown, if any are. -/
  data : σ → Option Bytes
  /-- The bytes that can be changed, if there are any. -/
  dataMut : σ → Option (Loan σ)
  /-- The size that is shown. -/
  size : σ → Nat
  /-- The bytes cannot be changed through this mapping. -/
  isReadOnly : σ → Bool
  /-- A change of length, which answers with the new view. -/
  resize : MappingFaults → σ → UInt64 → σ × Except Failure Bytes
  /-- One more hook. -/
  register : σ → Hook → σ
  /-- The end of the view. -/
  unmap : MappingFaults → σ → σ × Except Failure Unit
  /-- The end of the mapping. -/
  drop : MappingFaults → σ → σ
  /-- The hooks that wait. -/
  hooks : σ → UnmapHooks
  /-- The failure to write back what was changed, if it would be written back now and that fails. -/
  refusal? : MappingFaults → σ → Option Failure
  /-- What was recorded. -/
  log : σ → List Event

/-- Something that is done with a mapping. -/
inductive MappingStep where
  /-- Registers a hook. -/
  | register (name : String) (failure : Option String) (probe : Option ClaimId)
  /-- Writes a range. -/
  | writeAt (offset : Nat) (b : Bytes)
  /-- Sets all bytes that can be changed. -/
  | fill (byte : UInt8)
  /-- Changes the length. -/
  | resize (n : UInt64)
  /-- Ends the view. -/
  | unmap
  deriving DecidableEq, Repr

/-- The hook that a step registers. -/
def MappingStep.hook? : MappingStep → Option Hook
  | .register name failure probe => some (.record name failure probe)
  | _ => none

namespace Capability

variable {σ : Type} (C : Capability σ)

/-- The mapping shows bytes. -/
def isValid (s : σ) : Bool := (C.data s).isSome

/-- The bytes of a range of the view. -/
def readAt (s : σ) (offset len : Nat) : Except Failure Bytes :=
  match C.data s with
  | none => .error (.content (.invalidMapping "read"))
  | some v =>
    if offset + len ≤ v.size then .ok (v.slice offset len)
    else .error (outOfBounds offset len v.size)

/-- Writes bytes into a range of the view. -/
def writeAt (s : σ) (offset : Nat) (b : Bytes) : σ × Except Failure Unit :=
  if C.isReadOnly s then (s, .error (.content (.notSupported "write")))
  else
    match C.dataMut s with
    | none => (s, .error (.content (.invalidMapping "write")))
    | some l =>
      if offset + b.size ≤ l.bytes.size then (l.back (some (Bytes.patch offset b l.bytes)), .ok ())
      else (l.back none, .error (outOfBounds offset b.size l.bytes.size))

/-- Sets every byte that can be changed to one value. -/
def fill (s : σ) (byte : UInt8) : σ :=
  match C.dataMut s with
  | none => s
  | some l => l.back (some (.replicate l.bytes.size byte))

/-- Does something with a mapping. -/
def step (f : MappingFaults) (s : σ) : MappingStep → σ
  | .register name failure probe => C.register s (.record name failure probe)
  | .writeAt offset b => (C.writeAt s offset b).1
  | .fill byte => C.fill s byte
  | .resize n => (C.resize f s n).1
  | .unmap => (C.unmap f s).1

/-- Does one thing after the other with a mapping. -/
def run (s : σ) (steps : List (MappingFaults × MappingStep)) : σ :=
  steps.foldl (fun s x => C.step x.1 s x.2) s

/-- No steps change nothing. -/
@[simp] theorem run_nil (s : σ) : C.run s [] = s := rfl

/-- The first step of a run is made first. -/
@[simp] theorem run_cons (s : σ) (x : MappingFaults × MappingStep)
    (steps : List (MappingFaults × MappingStep)) :
    C.run s (x :: steps) = C.run (C.step x.1 s x.2) steps := rfl

end Capability

/-- The hooks that are registered in a sequence, in order. -/
def registered (steps : List (MappingFaults × MappingStep)) : List Hook :=
  steps.filterMap fun x => x.2.hook?

/-! ### Mappings of a store -/

namespace Store

variable {κ : Type} [DecidableEq κ]

/-- The operations on a mapping of a store. Where there is none, nothing is shown. -/
def capability (map : HandleId) : Capability (Store κ) where
  data s := s.data map
  dataMut s := (s.mapping? map).bind fun m =>
    (s.mutableView? m).map fun v => ⟨v, fun changed => changed.elim s (s.setView map m)⟩
  size s :=
    match s.mapping? map with
    | none => Limits.unmappedSize
    | some m => s.mappingSize m
  isReadOnly s :=
    match s.mapping? map with
    | none => false
    | some m => m.readOnly
  resize f s n := s.resizeWith f map n
  register s h := s.registerHook map h
  unmap f s := s.unmapUnder f.toFaults map
  drop f s := s.dropUnder f.toFaults map
  hooks s :=
    match s.mapping? map with
    | none => .spent
    | some m => m.hooks
  refusal? f s := (s.mapping? map).bind f.refusal?
  log s := s.log

end Store

/-! ### Bytes of another component -/

namespace Passthrough

variable {ρ κ : Type} [DecidableEq κ]

/-- The operations on a mapping of the bytes of another component, whose hooks act on a store. -/
def capability (ops : PassthroughOps ρ) : Capability (Store κ × Passthrough ρ) where
  data x := x.2.data ops
  dataMut x := (x.2.dataMut ops).map fun l => ⟨l.bytes, fun v => (x.1, l.back v)⟩
  size x := x.2.size ops
  isReadOnly x := x.2.readOnly
  resize _ x n := ((x.1, (x.2.resize ops n).1), (x.2.resize ops n).2)
  register x h := register x.1 x.2 h
  unmap f x := release ops f.toFaults x.1 x.2
  drop f x := (release ops f.toFaults x.1 x.2).1
  hooks x := x.2.hooks
  refusal? _ _ := none
  log x := x.1.log

end Passthrough

end ClaimStore
