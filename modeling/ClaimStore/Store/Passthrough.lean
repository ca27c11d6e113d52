import ClaimStore.Store.Remapping

/-!
# Bytes of another component as a mapping

A passthrough mapping presents bytes that some other component keeps in a state of its own. The
mapping knows nothing of the state; it is driven by a table of operations on it: a view of the
bytes, a view that can be changed, the size, and a change of length. When the mapping is released,
the hooks run with the view, and then the state is given up.

## Main definitions

* `ClaimStore.Loan` — bytes that are lent out to be changed.
* `ClaimStore.PassthroughOps` — the operations on the state.
* `ClaimStore.PassthroughOps.buffer` — those on a buffer, which may be limited.
* `ClaimStore.Passthrough` — the mapping, with its operations.

## Design

The operations on the state are any functions. Nothing says that they agree with each other: that
the size is the length of the view is a condition of the theorems that need it. A view that can be
changed is a loan: the operation may change the state when the loan begins, and the state when it
ends depends on the bytes that are given back.
-/

set_option autoImplicit false

namespace ClaimStore

/-! ### The state of another component -/

/-- Bytes that are lent out to be changed. -/
structure Loan (σ : Type) where
  /-- The bytes. -/
  bytes : Bytes
  /-- The state when the loan ends, with other bytes in their place if they were changed. -/
  back : Option Bytes → σ

/-- The operations on the state of a component that keeps bytes. -/
structure PassthroughOps (ρ : Type) where
  /-- The bytes. -/
  data : ρ → Bytes
  /-- The bytes, to be changed. -/
  dataMut : ρ → Loan ρ
  /-- The number of bytes. -/
  size : ρ → Nat
  /-- A change of length. It may change the state also where it fails. -/
  resize : ρ → UInt64 → ρ × Except Failure Unit

/-- The operations on a buffer that can hold so many bytes, if it is limited. A change of length
cuts it or pads it with zeros. -/
def PassthroughOps.buffer (capacity : Option Nat) : PassthroughOps Bytes where
  data x := x
  dataMut x := ⟨x, fun v => v.getD x⟩
  size x := x.size
  resize x n :=
    match BufferBacking.resized { buffer := some x, capacity } x n.toNat with
    | .error e => (x, .error e)
    | .ok v => (v, .ok ())

/-! ### The mapping -/

/-- A mapping of the bytes of another component. -/
structure Passthrough (ρ : Type) where
  /-- The state of the component, until the mapping is released. -/
  state : Option ρ
  /-- The bytes cannot be changed through this mapping. -/
  readOnly : Bool
  /-- The hooks that run at unmap. -/
  hooks : UnmapHooks

namespace Passthrough

variable {ρ : Type} (ops : PassthroughOps ρ)

/-- A new mapping. -/
def new (x : ρ) (readOnly : Bool) : Passthrough ρ := ⟨some x, readOnly, .empty⟩

/-- The bytes that the mapping shows, if it shows any. -/
def data (p : Passthrough ρ) : Option Bytes := p.state.map ops.data

/-- The bytes that can be changed through the mapping, if there are any. -/
def dataMut (p : Passthrough ρ) : Option (Loan (Passthrough ρ)) :=
  if p.readOnly then none
  else p.state.map fun x =>
    ⟨(ops.dataMut x).bytes, fun v => { p with state := some ((ops.dataMut x).back v) }⟩

/-- The size that the mapping shows: `Limits.unmappedSize` where it shows no bytes. -/
def size (p : Passthrough ρ) : Nat :=
  match p.state with
  | none => Limits.unmappedSize
  | some x => ops.size x

/-- Changes the length and answers with the new view. -/
def resize (p : Passthrough ρ) (n : UInt64) : Passthrough ρ × Except Failure Bytes :=
  if p.readOnly then (p, .error (.content (.notSupported "resize")))
  else
    match p.state with
    | none => (p, .error (.content (.invalidMapping "resize")))
    | some x =>
      match ops.resize x n with
      | (x', .error e) => ({ p with state := some x' }, .error e)
      | (x', .ok ()) =>
        ({ p with state := some ((ops.dataMut x').back none) }, .ok (ops.dataMut x').bytes)

variable {κ : Type} [DecidableEq κ]

/-- Registers a hook, which acts on the store. -/
def register (s : Store κ) (p : Passthrough ρ) (h : Hook) : Store κ × Passthrough ρ :=
  let r := s.register p.hooks h
  (r.1, { p with hooks := r.2 })

/-- Runs the hooks that wait with the bytes shown last, whatever fails on the way, and gives up the
state. -/
def release (f : Faults) (s : Store κ) (p : Passthrough ρ) :
    (Store κ × Passthrough ρ) × Except Failure Unit :=
  let r := s.runHooksUnder f ((p.data ops).getD .empty) p.hooks.pending
  ((r.1, { p with state := none, hooks := .spent }), Store.unlessFailed r.2)

end Passthrough

end ClaimStore
