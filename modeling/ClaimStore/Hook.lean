import ClaimStore.Resource

/-!
# Unmap hooks

A mapping keeps a list of hooks that run once, in order of registration, when it is unmapped, each
with the last bytes that the mapping showed. A hook that is registered after that runs at once
with no bytes.

## Main definitions

* `ClaimStore.Hook` — what is done at unmap.
* `ClaimStore.UnmapHooks` — the hooks that wait, and whether the time to run has come.
-/

set_option autoImplicit false

namespace ClaimStore

/-- Something that is done when a mapping is unmapped. -/
inductive Hook where
  /-- Stores the bytes as the row of a database under this key. -/
  | store (database : DatabaseId) (key : String)
  /-- Gives a lease, if there is one, and then a reference of a claim back. -/
  | hold (claim : ClaimId) (lease : Option Lease)
  /-- Records the bytes, and the state of a claim if one is to be looked at, under a name; then
  fails with a text if there is one. -/
  | record (name : String) (failure : Option String) (probe : Option ClaimId)
  deriving DecidableEq, Repr

/-- The resources that are held until the hook has run. -/
def Hook.resources : Hook → List Resource
  | .store database _ => [.database database]
  | .hold claim none => [.reference claim]
  | .hold claim (some l) => [.lease l, .reference claim]
  | .record .. => []

/-- Hooks that wait to be run. -/
structure UnmapHooks where
  /-- The hooks, in order of registration. -/
  pending : List Hook
  /-- The hooks were run; later ones run at once. -/
  fired : Bool
  deriving DecidableEq, Repr

namespace UnmapHooks

/-- No hook waits, and none has run. -/
def empty : UnmapHooks := ⟨[], false⟩

/-- One more hook waits. -/
def push (u : UnmapHooks) (h : Hook) : UnmapHooks := { u with pending := u.pending ++ [h] }

/-- All hooks were run. -/
def spent : UnmapHooks := ⟨[], true⟩

/-- The resources that are held until all hooks have run. -/
def resources (u : UnmapHooks) : List Resource := u.pending.flatMap Hook.resources

end UnmapHooks

end ClaimStore
