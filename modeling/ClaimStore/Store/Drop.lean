import ClaimStore.Store.Streams
import ClaimStore.Store.Unmap

/-!
# Dropping handles

A handle that is dropped gives back all that it holds. A mapping is unmapped first and a writer
closed, each unless that was done before; a failure on the way is not reported.

## Main definitions

* `Store.discard` — the end of a handle that has nothing left to do.
* `Store.drop` — the end of a handle.
-/

set_option autoImplicit false

namespace ClaimStore.Store

variable {κ : Type}

/-- Gives back what a handle holds and takes the handle away. -/
def discard (s : Store κ) (h : HandleId) : Store κ :=
  match s.handle? h with
  | none => s
  | some x =>
    let s := s.releaseAll x.resources
    { s with handles := s.handles.set h none }

/-- Ends a handle. -/
def drop [DecidableEq κ] (s : Store κ) (h : HandleId) : Store κ :=
  match s.handle? h with
  | some (.mapping _) => (s.unmap h).1.discard h
  | some (.writer _) => (s.close h).discard h
  | _ => s.discard h

end ClaimStore.Store
