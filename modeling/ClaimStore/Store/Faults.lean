import ClaimStore.Store.Access
import ClaimStore.Store.Drop
import ClaimStore.Store.View

/-!
# Faults

A file may refuse to be written back, and a database to be read or to be changed. These are the ways
in which something outside the store fails in the middle of an operation. What is to be given back
is given back all the same; what is not stored stays as it was.

## Main definitions

* `ClaimStore.Faults` — what fails while an operation runs.
* `Store.unmapUnder`, `Store.closeUnder`, `Store.dropUnder` — handles that end under faults.
* `Store.flushUnder`, `Store.resizeUnder` — mappings that go on under faults.
* `Store.mapInUnder`, `Store.readInUnder`, `Store.writeInUnder`, `Store.removeInUnder` — content of
  a backend under faults.
* `Store.mapContentUnder`, `Store.mapClaimUnder` and their likes — content of a repository under
  faults.

## Main results

* `Store.unmapUnder_quiet`, `Store.dropUnder_quiet`, `Store.resizeUnder_quiet` — without faults each
  operation is the plain one.
-/

set_option autoImplicit false

namespace ClaimStore

/-- What fails outside the store while an operation runs. -/
structure Faults where
  /-- The failure to write a file back. -/
  writeBack : Option IoError
  /-- The failure to load a row. -/
  load : Option Failure
  /-- The failure to change rows. -/
  commit : Option Failure
  deriving DecidableEq, Repr

/-- Nothing fails. -/
def Faults.quiet : Faults := ⟨none, none, none⟩

/-- The path of the file that is written back when a mapping is: that of a writable one that shows
part of a file. -/
def Mapping.flushPath? (m : Mapping) : Option Path :=
  match m.readOnly, m.backing with
  | false, .file b =>
    match b.region, b.opened with
    | .mapped, some (.file _) => some b.path
    | _, _ => none
  | _, _ => none

/-- The failure to write a mapping back, if it is to be written back and that fails. -/
def Faults.refusal? (f : Faults) (m : Mapping) : Option Failure :=
  match f.writeBack, m.flushPath? with
  | some e, some p => some (ioFailure "flush" p e)
  | _, _ => none

namespace Store

variable {κ : Type}

/-! ### Writing back -/

/-- Writes a mapping back, unless that fails. -/
def writeBackUnder (f : Faults) (s : Store κ) (m : Mapping) : Store κ :=
  match f.refusal? m with
  | some _ => s
  | none => s.writeBack m

/-- Writes back what was changed through a mapping, which goes on, unless that fails. -/
def flushUnder (f : Faults) (s : Store κ) (map : HandleId) : Store κ :=
  match s.mapping? map with
  | none => s
  | some m => s.writeBackUnder f m

/-- Changes the length of a mapping, unless it cannot be written back first. -/
def resizeUnder (f : Faults) (s : Store κ) (map : HandleId) (n : UInt64) :
    Store κ × Except Failure Bytes :=
  match (s.mapping? map).bind f.refusal? with
  | some e => (s, .error e)
  | none => s.resize map n

/-- Stores what a writer collected, or writes its file back, unless that fails. -/
def commitUnder (f : Faults) (s : Store κ) (sink : Sink) : Store κ :=
  match sink, f.writeBack, f.commit with
  | .file .., some _, _ | .row .., _, some _ => s
  | .file .., none, _ | .row .., _, none | .entry .., _, _ => s.commit sink

/-! ### The end of handles -/

section Ends

variable [DecidableEq κ]

/-- Runs a hook with the bytes shown last. A row that cannot be stored is a failure of its hook. -/
def runHookUnder (f : Faults) (s : Store κ) (view : Bytes) (h : Hook) : Store κ × Option Failure :=
  match h, f.commit with
  | .store .., some e => (s, some e)
  | .store .., none | .hold .., _ | .record .., _ => s.runHook view h

/-- Runs hooks one after the other, all of them, and answers with the first failure. -/
def runHooksUnder (f : Faults) (s : Store κ) (view : Bytes) : List Hook → Store κ × Option Failure
  | [] => (s, none)
  | h :: hs =>
    let r := s.runHookUnder f view h
    let r' := r.1.runHooksUnder f view hs
    (r'.1, r.2.or r'.2)

/-- Writes back what was changed, runs the hooks that wait and ends the view, whatever fails on the
way. The failure to write back is reported before that of a hook. -/
def unmapUnder (f : Faults) (s : Store κ) (map : HandleId) : Store κ × Except Failure Unit :=
  match s.mapping? map with
  | none => (s, .ok ())
  | some m =>
    let s := s.writeBackUnder f m
    let r := s.runHooksUnder f ((s.view? m).getD .empty) m.hooks.pending
    let closed : Mapping := { m with backing := m.backing.closed, hooks := .spent }
    ((r.1.releaseAll m.backing.viewResources).setHandle map (.mapping closed),
      unlessFailed ((f.refusal? m).or r.2))

/-- Ends the writing: what was collected is stored if it can be, then the lease is given back. -/
def closeUnder (f : Faults) (s : Store κ) (writer : HandleId) : Store κ :=
  match s.writer? writer with
  | none => s
  | some w =>
    if w.isOpen then
      ((s.commitUnder f w.sink).releaseAll w.openResources).setHandle writer
        (.writer { w with lease := none })
    else s

/-- Ends a handle, whatever fails on the way. -/
def dropUnder (f : Faults) (s : Store κ) (h : HandleId) : Store κ :=
  match s.handle? h with
  | some (.mapping _) => (s.unmapUnder f h).1.discard h
  | some (.writer _) => (s.closeUnder f h).discard h
  | _ => s.discard h

end Ends

/-! ### Content -/

section Content

variable [DecidableEq κ]

/-- An open that has to load a row and cannot. A write lease that is needed comes first, and is
given back. -/
def failLoad (s : Store κ) (lease : Option (RegistryId × String)) (e : Failure) :
    Store κ × Except Failure HandleId :=
  match lease with
  | none => (s, .error e)
  | some (w, x) =>
    match s.takeWriteLease w x with
    | .error e' => (s, .error e')
    | .ok leased => (leased.release (.lease (.write w x)), .error e)

/-- A mapping of the content of a claim in a backend. -/
def mapInUnder [ToString κ] (f : Faults) (s : Store κ) (b : Backend) (c : ClaimId) (n : UInt64)
    (readOnly : Bool) : Store κ × Except Failure HandleId :=
  match b, f.load with
  | .database _ _ w, some e => s.failLoad (if readOnly then none else some (w, s.identifier c)) e
  | b, _ => s.mapIn b c n readOnly

/-- A reader of the content of a claim in a backend. -/
def readInUnder (f : Faults) (s : Store κ) (b : Backend) (c : ClaimId) :
    Store κ × Except Failure HandleId :=
  match b, f.load with
  | .database .., some e => s.failLoad none e
  | b, _ => s.readIn b c

/-- A writer to the content of a claim in a backend. One that replaces a row does not load it. -/
def writeInUnder (f : Faults) (s : Store κ) (b : Backend) (c : ClaimId) (append : Bool) :
    Store κ × Except Failure HandleId :=
  match b, append, f.load with
  | .database _ _ w, true, some e => s.failLoad (some (w, s.identifier c)) e
  | b, _, _ => s.writeIn b c append

/-- Removes the content of a claim from a backend, unless the claim is referenced. -/
def removeInUnder (f : Faults) (s : Store κ) (b : Backend) (c : ClaimId) :
    Store κ × Except Failure Bool :=
  match b, f.commit with
  | .database .., some e =>
    match s.checkUnreferenced c with
    | .error f => (s, .error f)
    | .ok () => (s, .error e)
  | b, _ => s.removeIn b c

/-- A mapping of the content of a claim in a repository. -/
def mapContentUnder [ToString κ] (f : Faults) (s : Store κ) (r : RepositoryId) (c : ClaimId)
    (n : UInt64) (readOnly : Bool) : Store κ × Except Failure HandleId :=
  s.inRepository r c fun s b => s.mapInUnder f b c n readOnly

/-- A reader of the content of a claim in a repository. -/
def readContentUnder (f : Faults) (s : Store κ) (r : RepositoryId) (c : ClaimId) :
    Store κ × Except Failure HandleId :=
  s.inRepository r c fun s b => s.readInUnder f b c

/-- A writer to the content of a claim in a repository. -/
def writeContentUnder (f : Faults) (s : Store κ) (r : RepositoryId) (c : ClaimId) (append : Bool) :
    Store κ × Except Failure HandleId :=
  s.inRepository r c fun s b => s.writeInUnder f b c append

/-- Removes the content of a claim from a repository, unless the claim is referenced. -/
def removeContentUnder (f : Faults) (s : Store κ) (r : RepositoryId) (c : ClaimId) :
    Store κ × Except Failure Bool :=
  s.inRepository r c fun s b => s.removeInUnder f b c

/-- A mapping of the content of a claim in its own repository. -/
def mapClaimUnder [ToString κ] (f : Faults) (s : Store κ) (c : ClaimId) (n : UInt64)
    (readOnly : Bool) : Store κ × Except Failure HandleId :=
  s.routed c fun s b => s.mapInUnder f b c n readOnly

/-- A reader of the content of a claim in its own repository. -/
def readClaimUnder (f : Faults) (s : Store κ) (c : ClaimId) : Store κ × Except Failure HandleId :=
  s.routed c fun s b => s.readInUnder f b c

/-- A writer to the content of a claim in its own repository. -/
def writeClaimUnder (f : Faults) (s : Store κ) (c : ClaimId) (append : Bool) :
    Store κ × Except Failure HandleId :=
  s.routed c fun s b => s.writeInUnder f b c append

end Content

/-! ### Without faults -/

section Plain

variable (s : Store κ)

/-- Without faults no change of length is refused for them. -/
@[simp] theorem refusal?_quiet (m : Mapping) : Faults.quiet.refusal? m = none := rfl

/-- Without faults a mapping is written back in the plain way. -/
@[simp] theorem writeBackUnder_quiet (m : Mapping) :
    s.writeBackUnder .quiet m = s.writeBack m := rfl

/-- Without faults a flush is the plain one. -/
@[simp] theorem flushUnder_quiet (map : HandleId) : s.flushUnder .quiet map = s.flush map := rfl

/-- Without faults a change of length is the plain one. -/
@[simp] theorem resizeUnder_quiet (map : HandleId) (n : UInt64) :
    s.resizeUnder .quiet map n = s.resize map n := by
  unfold resizeUnder
  cases s.mapping? map <;> rfl

/-- Without faults a commit is the plain one. -/
@[simp] theorem commitUnder_quiet (sink : Sink) : s.commitUnder .quiet sink = s.commit sink := by
  cases sink <;> rfl

variable [DecidableEq κ]

/-- Without faults a hook runs in the plain way. -/
@[simp] theorem runHookUnder_quiet (view : Bytes) (h : Hook) :
    s.runHookUnder .quiet view h = s.runHook view h := by
  cases h <;> rfl

/-- So do hooks. -/
@[simp] theorem runHooksUnder_quiet (view : Bytes) (hs : List Hook) :
    s.runHooksUnder .quiet view hs = s.runHooks view hs := by
  induction hs generalizing s with
  | nil => rfl
  | cons h hs ih => simp only [runHooksUnder, runHooks, runHookUnder_quiet, ih]

/-- Without faults an unmap is the plain one. -/
@[simp] theorem unmapUnder_quiet (map : HandleId) : s.unmapUnder .quiet map = s.unmap map := by
  unfold unmapUnder unmap
  cases s.mapping? map with
  | none => rfl
  | some m => simp

omit [DecidableEq κ] in
/-- Without faults a close is the plain one. -/
@[simp] theorem closeUnder_quiet (writer : HandleId) :
    s.closeUnder .quiet writer = s.close writer := by
  unfold closeUnder close
  cases s.writer? writer with
  | none => rfl
  | some w => simp

/-- Without faults a drop is the plain one. -/
@[simp] theorem dropUnder_quiet (h : HandleId) : s.dropUnder .quiet h = s.drop h := by
  unfold dropUnder drop
  cases s.handle? h with
  | none => rfl
  | some x => cases x <;> simp

variable (b : Backend) (c : ClaimId)

/-- Without faults a backend opens the plain mapping. -/
@[simp] theorem mapInUnder_quiet [ToString κ] (n : UInt64) (readOnly : Bool) :
    s.mapInUnder .quiet b c n readOnly = s.mapIn b c n readOnly := by
  cases b <;> rfl

/-- It opens the plain reader. -/
@[simp] theorem readInUnder_quiet : s.readInUnder .quiet b c = s.readIn b c := by
  cases b <;> rfl

/-- It opens the plain writer. -/
@[simp] theorem writeInUnder_quiet (append : Bool) :
    s.writeInUnder .quiet b c append = s.writeIn b c append := by
  cases b <;> cases append <;> rfl

/-- It removes in the plain way. -/
@[simp] theorem removeInUnder_quiet : s.removeInUnder .quiet b c = s.removeIn b c := by
  cases b <;> rfl

/-- Without faults a repository opens the plain mapping. -/
@[simp] theorem mapContentUnder_quiet [ToString κ] (r : RepositoryId) (n : UInt64)
    (readOnly : Bool) :
    s.mapContentUnder .quiet r c n readOnly = s.mapContent r c n readOnly := by
  simp only [mapContentUnder, mapContent, mapInUnder_quiet]

/-- It opens the plain reader. -/
@[simp] theorem readContentUnder_quiet (r : RepositoryId) :
    s.readContentUnder .quiet r c = s.readContent r c := by
  simp only [readContentUnder, readContent, readInUnder_quiet]

/-- It opens the plain writer. -/
@[simp] theorem writeContentUnder_quiet (r : RepositoryId) (append : Bool) :
    s.writeContentUnder .quiet r c append = s.writeContent r c append := by
  simp only [writeContentUnder, writeContent, writeInUnder_quiet]

/-- It removes in the plain way. -/
@[simp] theorem removeContentUnder_quiet (r : RepositoryId) :
    s.removeContentUnder .quiet r c = s.removeContent r c := by
  simp only [removeContentUnder, removeContent, removeInUnder_quiet]

/-- Without faults a claim opens the plain mapping. -/
@[simp] theorem mapClaimUnder_quiet [ToString κ] (n : UInt64) (readOnly : Bool) :
    s.mapClaimUnder .quiet c n readOnly = s.mapClaim c n readOnly := by
  simp only [mapClaimUnder, mapClaim, mapInUnder_quiet]

/-- It opens the plain reader. -/
@[simp] theorem readClaimUnder_quiet : s.readClaimUnder .quiet c = s.readClaim c := by
  simp only [readClaimUnder, readClaim, readInUnder_quiet]

/-- It opens the plain writer. -/
@[simp] theorem writeClaimUnder_quiet (append : Bool) :
    s.writeClaimUnder .quiet c append = s.writeClaim c append := by
  simp only [writeClaimUnder, writeClaim, writeInUnder_quiet]

end Plain

end Store

end ClaimStore
