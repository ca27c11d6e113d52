import ClaimStore.Proofs.Access

/-!
# Shelves

What a repository is to callers who make one access after the other: a shelf with one string of
bytes for each identifier. A mapping shows a copy of the bytes, and puts it back when it is
unmapped; a writer collects bytes, and puts them on the shelf when it is closed.

## Main definitions

* `ClaimStore.Shelf` — the bytes on a shelf, with the claims and references of the callers.
* `Shelf.Mapping`, `Shelf.Reader`, `Shelf.Writer` — a handle that is open, with the shelf.
* `Shelf.access`, `Shelf.accesses` — the answers of a shelf.

## Design

A shelf knows no files, entries or rows, no locks and no limits. Whatever answers as a shelf does
behaves the same as anything else that does.
-/

set_option autoImplicit false

namespace ClaimStore

/-- The bytes on a shelf, with the claims and references of the callers. -/
structure Shelf where
  /-- The bytes under each identifier. -/
  contents : String → Option Bytes
  /-- The claims. -/
  claims : List Claim
  /-- The handles: references, and the empty places of handles that were dropped. -/
  handles : List (Option Handle)
  /-- What was recorded. -/
  log : List Event

namespace Shelf

/-! ### Contents and claims -/

/-- Contents with other bytes, or none, under one identifier. -/
def update (C : String → Option Bytes) (x : String) (o : Option Bytes) : String → Option Bytes :=
  fun y => if y = x then o else C y

/-- The content that was set is there. -/
@[simp] lemma update_self (C : String → Option Bytes) (x : String) (o : Option Bytes) :
    update C x o x = o := if_pos rfl

/-- The bytes under an identifier, put in their place. -/
lemma update_eq_self {C : String → Option Bytes} {x : String} {o : Option Bytes} (h : C x = o) :
    update C x o = C := by
  funext y
  rw [update]
  split
  · next hy => rw [hy, h]
  · rfl

/-- Only the last bytes put under an identifier are left. -/
@[simp] lemma update_update (C : String → Option Bytes) (x : String) (o o' : Option Bytes) :
    update (update C x o) x o' = update C x o' := by
  funext y
  simp only [update]
  split <;> rfl

/-- Puts bytes on the shelf. -/
def put (σ : Shelf) (x : String) (b : Bytes) : Shelf :=
  { σ with contents := update σ.contents x (some b) }

/-- The identifier of a claim. -/
def identifier (σ : Shelf) (c : ClaimId) : String :=
  match σ.claims[c]? with
  | some x => x.identifier
  | none => ""

/-- The number of references of a claim. -/
def references (σ : Shelf) (c : ClaimId) : Nat :=
  match σ.claims[c]? with
  | some x => x.references
  | none => 0

/-- A claim at this moment. -/
def claimView (σ : Shelf) (c : ClaimId) : ClaimView where
  references := σ.references c
  stored :=
    match σ.claims[c]? with
    | none => .noRepository
    | some x => .ofLength (.ok ((σ.contents x.identifier).map Bytes.size))

/-! ### Hooks -/

/-- Runs a hook of a caller. -/
def runHook (σ : Shelf) (view : Bytes) : Hook → Shelf × Option Failure
  | .record name failure probe =>
    ({ σ with log := σ.log ++ [.hook name view (probe.map σ.claimView)] }, failure.map .hook)
  | .store .. | .hold .. => (σ, none)

/-- Runs hooks of callers, and answers with the first failure. -/
def runHooks (σ : Shelf) (view : Bytes) : List Hook → Shelf × Option Failure
  | [] => (σ, none)
  | h :: hs =>
    let r := σ.runHook view h
    let r' := r.1.runHooks view hs
    (r'.1, r.2.or r'.2)

/-! ### Mappings -/

/-- A mapping that is open. -/
structure Mapping where
  /-- The shelf, without the changes made through the mapping. -/
  shelf : Shelf
  /-- The identifier. -/
  identifier : String
  /-- The bytes cannot be changed. -/
  readOnly : Bool
  /-- The bytes shown, until the mapping is unmapped. -/
  shown : Option Bytes
  /-- The hooks that wait. -/
  hooks : List Hook

namespace Mapping

/-- The bytes of a range. -/
def readAt (m : Mapping) (offset len : Nat) : Reply :=
  match m.shown with
  | none => .failed (.kind .invalidMapping)
  | some v =>
    if offset + len ≤ v.size then .bytes (v.slice offset len) else .failed (.kind .outOfBounds)

/-- Changes a range. -/
def writeAt (m : Mapping) (offset : Nat) (b : Bytes) : Mapping × Reply :=
  if m.readOnly then (m, .failed (.kind .notSupported))
  else
    match m.shown with
    | none => (m, .failed (.kind .invalidMapping))
    | some v =>
      if offset + b.size ≤ v.size then ({ m with shown := some (Bytes.patch offset b v) }, .done)
      else (m, .failed (.kind .outOfBounds))

/-- Sets all bytes that can be changed. -/
def fill (m : Mapping) (byte : UInt8) : Mapping × Reply :=
  if m.readOnly then (m, .nothing)
  else
    match m.shown with
    | none => (m, .nothing)
    | some v => ({ m with shown := some (.replicate v.size byte) }, .count v.size)

/-- Changes the length. -/
def resize (m : Mapping) (n : Nat) : Mapping × Reply :=
  if m.readOnly then (m, .failed (.kind .notSupported))
  else
    match m.shown with
    | none => (m, .failed (.kind .invalidMapping))
    | some v => ({ m with shown := some (v.fit n) }, .bytes (v.fit n))

/-- The shelf with the bytes put on it, if they can have changed. -/
def settled (m : Mapping) (v : Bytes) : Shelf :=
  if m.readOnly then m.shelf else m.shelf.put m.identifier v

/-- Puts the bytes on the shelf, and then runs the hooks. -/
def unmap (m : Mapping) : Mapping × Reply :=
  match m.shown with
  | none => (m, .done)
  | some v =>
    let r := (m.settled v).runHooks v m.hooks
    ({ m with shelf := r.1, shown := none, hooks := [] },
      .of (fun _ => .done) (Store.unlessFailed r.2))

/-- Registers a hook, or runs it at once where the mapping was unmapped. -/
def register (m : Mapping) (h : Hook) : Mapping :=
  match m.shown with
  | none => { m with shelf := (m.shelf.runHook .empty h).1 }
  | some _ => { m with hooks := m.hooks ++ [h] }

/-- A use of a mapping, with the reply to it. -/
def use (m : Mapping) : MappingUse → Mapping × Reply
  | .data => (m, .ofOption .bytes m.shown)
  | .size => (m, .count ((m.shown.map Bytes.size).getD Limits.unmappedSize))
  | .readAt offset len => (m, m.readAt offset len)
  | .writeAt offset b => m.writeAt offset b
  | .fill byte => m.fill byte
  | .resize n => m.resize n.toNat
  | .unmap => m.unmap
  | .hook name failure probe => (m.register (.record name failure probe), .done)

end Mapping

/-! ### Readers -/

/-- A reader that is open. -/
structure Reader where
  /-- The shelf. -/
  shelf : Shelf
  /-- The bytes that are read. -/
  content : Bytes
  /-- The number of bytes before the next one to be read. -/
  position : Nat

namespace Reader

/-- Delivers at most `n` bytes. -/
def deliver (r : Reader) (n : Nat) : Reader × Reply :=
  ({ r with position := r.position + (r.content.slice r.position n).size },
    .bytes (r.content.slice r.position n))

/-- A use of a reader, with the reply to it. -/
def use (r : Reader) : ReaderUse → Reader × Reply
  | .length => (r, .count r.content.size)
  | .position => (r, .count r.position)
  | .readRaw n => r.deliver n
  | .readData _ maxLen => r.deliver maxLen
  | .readToEnd => r.deliver r.content.size
  | .seek offset =>
    if r.content.size < offset then (r, .failed (.kind .outOfBounds))
    else ({ r with position := offset }, .done)

end Reader

/-! ### Writers -/

/-- A writer that is open. -/
structure Writer where
  /-- The shelf, without what is being written. -/
  shelf : Shelf
  /-- The identifier. -/
  identifier : String
  /-- The bytes collected. -/
  content : Bytes
  /-- The number of bytes written. -/
  written : Nat
  /-- The writer was not closed. -/
  isOpen : Bool

namespace Writer

/-- Collects bytes. -/
def write (w : Writer) (b : Bytes) : Writer :=
  { w with content := w.content ++ b, written := w.written + b.size }

/-- Puts the bytes collected on the shelf. -/
def close (w : Writer) : Writer :=
  if w.isOpen then { w with shelf := w.shelf.put w.identifier w.content, isOpen := false } else w

/-- A use of a writer, with the reply to it. -/
def use (w : Writer) : WriterUse → Writer × Reply
  | .written => (w, .count w.written)
  | .writeRaw b =>
    if w.isOpen then (w.write b.bytes, .count b.bytes.size)
    else (w, .failed (.stream .writerClosed))
  | .writeData b =>
    if b.bytes.isEmpty then (w, .count 0)
    else if w.isOpen then (w.write b.bytes, .count b.bytes.size)
    else (w, .failed (.failure (.writeStream .writerClosed)))
  | .flush => (w, .done)
  | .close => (w.close, .done)

end Writer

/-! ### Accesses -/

/-- The empty place of a handle that was dropped. -/
def addPlace (σ : Shelf) : Shelf := { σ with handles := σ.handles ++ [none] }

/-- A mapping of bytes that is used and dropped. -/
def mapping (σ : Shelf) (x : String) (readOnly : Bool) (v : Bytes) (uses : List MappingUse) :
    Shelf × List Reply :=
  let r := inTurn Mapping.use
    { shelf := σ, identifier := x, readOnly, shown := some v, hooks := [] } uses
  (r.1.unmap.1.shelf.addPlace, .done :: r.2)

/-- Maps the bytes under an identifier. Read-only they have to be there; otherwise they are cut or
zero-padded. -/
def map (σ : Shelf) (x : String) (n : Nat) (readOnly : Bool) (uses : List MappingUse) :
    Shelf × List Reply :=
  if readOnly then
    match σ.contents x with
    | none => (σ, [.failed (.kind (if n = 0 then .notFound else .insufficientBackingStore))])
    | some v =>
      if v.size < n then (σ, [.failed (.kind .insufficientBackingStore)])
      else σ.mapping x true (v.take n) uses
  else σ.mapping x false (((σ.contents x).getD .empty).fit n) uses

/-- Reads the bytes under an identifier. -/
def read (σ : Shelf) (x : String) (uses : List ReaderUse) : Shelf × List Reply :=
  match σ.contents x with
  | none => (σ, [.failed (.kind .notFound)])
  | some v =>
    let r := inTurn Reader.use { shelf := σ, content := v, position := 0 } uses
    (r.1.shelf.addPlace, .done :: r.2)

/-- Writes bytes under an identifier, after those that are there or in their place. -/
def write (σ : Shelf) (x : String) (append : Bool) (uses : List WriterUse) : Shelf × List Reply :=
  let v := if append then (σ.contents x).getD .empty else .empty
  let r := inTurn Writer.use
    { shelf := σ, identifier := x, content := v, written := 0, isOpen := true } uses
  (r.1.close.shelf.addPlace, .done :: r.2)

/-- Removes the bytes under the identifier of a claim, unless the claim is referenced. -/
def remove (σ : Shelf) (c : ClaimId) : Shelf × List Reply :=
  if 0 < σ.references c then (σ, [.failed (.kind .claimInUse)])
  else
    ({ σ with contents := update σ.contents (σ.identifier c) none },
      [.flag (σ.contents (σ.identifier c)).isSome])

/-- Gives a reference back. -/
def release (σ : Shelf) (h : HandleId) : Shelf :=
  match σ.handles[h]? with
  | some (some (.reference c)) =>
    { σ with
      claims := σ.claims.modify c fun x => { x with references := x.references - 1 }
      handles := σ.handles.set h none }
  | _ => σ

/-- An access to a shelf, with the replies to it. Claims are made for the repository `r`. -/
def access (r : RepositoryId) (σ : Shelf) (a : Access) : Shelf × List Reply :=
  if a.claim?.all (· < σ.claims.length) then
    match a with
    | .addClaim x =>
      ({ σ with claims := σ.claims ++ [{ identifier := x, repository := some r, references := 0 }] },
        [])
    | .acquire c =>
      ({ σ with
          claims := σ.claims.modify c fun x => { x with references := x.references + 1 }
          handles := σ.handles ++ [some (.reference c)] },
        [.done])
    | .release h => (σ.release h, [])
    | .holds c => (σ, [.flag (σ.contents (σ.identifier c)).isSome])
    | .length c => (σ, [.ofOption .count ((σ.contents (σ.identifier c)).map Bytes.size)])
    | .remove c => σ.remove c
    | .map c n readOnly uses => σ.map (σ.identifier c) n.toNat readOnly uses
    | .read c uses => σ.read (σ.identifier c) uses
    | .write c append uses => σ.write (σ.identifier c) append uses
  else (σ, [])

/-- Accesses to a shelf, one after the other, with the replies to each. -/
def accesses (σ : Shelf) (r : RepositoryId) (as : List Access) : Shelf × List (List Reply) :=
  inTurn (access r) σ as

/-- The shelf with nothing on it. -/
def empty : Shelf := { contents := fun _ => none, claims := [], handles := [], log := [] }

end Shelf

end ClaimStore
