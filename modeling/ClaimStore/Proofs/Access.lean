import ClaimStore.Proofs.Operation

/-!
# Accesses

An access opens a mapping, a reader or a writer on a claim, uses it in any way, and drops it before
anything else happens. Between accesses callers look at what is stored, remove it, make claims, and
take and give back references. This module says what a repository answers to a sequence of these.

## Main definitions

* `ClaimStore.Reply` — what a caller is told.
* `ClaimStore.MappingUse`, `ClaimStore.ReaderUse`, `ClaimStore.WriterUse` — the uses of a handle.
* `ClaimStore.Access` — an access as a whole.
* `Store.access`, `Store.accesses` — the answers of a repository.

## Design

Failures that callers branch on are told apart by their kind alone: their texts name paths in one
repository and keys in another. All other failures are told apart by their texts.
-/

set_option autoImplicit false

namespace ClaimStore

/-! ### Replies -/

/-- What a failure tells. -/
inductive Complaint where
  /-- A failure that callers branch on, by its kind. -/
  | kind (k : ErrorKind)
  /-- Any other failure of an operation. -/
  | failure (f : Failure)
  /-- A failure of a raw stream operation. -/
  | stream (e : IoError)
  deriving DecidableEq, Repr

/-- What a failed operation tells. -/
def Failure.complaint : Failure → Complaint
  | .content e => .kind e.kind
  | f => .failure f

/-- What a caller is told. -/
inductive Reply where
  /-- The operation failed. -/
  | failed (c : Complaint)
  /-- The operation was done. -/
  | done
  /-- There is nothing to tell of. -/
  | nothing
  /-- These are the bytes. -/
  | bytes (b : Bytes)
  /-- This is the number. -/
  | count (n : Nat)
  /-- Yes or no. -/
  | flag (b : Bool)
  deriving DecidableEq, Repr

namespace Reply

/-- The reply to an operation that may fail. -/
def of {α : Type} (f : α → Reply) : Except Failure α → Reply
  | .ok a => f a
  | .error e => .failed e.complaint

/-- The reply to a raw stream operation that may fail. -/
def ofRaw {α : Type} (f : α → Reply) : Except IoError α → Reply
  | .ok a => f a
  | .error e => .failed (.stream e)

/-- The reply that tells of something if there is something. -/
def ofOption {α : Type} (f : α → Reply) : Option α → Reply
  | some a => f a
  | none => .nothing

/-- The reply that a limit on what is stored was hit. -/
def isFull : Reply → Bool
  | .failed (.kind .capacityExceeded) | .failed (.stream (.overCapacity ..))
  | .failed (.failure (.writeStream (.overCapacity ..))) => true
  | _ => false

end Reply

/-! ### Uses and accesses -/

/-- A use of a mapping. -/
inductive MappingUse where
  /-- The bytes shown. -/
  | data
  /-- The size shown. -/
  | size
  /-- Reads a range. -/
  | readAt (offset len : Nat)
  /-- Writes a range. -/
  | writeAt (offset : Nat) (b : Bytes)
  /-- Sets all bytes that can be changed. -/
  | fill (byte : UInt8)
  /-- Changes the length. -/
  | resize (n : UInt64)
  /-- Unmaps the mapping. -/
  | unmap
  /-- Registers a hook. -/
  | hook (name : String) (failure : Option String) (probe : Option ClaimId)

/-- A use of a reader. -/
inductive ReaderUse where
  /-- The length of the content. -/
  | length
  /-- The position. -/
  | position
  /-- Reads raw. -/
  | readRaw (n : Nat)
  /-- Fills a buffer. -/
  | readData (buffer : Bytes) (maxLen : Nat)
  /-- Reads to the end. -/
  | readToEnd
  /-- Moves the reader. -/
  | seek (offset : Nat)

/-- A use of a writer. -/
inductive WriterUse where
  /-- The number of bytes written. -/
  | written
  /-- Writes raw. -/
  | writeRaw (b : Payload)
  /-- Writes a payload. -/
  | writeData (b : Payload)
  /-- Flushes. A writer keeps nothing back that a flush could pass on, and a flush never fails. -/
  | flush
  /-- Closes the writer. -/
  | close

/-- An access, from its beginning to its end. -/
inductive Access where
  /-- Makes a claim in the repository. -/
  | addClaim (x : String)
  /-- Takes a reference of a claim. -/
  | acquire (c : ClaimId)
  /-- Gives a reference back. -/
  | release (h : HandleId)
  /-- Asks whether content is stored. -/
  | holds (c : ClaimId)
  /-- Asks how long the content is. -/
  | length (c : ClaimId)
  /-- Removes the content. -/
  | remove (c : ClaimId)
  /-- Maps the content, uses the mapping and drops it. -/
  | map (c : ClaimId) (n : UInt64) (readOnly : Bool) (uses : List MappingUse)
  /-- Opens a reader, uses it and drops it. -/
  | read (c : ClaimId) (uses : List ReaderUse)
  /-- Opens a writer, uses it and drops it. -/
  | write (c : ClaimId) (append : Bool) (uses : List WriterUse)

/-- The claim that an access names. -/
def Access.claim? : Access → Option ClaimId
  | .addClaim _ | .release _ => none
  | .acquire c | .holds c | .length c | .remove c | .map c _ _ _ | .read c _ | .write c _ _ =>
    some c

/-! ### One after the other -/

/-- Runs a step for each element of a list in turn, and collects the replies. -/
def inTurn {σ α ρ : Type} (f : σ → α → σ × ρ) (s : σ) : List α → σ × List ρ
  | [] => (s, [])
  | a :: as => ((inTurn f (f s a).1 as).1, (f s a).2 :: (inTurn f (f s a).1 as).2)

/-- A condition that holds before each step. -/
def Along {σ α ρ : Type} (f : σ → α → σ × ρ) (P : σ → α → Prop) (s : σ) : List α → Prop
  | [] => True
  | a :: as => P s a ∧ Along f P (f s a).1 as

instance Along.decidable {σ α ρ : Type} (f : σ → α → σ × ρ) (P : σ → α → Prop)
    [∀ s a, Decidable (P s a)] : ∀ (s : σ) (as : List α), Decidable (Along f P s as)
  | _, [] => isTrue trivial
  | s, a :: as =>
    have := Along.decidable f P (f s a).1 as
    inferInstanceAs (Decidable (_ ∧ _))

/-- **What each step preserves, a sequence preserves**: two systems that stay related and reply the
same, until the first one gives a reply that is left out. -/
lemma inTurn_related {σ τ α ρ : Type} {f : σ → α → σ × ρ} {g : τ → α → τ × ρ}
    {R : σ → τ → Prop} {P : τ → α → Prop} {Q : ρ → Prop}
    (hstep : ∀ s t a, R s t → P t a →
      Q (f s a).2 ∨ ((f s a).2 = (g t a).2 ∧ R (f s a).1 (g t a).1))
    {s : σ} {t : τ} {as : List α} (hR : R s t) (hP : Along g P t as) :
    (∃ r ∈ (inTurn f s as).2, Q r) ∨
      ((inTurn f s as).2 = (inTurn g t as).2 ∧ R (inTurn f s as).1 (inTurn g t as).1) := by
  induction as generalizing s t with
  | nil => exact .inr ⟨rfl, hR⟩
  | cons a as ih =>
    rcases hstep s t a hR hP.1 with hout | ⟨hreply, hnext⟩
    · exact .inl ⟨_, List.mem_cons_self, hout⟩
    · rcases ih hnext hP.2 with ⟨r, hr, hout⟩ | ⟨hreplies, hlast⟩
      · exact .inl ⟨r, List.mem_cons_of_mem _ hr, hout⟩
      · refine .inr ⟨?_, hlast⟩
        rw [inTurn, inTurn, hreply, hreplies]

namespace Store

variable {κ : Type} [DecidableEq κ] [ToString κ]

/-! ### The answers of a repository -/

/-- A use of a mapping, with the reply to it. -/
def useMapping (h : HandleId) (s : Store κ) : MappingUse → Store κ × Reply
  | .data => (s, .ofOption .bytes (s.data h))
  | .size => (s, .ofOption .count ((s.mapping? h).map s.mappingSize))
  | .readAt offset len => (s, .of .bytes (s.readAt h offset len))
  | .writeAt offset b => ((s.writeAt h offset b).1, .of (fun _ => .done) (s.writeAt h offset b).2)
  | .fill byte => ((s.fillView h byte).1, .ofOption .count (s.fillView h byte).2)
  | .resize n => ((s.resize h n).1, .of .bytes (s.resize h n).2)
  | .unmap => ((s.unmap h).1, .of (fun _ => .done) (s.unmap h).2)
  | .hook name failure probe => (s.registerHook h (.record name failure probe), .done)

/-- A use of a reader, with the reply to it. -/
def useReader (h : HandleId) (s : Store κ) : ReaderUse → Store κ × Reply
  | .length => (s, .ofOption .count ((s.reader? h).map s.readerLength))
  | .position => (s, .ofOption .count ((s.reader? h).map (·.position)))
  | .readRaw n => ((s.readRaw h n).1, .ofRaw .bytes (s.readRaw h n).2)
  | .readData buffer maxLen =>
    ((s.readData h buffer maxLen).1, .of .bytes (s.readData h buffer maxLen).2)
  | .readToEnd => ((s.readToEnd h).1, .ofRaw .bytes (s.readToEnd h).2)
  | .seek offset => ((s.seek h offset).1, .of (fun _ => .done) (s.seek h offset).2)

/-- A use of a writer, with the reply to it. -/
def useWriter (h : HandleId) (s : Store κ) : WriterUse → Store κ × Reply
  | .written => (s, .ofOption .count ((s.writer? h).map (·.written)))
  | .writeRaw b => ((s.writeRaw h b.bytes).1, .ofRaw .count (s.writeRaw h b.bytes).2)
  | .writeData b => ((s.writeData h b.bytes).1, .of .count (s.writeData h b.bytes).2)
  | .flush => (s, .done)
  | .close => (s.close h, .done)

/-- A handle that was opened, if it was, is used and dropped. -/
def whileOpen {α : Type} (use : HandleId → Store κ → α → Store κ × Reply) (uses : List α)
    (opened : Store κ × Except Failure HandleId) : Store κ × List Reply :=
  match opened with
  | (s, .error f) => (s, [.failed f.complaint])
  | (s, .ok h) => ((inTurn (use h) s uses).1.drop h, .done :: (inTurn (use h) s uses).2)

/-- An access to a repository, with the replies to it. An access through a claim that is not there
does nothing. -/
def access (r : RepositoryId) (s : Store κ) (a : Access) : Store κ × List Reply :=
  if a.claim?.all (· < s.claims.length) then
    match a with
    | .addClaim x => ((s.addClaim x (some r)).1, [])
    | .acquire c => ((s.acquire c).1, [.done])
    | .release h => (s.drop h, [])
    | .holds c => (s, [.of .flag (s.holdsContent r c)])
    | .length c => (s, [.of (.ofOption .count) (s.storedLength r c)])
    | .remove c => ((s.removeContent r c).1, [.of .flag (s.removeContent r c).2])
    | .map c n readOnly uses => whileOpen useMapping uses (s.mapContent r c n readOnly)
    | .read c uses => whileOpen useReader uses (s.readContent r c)
    | .write c append uses => whileOpen useWriter uses (s.writeContent r c append)
  else (s, [])

/-- Accesses to a repository, one after the other, with the replies to each. -/
def accesses (s : Store κ) (r : RepositoryId) (as : List Access) : Store κ × List (List Reply) :=
  inTurn (access r) s as

end Store

end ClaimStore
