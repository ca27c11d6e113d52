import ClaimStore.Proofs.FaultyRuns
import ClaimStore.Proofs.HandleEnds
import ClaimStore.Proofs.HandleOpens

/-!
# The ledger of a run

What callers hold can be told from their operations and the answers to these alone: an open that
answers with a handle makes an entry, an unmap and a close mark it, and a drop takes it out. The
handles of the store have just the form that this ledger gives them, whatever fails on the way.

## Main definitions

* `ClaimStore.Holder` — an entry of a ledger.
* `ClaimStore.Ledger`, `Ledger.after`, `Ledger.runUnder` — the ledger, after one operation and after
  a run.
* `ClaimStore.Described` — a handle has the form that an entry gives it.
* `Store.Tells` — a ledger tells what the handles of a state are.

## Main results

* `Store.described_goes` — a handle that goes on keeps its form.
* `Store.Tells.carries`, `Store.Tells.added`, `Store.Tells.ended` — the three ways in which a step
  keeps a ledger true.

## Design

The ledger is kept from what callers see, so that what is proved about it does not speak of how the
store finds out.
-/

set_option autoImplicit false

namespace ClaimStore

/-! ### Entries -/

/-- What a handle was opened as. -/
inductive Grip where
  /-- A reference of a claim. -/
  | reference
  /-- A mapping through a repository. -/
  | mapping (r : RepositoryId) (readOnly : Bool)
  /-- A reader through a repository. -/
  | reader (r : RepositoryId)
  /-- A writer through a repository. -/
  | writer (r : RepositoryId)
  deriving DecidableEq, Repr

/-- A handle as its caller knows it. -/
structure Holder where
  /-- The claim through which it was opened. -/
  claim : ClaimId
  /-- The identifier of that claim. -/
  identifier : String
  /-- What it was opened as. -/
  grip : Grip
  /-- It was unmapped or closed since. -/
  ended : Bool
  deriving DecidableEq, Repr

namespace Holder

/-- The holder refers to its claim: a mapping until it is unmapped, anything else until it is
dropped. -/
def refers (y : Holder) : Bool :=
  match y.grip with
  | .mapping .. => !y.ended
  | .reference | .reader _ | .writer _ => true

/-- The holder is a live writer of an identifier of a repository: a writable mapping that was not
unmapped, or a writer that was not closed. -/
def writes (y : Holder) (r : RepositoryId) (x : String) : Bool :=
  !y.ended && y.identifier == x && (y.grip == .mapping r false || y.grip == .writer r)

/-- What it means to write to an identifier of a repository: a live writable mapping, or a live
writer. -/
lemma writes_iff {y : Holder} {r : RepositoryId} {x : String} : y.writes r x = true ↔
    y.ended = false ∧ y.identifier = x ∧ (y.grip = .mapping r false ∨ y.grip = .writer r) := by
  simp [writes, and_assoc]

/-- The holder after it was unmapped, if it is a mapping. -/
def unmapped (y : Holder) : Holder :=
  match y.grip with
  | .mapping .. => { y with ended := true }
  | .reference | .reader _ | .writer _ => y

/-- The holder after it was closed, if it is a writer. -/
def closed (y : Holder) : Holder :=
  match y.grip with
  | .writer _ => { y with ended := true }
  | .reference | .mapping .. | .reader _ => y

end Holder

/-! ### Ledgers -/

/-- What is known of each handle that was opened for a claim and not dropped. -/
def Ledger : Type := HandleId → Option Holder

namespace Ledger

/-- Nothing was opened. -/
def empty : Ledger := fun _ => none

/-- The handle refers to the claim. -/
def refersTo (l : Ledger) (c : ClaimId) (h : HandleId) : Bool :=
  (l h).any fun y => y.claim == c && y.refers

/-- The handle is a live writer of an identifier of a repository. -/
def writesTo (l : Ledger) (r : RepositoryId) (x : String) (h : HandleId) : Bool :=
  (l h).any fun y => y.writes r x

/-- A handle writes where its entry in the ledger says so. -/
lemma writesTo_iff {l : Ledger} {r : RepositoryId} {x : String} {h : HandleId} :
    l.writesTo r x h = true ↔ ∃ y, l h = some y ∧ y.writes r x = true := by
  simp [writesTo, Option.any_eq_true]

/-- The ledger with another entry for one handle. -/
def set (l : Ledger) (h : HandleId) (o : Option Holder) : Ledger :=
  fun i => if i = h then o else l i

/-- The ledger after an open, if there was one. -/
def add (l : Ledger) : Option (HandleId × Holder) → Ledger
  | some (h, y) => l.set h (some y)
  | none => l

/-- The ledger after an end, if there was one. -/
def mark {κ : Type} (l : Ledger) : Operation κ → Ledger
  | .unmap h => l.set h ((l h).map Holder.unmapped)
  | .close h => l.set h ((l h).map Holder.closed)
  | .drop h => l.set h none
  | _ => l

end Ledger

/-- The entry of an open that answers with a handle. -/
def Holder.made (y : Holder) : Except Failure HandleId → Option (HandleId × Holder)
  | .ok h => some (h, y)
  | .error _ => none

section Runs

variable {κ : Type} [DecidableEq κ] [ToString κ]

/-- What an operation under faults opens for a claim. -/
def Store.openedUnder (f : Faults) (s : Store κ) : Operation κ → Option (HandleId × Holder)
  | .acquire c => some ((s.acquire c).2, ⟨c, s.identifier c, .reference, false⟩)
  | .mapContent r c n readOnly =>
    Holder.made ⟨c, s.identifier c, .mapping r readOnly, false⟩
      (s.mapContentUnder f r c n readOnly).2
  | .readContent r c =>
    Holder.made ⟨c, s.identifier c, .reader r, false⟩ (s.readContentUnder f r c).2
  | .writeContent r c append =>
    Holder.made ⟨c, s.identifier c, .writer r, false⟩ (s.writeContentUnder f r c append).2
  | .mapClaim c n readOnly =>
    (s.repositoryOf c).bind fun p =>
      Holder.made ⟨c, s.identifier c, .mapping p.1 readOnly, false⟩
        (s.mapClaimUnder f c n readOnly).2
  | .readClaim c =>
    (s.repositoryOf c).bind fun p =>
      Holder.made ⟨c, s.identifier c, .reader p.1, false⟩ (s.readClaimUnder f c).2
  | .writeClaim c append =>
    (s.repositoryOf c).bind fun p =>
      Holder.made ⟨c, s.identifier c, .writer p.1, false⟩ (s.writeClaimUnder f c append).2
  | _ => none

/-- The ledger after an operation under faults. -/
def Ledger.after (l : Ledger) (f : Faults) (s : Store κ) (op : Operation κ) : Ledger :=
  if s.applies op then (l.mark op).add (s.openedUnder f op) else l

/-- The ledger after operations, each under faults of its own. -/
def Ledger.runUnder (l : Ledger) (s : Store κ) : List (Faults × Operation κ) → Ledger
  | [] => l
  | p :: ops => (l.after p.1 s p.2).runUnder (s.stepUnder p.1 p.2) ops

/-- The ledger of a run from an empty store. -/
def ledgerOf (name : String) (ops : List (Faults × Operation κ)) : Ledger :=
  Ledger.empty.runUnder (Store.onDirectory name) ops

end Runs

/-! ### The forms of handles -/

namespace Backend

/-- Where a mapping that was not unmapped shows the content of its backend. -/
inductive Backs (readOnly : Bool) : Backend → Backing → Prop
  /-- In a file. -/
  | file (directory : Path) (w r : RegistryId) (k : FileBacking) :
      Backs readOnly (.files directory w r) (.file k)
  /-- In an entry that is locked for it. -/
  | entry (t : TableId) (w : RegistryId) (e : EntryId) (n : Nat) :
      Backs readOnly (.volatile t w) (.entry ⟨some (t, e), n, if readOnly then .read else .write⟩)
  /-- In a buffer. -/
  | row (d : DatabaseId) (p : Path) (w : RegistryId) (b : Bytes) :
      Backs readOnly (.database d p w) (.buffer ⟨some b, none⟩)

/-- Where a reader finds the content of its backend. -/
inductive Sources : Backend → Source → Prop
  /-- In a file. -/
  | file (directory : Path) (w r : RegistryId) (i : Item) (length : Nat) :
      Sources (.files directory w r) (.file i length)
  /-- In an entry. -/
  | entry (t : TableId) (w : RegistryId) (e : EntryId) : Sources (.volatile t w) (.entry t e)
  /-- In a copy of a row. -/
  | row (d : DatabaseId) (p : Path) (w : RegistryId) (b : Bytes) :
      Sources (.database d p w) (.bytes b)

/-- Where a writer puts the content of an identifier of its backend. -/
inductive Sinks (x : String) : Backend → Sink → Prop
  /-- Into a file. -/
  | file (directory : Path) (w r : RegistryId) (id : FileId) (offset : Option Nat) :
      Sinks x (.files directory w r) (.file id offset)
  /-- Into an entry. -/
  | entry (t : TableId) (w : RegistryId) (e : EntryId) : Sinks x (.volatile t w) (.entry t e)
  /-- Into a buffer for the row of the identifier. -/
  | row (d : DatabaseId) (p : Path) (w : RegistryId) (b : Bytes) :
      Sinks x (.database d p w) (.row d x b)

variable {κ : Type} {s s' : Store κ} {b : Backend} {x : String} {readOnly : Bool}

/-- A new mapping has a backing of its backend. -/
lemma Shows.backs {n : Nat} {k : Backing} (h : b.Shows s s' x n readOnly k) :
    b.Backs readOnly k := by
  cases h with
  | file => exact .file _ _ _ _
  | entry => exact .entry _ _ _ _
  | row => exact .row _ _ _ _

/-- A new reader has a source of its backend. -/
lemma Reads.sources {k : Source} (h : b.Reads s s' x k) : b.Sources k := by
  cases h with
  | file => exact .file _ _ _ _ _
  | entry => exact .entry _ _ _
  | row => exact .row _ _ _ _

/-- A new writer has a sink of its backend. -/
lemma Writes.sinks {append : Bool} {k : Sink} (h : b.Writes s s' x append k) : b.Sinks x k := by
  cases h with
  | file => exact .file _ _ _ _ _
  | entry => exact .entry _ _ _
  | row => exact .row _ _ _ _

/-- A backing that goes on is where it was. -/
lemma Backs.goes {k k' : Backing} (h : b.Backs readOnly k) (hg : k.Goes k') :
    b.Backs readOnly k' := by
  cases h with
  | file =>
    cases hg with
    | file => exact .file _ _ _ _
  | entry t w e n =>
    cases hg with
    | @entry _ k' hb hv _ =>
      obtain ⟨borrow, size, view⟩ := k'
      cases hb
      cases hv
      exact .entry t w e size
  | row d p w v =>
    cases hg with
    | @buffer _ k' hb hc =>
      obtain ⟨_ | v', capacity⟩ := k'
      · cases hb
      · cases hc
        exact .row d p w v'

/-- A sink that goes on is where it was. -/
lemma Sinks.goes {k k' : Sink} (h : b.Sinks x k) (hg : k.Goes k') : b.Sinks x k' := by
  cases h with
  | file =>
    cases hg with
    | file => exact .file _ _ _ _ _
  | entry =>
    cases hg with
    | entry => exact .entry _ _ _
  | row =>
    cases hg with
    | row => exact .row _ _ _ _

end Backend

/-- The backend of a repository, open or closed. -/
def Store.backendOf? {κ : Type} (s : Store κ) (r : RepositoryId) : Option Backend :=
  (s.repositories[r]?).map (·.backend)

/-- **A handle has the form that an entry gives it.** One without an entry was not opened for a
claim and holds none. -/
inductive Described {κ : Type} (s : Store κ) : Option Holder → Handle → Prop
  /-- A reference. -/
  | reference (c : ClaimId) (x : String) :
      Described s (some ⟨c, x, .reference, false⟩) (.reference c)
  /-- A mapping that was not unmapped. -/
  | mapped {c : ClaimId} {x : String} {r : RepositoryId} {b : Backend} {m : Mapping}
      (backend_eq : s.backendOf? r = some b) (fired_eq : m.hooks.fired = false) (hs : List Hook)
      (pending_eq : m.hooks.pending = b.hooks c x m.readOnly ++ hs)
      (callers : ∀ k ∈ hs, k.isCallers = true) (backs : b.Backs m.readOnly m.backing) :
      Described s (some ⟨c, x, .mapping r m.readOnly, false⟩) (.mapping m)
  /-- A mapping that was unmapped. -/
  | unmapped {c : ClaimId} {x : String} {r : RepositoryId} {readOnly : Bool} {m : Mapping}
      (hooks_eq : m.hooks = .spent) :
      Described s (some ⟨c, x, .mapping r readOnly, true⟩) (.mapping m)
  /-- A reader. -/
  | reader {c : ClaimId} {x : String} {r : RepositoryId} {b : Backend} {k : Reader}
      (backend_eq : s.backendOf? r = some b) (claim_eq : k.claim = c)
      (sources : b.Sources k.source) :
      Described s (some ⟨c, x, .reader r, false⟩) (.reader k)
  /-- A writer that was not closed. -/
  | writing {c : ClaimId} {x : String} {r : RepositoryId} {b : Backend} {w : Writer}
      (backend_eq : s.backendOf? r = some b) (claim_eq : w.claim = c)
      (lease_eq : w.lease = some (.write b.writers x)) (sinks : b.Sinks x w.sink) :
      Described s (some ⟨c, x, .writer r, false⟩) (.writer w)
  /-- A writer that was closed. -/
  | closed {c : ClaimId} {x : String} {r : RepositoryId} {w : Writer} (claim_eq : w.claim = c)
      (lease_eq : w.lease = none) : Described s (some ⟨c, x, .writer r, true⟩) (.writer w)
  /-- A borrow. -/
  | borrow (t : TableId) (e : EntryId) : Described s none (.borrow t e)
  /-- A guard. -/
  | guard (t : TableId) (e : EntryId) (writing : Bool) : Described s none (.guard t e writing)
  /-- A mapping that belongs to no repository. -/
  | plain {m : Mapping} (callers : ∀ k ∈ m.hooks.pending, k.isCallers = true) :
      Described s none (.mapping m)

namespace Store

variable {κ : Type} {s s' : Store κ} {l : Ledger} {h : HandleId}

/-- **A ledger tells what the handles of a state are.** -/
structure Tells (l : Ledger) (s : Store κ) : Prop where
  /-- Every live handle has the form that its entry gives it. -/
  described : ∀ h x, s.handle? h = some x → Described s (l h) x
  /-- Only live handles have entries. -/
  live : ∀ h, s.handle? h = none → l h = none
  /-- No two repositories share a registry of writers. -/
  writers_inj : ∀ r r' b b', s.backendOf? r = some b → s.backendOf? r' = some b' →
    b.writers = b'.writers → r = r'

/-! ### Changes of the state -/

/-- An open repository has the backend that it was opened with. -/
lemma backendOf?_of_backend? {r : RepositoryId} {b : Backend} (hb : s.backend? r = some b) :
    s.backendOf? r = some b := by
  unfold backend? at hb
  unfold backendOf?
  cases hx : s.repositories[r]? with
  | none => simp [hx] at hb
  | some x =>
    simp only [hx] at hb
    split at hb
    · exact hb
    · cases hb

/-- The backends depend on the repositories only. -/
lemma backendOf?_congr (hr : s'.repositories = s.repositories) (r : RepositoryId) :
    s'.backendOf? r = s.backendOf? r := by
  rw [backendOf?, backendOf?, hr]

/-- The form of a handle depends on the backends alone. -/
lemma described_mono {o : Option Holder} {x : Handle} (hd : Described s o x)
    (hb : ∀ r b, s.backendOf? r = some b → s'.backendOf? r = some b) : Described s' o x := by
  cases hd with
  | reference c x => exact .reference c x
  | mapped hr hf hs hp hc hk => exact .mapped (hb _ _ hr) hf hs hp hc hk
  | unmapped hh => exact .unmapped hh
  | reader hr hc hk => exact .reader (hb _ _ hr) hc hk
  | writing hr hc hl hk => exact .writing (hb _ _ hr) hc hl hk
  | closed hc hl => exact .closed hc hl
  | borrow t e => exact .borrow t e
  | guard t e writing => exact .guard t e writing
  | plain hc => exact .plain hc

/-- **A handle that goes on keeps its form.** -/
lemma described_goes {o : Option Holder} {x x' : Handle} (hd : Described s o x)
    (hg : x.Goes x') : Described s o x' := by
  cases hg with
  | @mapping m m' hm =>
    obtain ⟨hro, hfired, ⟨ks, hpend, hks⟩, hspent, hback⟩ := hm
    cases hd with
    | mapped hr hf hs hp hc hk =>
      rw [← hro] at hp hk ⊢
      refine .mapped hr (hfired.trans hf) (hs ++ ks) ?_ ?_ (hk.goes hback)
      · rw [hpend, hp, List.append_assoc]
      · exact fun k hk => (List.mem_append.1 hk).elim (hc k) (hks k)
    | unmapped hh =>
      refine .unmapped ?_
      rw [hspent (by rw [hh]; rfl), hh]
    | plain hc =>
      refine .plain fun k hk => ?_
      rw [hpend] at hk
      exact (List.mem_append.1 hk).elim (hc k) (hks k)
  | reader k position =>
    cases hd with
    | reader hr hc hk => exact .reader hr hc hk
  | writer hsink written =>
    cases hd with
    | writing hr hc hl hk => exact .writing hr hc hl (hk.goes hsink)
    | closed hc hl => exact .closed hc hl
  | refl => exact hd

/-- A mapping that is unmapped, or was before. -/
lemma described_unmap {o : Option Holder} {m : Mapping} (hd : Described s o (.mapping m)) :
    Described s (o.map Holder.unmapped) (.mapping m.ended) := by
  cases hd with
  | mapped => exact .unmapped rfl
  | unmapped => exact .unmapped rfl
  | plain => exact .plain fun k hk => nomatch hk

/-- A writer that is closed, or was before. -/
lemma described_close {o : Option Holder} {w : Writer} (hd : Described s o (.writer w)) :
    Described s (o.map Holder.closed) (.writer w.ended) := by
  cases hd with
  | writing _ hc => exact .closed hc rfl
  | closed hc => exact .closed hc rfl

/-- A writer without a lease was closed. -/
lemma described_closed {o : Option Holder} {w : Writer} (hd : Described s o (.writer w))
    (hl : w.lease = none) : o.map Holder.closed = o := by
  cases hd with
  | writing _ _ hlease => cases hl.symm.trans hlease
  | closed => rfl

/-- What is no mapping is not marked as unmapped. -/
lemma described_not_mapping {o : Option Holder} {x : Handle} (hd : Described s o x)
    (hm : ∀ m, x ≠ .mapping m) : o.map Holder.unmapped = o := by
  cases hd with
  | mapped => exact absurd rfl (hm _)
  | unmapped => exact absurd rfl (hm _)
  | _ => rfl

/-- What is no writer is not marked as closed. -/
lemma described_not_writer {o : Option Holder} {x : Handle} (hd : Described s o x)
    (hw : ∀ w, x ≠ .writer w) : o.map Holder.closed = o := by
  cases hd with
  | writing => exact absurd rfl (hw _)
  | closed => exact absurd rfl (hw _)
  | _ => rfl

namespace Tells

/-- The ledger stays true when repositories are added that share no registry of writers. -/
lemma of_repositories (ht : Tells l s) (hh : s'.handles = s.handles)
    (hb : ∀ r b, s.backendOf? r = some b → s'.backendOf? r = some b)
    (hinj : ∀ r r' b b', s'.backendOf? r = some b → s'.backendOf? r' = some b' →
      b.writers = b'.writers → r = r') : Tells l s' where
  described i x hx := described_mono (ht.described i x (handle?_congr hh i ▸ hx)) hb
  live i hi := ht.live i (handle?_congr hh i ▸ hi)
  writers_inj := hinj

/-- The ledger stays true while repositories stay. -/
lemma of_frame (ht : Tells l s) (hh : s'.handles = s.handles)
    (hr : s'.repositories = s.repositories) : Tells l s' :=
  ht.of_repositories hh (fun r _ hb => (backendOf?_congr hr r).trans hb) fun r r' b b' hb hb' =>
    ht.writers_inj r r' b b' (backendOf?_congr hr r ▸ hb) (backendOf?_congr hr r' ▸ hb')

/-- **Handles that go on keep the ledger true.** -/
lemma carries (ht : Tells l s) {hs : List HandleId} (h : Carries hs s s') : Tells l s' := by
  have hb : ∀ r b, s.backendOf? r = some b → s'.backendOf? r = some b := fun r _ hb =>
    (backendOf?_congr h.repositories_eq r).trans hb
  refine ⟨fun i x' hx' => ?_, fun i hi => ?_, fun r r' b b' hr hr' => ?_⟩
  · obtain ⟨x, hx, hg⟩ := h.back hx'
    exact described_mono (described_goes (ht.described i x hx) hg) hb
  · cases hx : s.handle? i with
    | none => exact ht.live i hx
    | some x =>
      obtain ⟨x', hx', -⟩ := h.goes i x hx
      cases hi.symm.trans hx'
  · exact ht.writers_inj r r' b b' (backendOf?_congr h.repositories_eq r ▸ hr)
      (backendOf?_congr h.repositories_eq r' ▸ hr')

/-- **A new handle makes an entry.** -/
lemma added (ht : Tells l s) {x : Handle} (h : Added x s s') {o : Option Holder}
    (hd : Described s' o x) : Tells (l.set s.handles.length o) s' := by
  have hb : ∀ r b, s.backendOf? r = some b → s'.backendOf? r = some b := fun r _ hb =>
    (backendOf?_congr h.repositories_eq r).trans hb
  refine ⟨fun i y hy => ?_, fun i hi => ?_, fun r r' b b' hr hr' => ?_⟩
  · rw [h.handle?] at hy
    unfold Ledger.set
    split at hy
    · next hi =>
      obtain rfl := Option.some.inj hy
      rwa [if_pos hi]
    · next hi =>
      rw [if_neg hi]
      exact described_mono (ht.described i y hy) hb
  · rw [h.handle?] at hi
    unfold Ledger.set
    split at hi
    · cases hi
    · next hne =>
      rw [if_neg hne]
      exact ht.live i hi
  · exact ht.writers_inj r r' b b' (backendOf?_congr h.repositories_eq r ▸ hr)
      (backendOf?_congr h.repositories_eq r' ▸ hr')

/-- A number that is not in use has no entry. -/
lemma length_eq_none (ht : Tells l s) : l s.handles.length = none := by
  refine ht.live _ ?_
  rw [handle?, List.getElem?_eq_none (Nat.le_refl _)]

/-- An entry that is as it was. -/
lemma set_self (l : Ledger) {h : HandleId} {o : Option Holder} (ho : l h = o) : l.set h o = l := by
  funext i
  unfold Ledger.set
  split
  · next hi => rw [hi, ho]
  · rfl

/-- **An end marks an entry, or takes it out.** -/
lemma ended (ht : Tells l s) {x : Handle} (hx : s.handle? h = some x) {x' : Option Handle}
    (hend : Ended h x' s s') {o : Option Holder}
    (hd : ∀ y, x' = some y → Described s o y) (hnone : x' = none → o = none) :
    Tells (l.set h o) s' := by
  have hb : ∀ r b, s.backendOf? r = some b → s'.backendOf? r = some b := fun r _ hb =>
    (backendOf?_congr hend.repositories_eq r).trans hb
  refine ⟨fun i y hy => ?_, fun i hi => ?_, fun r r' b b' hr hr' => ?_⟩
  · rw [hend.handle? hx] at hy
    unfold Ledger.set
    split at hy
    · next hi =>
      rw [if_pos hi]
      exact described_mono (hd y hy) hb
    · next hi =>
      rw [if_neg hi]
      exact described_mono (ht.described i y hy) hb
  · rw [hend.handle? hx] at hi
    unfold Ledger.set
    split at hi
    · next hi' =>
      rw [if_pos hi']
      exact hnone hi
    · next hne =>
      rw [if_neg hne]
      exact ht.live i hi
  · exact ht.writers_inj r r' b b' (backendOf?_congr hend.repositories_eq r ▸ hr)
      (backendOf?_congr hend.repositories_eq r' ▸ hr')

end Tells

end Store

end ClaimStore
