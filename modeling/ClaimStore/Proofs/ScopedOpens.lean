import ClaimStore.Store.Access
import ClaimStore.Proofs.EntryKeeper
import ClaimStore.Proofs.FaultyRuns
import ClaimStore.Proofs.Unaltered

/-!
# Opens, one hold after the other

An open of an entry takes one hold after the other: a reference of the claim, the write lease, the
entry with an owner, a place in the lock of its value. What fails comes last. After a failure the
holds are given back in reverse, and only then an entry that was made can be taken out: while it
has its owner, it stays. Written in this order, an open comes to the same state with the same
answer as the operations of a volatile repository, which only take what they keep.

## Main definitions

* `ClaimStore.holding` — an action while something is held that is given back if it fails.
* `Store.holdingReference`, `Store.holdingLease`, `Store.holdingEntry`, `Store.holdingBorrow`,
  `Store.holdingValue` — the holds of an open.
* `Store.mapInOrder`, `Store.readInOrder`, `Store.writeInOrder` — opens, one hold after the other.

## Main results

* `Store.mapInOrder_eq`, `Store.readInOrder_eq`, `Store.writeInOrder_eq` — they are the operations
  of a volatile repository.
-/

set_option autoImplicit false

namespace ClaimStore

/-- Runs an action while something is held that is taken for it. What it takes over when it
succeeds is given back when it fails. -/
def holding {σ β ε α : Type} (take : σ → Except ε (β × σ)) (giveBack : β → σ → σ)
    (act : β → σ → σ × Except ε α) (x : σ) : σ × Except ε α :=
  match take x with
  | .error e => (x, .error e)
  | .ok (b, y) =>
    match act b y with
    | (z, .ok a) => (z, .ok a)
    | (z, .error e) => (giveBack b z, .error e)

section Holding

variable {σ β ε α : Type} {take : σ → Except ε (β × σ)} {giveBack : β → σ → σ}
  {g : β → σ → σ × Except ε α} {x y z : σ} {b : β} {f : ε}

/-- What cannot be taken is not held. -/
lemma holding_refused (ht : take x = .error f) : holding take giveBack g x = (x, .error f) := by
  unfold holding
  rw [ht]

/-- What an action fails with is answered, after what was held is given back. -/
lemma holding_error (ht : take x = .ok (b, y)) (ha : g b y = (z, .error f)) :
    holding take giveBack g x = (giveBack b z, .error f) := by
  unfold holding
  rw [ht]
  dsimp only
  rw [ha]

/-- What an action answers is answered. -/
lemma holding_ok {a : α} (ht : take x = .ok (b, y)) (ha : g b y = (z, .ok a)) :
    holding take giveBack g x = (z, .ok a) := by
  unfold holding
  rw [ht]
  dsimp only
  rw [ha]

end Holding

/-! ### Holds in a table -/

namespace EntryTable

section Locks

variable {K : Type} {t t' : EntryTable K} {e : EntryId}

/-- A change of an entry that is undone. -/
lemma modify_undo {f g : Entry K → Entry K} (h : ∀ c, t.cells[e]? = some c → g (f c) = c) :
    (t.modify e f).modify e g = t := by
  have hcells : (t.cells.modify e f).modify e g = t.cells := by
    refine List.ext_getElem? fun i => ?_
    rw [List.modify_modify_eq, List.getElem?_modify]
    cases hc : t.cells[i]? with
    | none => rfl
    | some c =>
      by_cases hi : e = i
      · subst hi
        rw [Option.map_eq_map, Option.map_some, if_pos rfl, Function.comp_apply, h c hc]
      · rw [Option.map_eq_map, Option.map_some, if_neg hi]
  show { t with cells := (t.cells.modify e f).modify e g } = t
  rw [hcells]

/-- A place as the writer that is taken and given back at once was never taken. -/
lemma endWrite_tryWrite (h : t.tryWrite e = some t') : t'.endWrite e = t := by
  obtain ⟨c, hc, hwriter, -, rfl⟩ := tryWrite_eq_some h
  refine modify_undo fun d hd => ?_
  obtain rfl := Option.some.inj (hc.symm.trans hd)
  rw [Lock.endWrite, ← hwriter]

/-- So it is with a place as a reader. -/
lemma endRead_tryRead (h : t.tryRead e = some t') : t'.endRead e = t := by
  obtain ⟨c, hc, -, rfl⟩ := tryRead_eq_some h
  refine modify_undo fun d hd => ?_
  obtain rfl := Option.some.inj (hc.symm.trans hd)
  rfl

/-- A place in the lock of a value, and then a step. -/
def locking (t : EntryTable K) (e : EntryId) (writing : Bool) (refusal : ContentError)
    (step : EntryTable K → Except ContentError (EntryTable K)) :
    Except ContentError (EntryTable K) :=
  match if writing then t.tryWrite e else t.tryRead e with
  | none => .error refusal
  | some locked => step locked

end Locks

section Openings

variable {κ : Type} (t : EntryTable (Key κ)) (e : EntryId)

/-- A writable mapping changes the length of the value that it locks. -/
lemma lockFor_writable_eq [ToString κ] (n : UInt64) : t.lockFor e n false =
    t.locking e true (.writerActive (t.shownKey e)) (·.resizeValue e n) := by
  simp only [lockFor, locking, Bool.false_eq_true, if_false, if_true]
  cases t.tryWrite e <;> rfl

/-- A read-only one looks at the length. -/
lemma lockFor_readOnly_eq [ToString κ] (n : UInt64) : t.lockFor e n true =
    t.locking e false (.writerActive (t.shownKey e)) fun locked =>
      if (locked.value e).size < n.toNat then
        .error (.insufficientBackingStore (t.shownKey e) n.toNat (locked.value e).size)
      else .ok locked := by
  simp only [lockFor, locking, Bool.false_eq_true, if_false, if_true]
  cases hl : t.tryRead e with
  | none => rfl
  | some locked =>
    obtain ⟨c, -, -, hlocked⟩ := tryRead_eq_some hl
    have hvalue : locked.value e = t.value e := hlocked ▸ value_modify_eq
      (f := fun d => { d with lock := { c.lock with readers := c.lock.readers + 1 } })
      (fun _ => rfl) e
    dsimp only
    rw [hvalue]

/-- A writer empties the value that it locks, unless it appends. -/
lemma lockForWriter_eq (identifier : String) (append : Bool) : t.lockForWriter e identifier append =
    t.locking e true (.writerActive identifier) fun locked =>
      if append then .ok locked else locked.resizeValue e 0 := by
  unfold lockForWriter locking
  simp only [if_true]
  cases t.tryWrite e <;> rfl

end Openings

end EntryTable

namespace Store

variable {κ : Type}

/-! ### Holds -/

/-- Holds a reference of a claim. -/
def holdingReference {α : Type} (c : ClaimId) (act : Store κ → Store κ × Except Failure α) :
    Store κ → Store κ × Except Failure α :=
  holding (fun s => .ok ((), s.takeReference c)) (fun _ s => s.release (.reference c))
    fun _ => act

/-- Holds the write lease of an identifier. -/
def holdingLease {α : Type} (w : RegistryId) (x : String)
    (act : Store κ → Store κ × Except Failure α) : Store κ → Store κ × Except Failure α :=
  holding (fun s => (s.takeWriteLease w x).map fun leased => ((), leased))
    (fun _ s => s.release (.lease (.write w x))) fun _ => act

section Outer

variable {α : Type} {s leased z : Store κ} {c : ClaimId} {w : RegistryId} {x : String} {f : Failure}
  {a : α} {act : Store κ → Store κ × Except Failure α}

/-- What fails while a reference is held gives it back. -/
lemma holdingReference_error (h : act (s.takeReference c) = (z, .error f)) :
    holdingReference c act s = (z.release (.reference c), .error f) :=
  holding_error (g := fun _ => act) rfl h

/-- What succeeds keeps it. -/
lemma holdingReference_ok (h : act (s.takeReference c) = (z, .ok a)) :
    holdingReference c act s = (z, .ok a) :=
  holding_ok (g := fun _ => act) rfl h

/-- Where the lease is refused nothing is tried. -/
lemma holdingLease_refused (hl : s.takeWriteLease w x = .error f) :
    holdingLease w x act s = (s, .error f) :=
  holding_refused (by rw [hl]; rfl)

/-- What fails under the lease gives it back. -/
lemma holdingLease_error (hl : s.takeWriteLease w x = .ok leased)
    (h : act leased = (z, .error f)) :
    holdingLease w x act s = (z.release (.lease (.write w x)), .error f) :=
  holding_error (g := fun _ => act) (by rw [hl]; rfl) h

/-- What succeeds keeps the lease. -/
lemma holdingLease_ok (hl : s.takeWriteLease w x = .ok leased) (h : act leased = (z, .ok a)) :
    holdingLease w x act s = (z, .ok a) :=
  holding_ok (g := fun _ => act) (by rw [hl]; rfl) h

end Outer

/-- Holds a place in the lock of the value of an entry. -/
def holdingValue {α : Type} (t : TableId) (e : EntryId) (writing : Bool) (refusal : Failure)
    (act : Store κ → Store κ × Except Failure α) : Store κ → Store κ × Except Failure α :=
  holding
    (fun s =>
      match if writing then (s.table t).tryWrite e else (s.table t).tryRead e with
      | none => .error refusal
      | some locked => .ok ((), s.setTable t locked))
    (fun _ s => s.release (if writing then .writeLock t e else .readLock t e)) fun _ => act

/-- Cuts or zero-pads the value of an entry, and makes a handle if that succeeds. -/
def resizing (t : TableId) (e : EntryId) (n : UInt64) (finish : Store κ → Store κ × HandleId)
    (s : Store κ) : Store κ × Except Failure HandleId :=
  match s.resizeValue t e n with
  | (s, .error f) => (s, .error f)
  | (s, .ok _) => succeed (finish s)

/-- Makes a handle if the value of an entry, whose key is shown like this, is long enough. -/
def checking (t : TableId) (e : EntryId) (n : UInt64) (key : String)
    (finish : Store κ → Store κ × HandleId) (s : Store κ) : Store κ × Except Failure HandleId :=
  if ((s.table t).value e).size < n.toNat then
    (s, .error (.content (.insufficientBackingStore key n.toNat ((s.table t).value e).size)))
  else succeed (finish s)

section Opens

variable [DecidableEq κ]

/-- Holds the entry of an identifier that is stored. -/
def holdingBorrow {α : Type} (t : TableId) (x : String) (missing : Failure)
    (act : EntryId → Store κ → Store κ × Except Failure α) :
    Store κ → Store κ × Except Failure α :=
  holding
    (fun s =>
      match (s.table t).borrow (.text x) with
      | none => .error missing
      | some (e, borrowed) => .ok (e, s.setTable t borrowed))
    (fun e s => s.release (.owner t e)) act

/-- Holds the entry of an identifier, which is made where it is missing. One that was made is taken
out after its owner was given back. -/
def holdingEntry {α : Type} (t : TableId) (x : String)
    (act : EntryId → Store κ → Store κ × Except Failure α) (s : Store κ) :
    Store κ × Except Failure α :=
  let created := !(s.table t).contains (.text x)
  holding
    (fun s =>
      match (s.table t).getOrInsert (.text x) with
      | .error y => .error (.content y)
      | .ok (e, borrowed) => .ok (e, s.setTable t borrowed))
    (fun e s =>
      let s := s.release (.owner t e)
      if created then (s.removeEntry t (.text x)).1 else s) act s

/-! ### Opens in order -/

/-- A new mapping that has taken over the reference, and the lease if there is one. -/
def addHolder (s : Store κ) (m : Mapping) (c : ClaimId) (l : Option Lease) : Store κ × HandleId :=
  s.addHandle (.mapping { m with hooks := m.hooks.push (.hold c l) })

/-- A mapping of the entry of a claim. -/
def mapInOrder [ToString κ] (s : Store κ) (t : TableId) (writers : RegistryId) (c : ClaimId)
    (n : UInt64) (readOnly : Bool) : Store κ × Except Failure HandleId :=
  let identifier := s.identifier c
  holdingReference c (fun s =>
    if readOnly then
      holdingBorrow t identifier (missingContent identifier n.toNat) (fun e s =>
        let key := (s.table t).shownKey e
        holdingValue t e false (.content (.writerActive key))
          (checking t e n key (·.addHolder (entryMapping t e n true) c none)) s) s
    else
      holdingLease writers identifier (holdingEntry t identifier fun e s =>
        holdingValue t e true (.content (.writerActive ((s.table t).shownKey e)))
          (resizing t e n
            (·.addHolder (entryMapping t e n false) c (some (.write writers identifier)))) s) s) s

/-- A reader of the entry of a claim. -/
def readInOrder (s : Store κ) (t : TableId) (c : ClaimId) : Store κ × Except Failure HandleId :=
  let identifier := s.identifier c
  holdingReference c (holdingBorrow t identifier (missingContent identifier 0) fun e =>
    holdingValue t e false (.content (.writerActive identifier)) fun s =>
      succeed (s.addHandle (.reader { claim := c, source := .entry t e, position := 0 }))) s

/-- A writer to the entry of a claim. -/
def writeInOrder (s : Store κ) (t : TableId) (writers : RegistryId) (c : ClaimId) (append : Bool) :
    Store κ × Except Failure HandleId :=
  let identifier := s.identifier c
  let writer (e : EntryId) : Handle := .writer
    { claim := c, sink := .entry t e, written := 0, lease := some (.write writers identifier) }
  holdingReference c (holdingLease writers identifier (holdingEntry t identifier fun e =>
    holdingValue t e true (.content (.writerActive identifier)) fun s =>
      if append then succeed (s.addHandle (writer e))
      else resizing t e 0 (·.addHandle (writer e)) s)) s

end Opens

/-! ### What is taken and given back -/

section Undo

variable {s leased : Store κ} {t : TableId} {c : ClaimId} {w : RegistryId} {x : String}

/-- A reference that is taken and given back at once was never taken. -/
lemma release_takeReference (s : Store κ) (c : ClaimId) :
    (s.takeReference c).release (.reference c) = s := by
  have hclaims : (s.claims.modify c fun x => { x with references := x.references + 1 }).modify c
      (fun x => { x with references := x.references - 1 }) = s.claims := by
    rw [List.modify_modify_eq]
    exact List.modify_id _ _
  show { s with claims := (s.claims.modify c _).modify c _ } = s
  rw [hclaims]

/-- The lease of an identifier has nothing to do with the references of claims. -/
lemma takeWriteLease_takeReference (s : Store κ) (c : ClaimId) (w : RegistryId) (x : String) :
    (s.takeReference c).takeWriteLease w x = (s.takeWriteLease w x).map (·.takeReference c) := by
  unfold takeWriteLease
  rw [show (s.takeReference c).writerRegistry w = s.writerRegistry w from rfl]
  cases (s.writerRegistry w).acquire x <;> rfl

/-- Of two replacements of a table the second one counts. -/
lemma setTable_setTable (s : Store κ) (t : TableId) (a b : EntryTable (Key κ)) :
    (s.setTable t a).setTable t b = s.setTable t b := by
  unfold setTable
  rw [List.set_set]

/-- A change of a table that was replaced. -/
lemma modify_setTable (s : Store κ) (t : TableId) (a : EntryTable (Key κ))
    (f : EntryTable (Key κ) → EntryTable (Key κ)) :
    { s.setTable t a with tables := (s.setTable t a).tables.modify t f } = s.setTable t (f a) := by
  have htables : (s.tables.set t a).modify t f = s.tables.set t (f a) := by
    refine List.ext_getElem? fun i => ?_
    rw [List.getElem?_modify, List.getElem?_set, List.getElem?_set]
    by_cases hi : t = i
    · subst hi
      by_cases hlt : t < s.tables.length
      · simp [hlt]
      · simp [hlt]
    · simp [hi]
  show { s with tables := (s.tables.set t a).modify t f } = _
  rw [htables]
  rfl

end Undo

/-! ### Opens in order are the operations -/

section Order

variable [DecidableEq κ] {s : Store κ} {t : TableId} {x : String}
  {lock : EntryTable (Key κ) → EntryId → Except ContentError (EntryTable (Key κ))}
  {act : EntryId → Store κ → Store κ × Except Failure HandleId}
  {finish : EntryId → Store κ → Store κ × HandleId}

/-- An action that changes a table by a step, and then makes a handle. Where the step fails, it
leaves the table. -/
def StepsAs (t : TableId) (act : Store κ → Store κ × Except Failure HandleId)
    (step : EntryTable (Key κ) → Except ContentError (EntryTable (Key κ)))
    (finish : Store κ → Store κ × HandleId) : Prop :=
  ∀ (s : Store κ) b, t < s.tables.length → act (s.setTable t b) =
    match step b with
    | .error y => (s.setTable t b, .error (.content y))
    | .ok table => succeed (finish (s.setTable t table))

/-- An action on a borrowed entry that locks its value, and then makes a handle. Where it fails, it
leaves the table. -/
def LocksAs (t : TableId) (act : EntryId → Store κ → Store κ × Except Failure HandleId)
    (lock : EntryTable (Key κ) → EntryId → Except ContentError (EntryTable (Key κ)))
    (finish : EntryId → Store κ → Store κ × HandleId) : Prop :=
  ∀ e, StepsAs t (act e) (fun b => lock b e) (finish e)

omit [DecidableEq κ] in
/-- **A place in a lock that is taken for a step** is given back where the step fails.

**Proof sketch.** The guard that is taken first is given back last, and the value in between is that
of the entry. -/
lemma stepsAs_holdingValue {e : EntryId} {writing : Bool} {refusal : ContentError}
    {act : Store κ → Store κ × Except Failure HandleId} {finish : Store κ → Store κ × HandleId}
    {step : EntryTable (Key κ) → Except ContentError (EntryTable (Key κ))}
    (hact : StepsAs t act step finish) :
    StepsAs t (holdingValue t e writing (.content refusal) act)
      (fun b => b.locking e writing refusal step) finish := by
  intro s b ht
  have htable := table_setTable_self ht b
  unfold EntryTable.locking
  dsimp only
  cases hl : if writing then b.tryWrite e else b.tryRead e with
  | none => exact holding_refused (by rw [htable, hl])
  | some locked =>
    have htake : (match if writing then ((s.setTable t b).table t).tryWrite e
        else ((s.setTable t b).table t).tryRead e with
        | none => (.error (.content refusal) : Except Failure (Unit × Store κ))
        | some locked => .ok ((), (s.setTable t b).setTable t locked)) =
          .ok ((), s.setTable t locked) := by
      rw [htable, hl]
      dsimp only
      rw [setTable_setTable]
    have hopened := hact s locked ht
    dsimp only
    cases hstep : step locked with
    | ok table =>
      rw [hstep] at hopened
      exact holding_ok (g := fun _ => act) htake hopened
    | error y =>
      rw [hstep] at hopened
      refine (holding_error (g := fun _ => act) htake hopened).trans ?_
      dsimp only
      cases writing with
      | true =>
        have hback : (s.setTable t locked).release (.writeLock t e) = s.setTable t b :=
          (modify_setTable s t locked _).trans (congrArg _ (EntryTable.endWrite_tryWrite hl))
        rw [if_pos rfl, hback]
      | false =>
        have hback : (s.setTable t locked).release (.readLock t e) = s.setTable t b :=
          (modify_setTable s t locked _).trans (congrArg _ (EntryTable.endRead_tryRead hl))
        rw [if_neg Bool.false_ne_true, hback]

/-- **An entry that is held is opened**, and one that was made for an open that fails is taken out
again. -/
lemma holdingEntry_eq (ht : t < s.tables.length) (hact : LocksAs t act lock finish) :
    holdingEntry t x act s =
      match withEntry (s.table t) x lock with
      | (table, .error y) => (s.setTable t table, .error (.content y))
      | (table, .ok e) => succeed (finish e (s.setTable t table)) := by
  unfold holdingEntry withEntry
  dsimp only
  cases hg : (s.table t).getOrInsert (.text x) with
  | error y =>
    rw [holding_refused (by rw [hg])]
    dsimp only
    rw [setTable_self]
  | ok r =>
    obtain ⟨e, b⟩ := r
    have hopened := hact e s b ht
    dsimp only at hopened ⊢
    cases hl : lock b e with
    | ok locked =>
      rw [hl] at hopened
      exact holding_ok (by rw [hg]) hopened
    | error y =>
      rw [hl] at hopened
      rw [holding_error (by rw [hg]) hopened]
      dsimp only
      have howner : (s.setTable t b).release (.owner t e) = s.setTable t (b.dropOwner e) :=
        modify_setTable s t b _
      rw [howner]
      split
      · rw [removeEntry, table_setTable_self ht]
        dsimp only
        rw [setTable_setTable]
      · rfl

/-- **An open under a reference and a lease** keeps both where it succeeds and neither where it
fails.

**Proof sketch.** The lease and the reference do not touch the table, so they can be taken first and
given back last. Given back in the other order they leave the state that there was. -/
lemma holdingLeased_eq {c : ClaimId} {w : RegistryId} (ht : t < s.tables.length)
    (hact : LocksAs t act lock finish) :
    holdingReference c (holdingLease w x (holdingEntry t x act)) s =
      match s.takeWriteLease w x with
      | .error f => (s, .error f)
      | .ok leased =>
        match withEntry (s.table t) x lock with
        | (table, .error y) => (s.setTable t table, .error (.content y))
        | (table, .ok e) => succeed (finish e ((leased.takeReference c).setTable t table)) := by
  have hlease := takeWriteLease_takeReference s c w x
  cases hl : s.takeWriteLease w x with
  | error f =>
    rw [hl] at hlease
    rw [holdingReference_error (holdingLease_refused hlease), release_takeReference]
  | ok leased =>
    rw [hl] at hlease
    have htables : leased.tables = s.tables := by
      obtain ⟨g, -, rfl⟩ := takeWriteLease_ok hl
      rfl
    have htable : (leased.takeReference c).table t = s.table t := by
      rw [table, table, ← htables]
      rfl
    have hentry := holdingEntry_eq (s := leased.takeReference c) (x := x)
      (by rw [← htables] at ht; exact ht) hact
    rw [htable] at hentry
    dsimp only
    cases hopen : withEntry (s.table t) x lock with
    | mk table answer =>
      rw [hopen] at hentry
      cases answer with
      | ok e => exact holdingReference_ok (holdingLease_ok hlease hentry)
      | error y =>
        rw [holdingReference_error (holdingLease_error hlease hentry)]
        -- the lease and the reference do not touch the table that the open left
        have hback : (leased.takeReference c).release (.lease (.write w x)) = s.takeReference c :=
          release_takeWriteLease hlease
        show ((((leased.takeReference c).release (.lease (.write w x))).release
          (.reference c)).setTable t table, _) = _
        rw [hback, release_takeReference]

/-- **An open of a stored entry under a reference** keeps the reference where it succeeds, and
changes nothing but the owner where it fails.

**Proof sketch.** As under a lease: the reference does not touch the table, so it can be given back
last. -/
lemma holdingReferenced_eq {c : ClaimId} {missing : Failure} (ht : t < s.tables.length)
    (hact : LocksAs t act lock finish) :
    holdingReference c (holdingBorrow t x missing act) s =
      match (s.table t).borrow (.text x) with
      | none => (s, .error missing)
      | some (e, b) =>
        match lock b e with
        | .error y => (s.setTable t (b.dropOwner e), .error (.content y))
        | .ok locked => succeed (finish e ((s.takeReference c).setTable t locked)) := by
  have htable : (s.takeReference c).table t = s.table t := rfl
  cases hb : (s.table t).borrow (.text x) with
  | none =>
    have hinner : holdingBorrow t x missing act (s.takeReference c) =
        (s.takeReference c, .error missing) := holding_refused (by rw [htable, hb])
    rw [holdingReference_error hinner, release_takeReference]
  | some r =>
    obtain ⟨e, b⟩ := r
    have hopened := hact e (s.takeReference c) b ht
    dsimp only at hopened ⊢
    cases hl : lock b e with
    | ok locked =>
      rw [hl] at hopened
      exact holdingReference_ok (holding_ok (by rw [htable, hb]) hopened)
    | error y =>
      rw [hl] at hopened
      have hinner : holdingBorrow t x missing act (s.takeReference c) =
          ((s.takeReference c).setTable t (b.dropOwner e), .error (.content y)) :=
        (holding_error (by rw [htable, hb]) hopened).trans
          (congrArg (·, _) (modify_setTable _ t b _))
      rw [holdingReference_error hinner]
      show (((s.takeReference c).release (.reference c)).setTable t _, _) = _
      rw [release_takeReference]

/-! #### The three opens -/

omit [DecidableEq κ] in
/-- A change of length is a step on the table. -/
lemma stepsAs_resizing (e : EntryId) (n : UInt64) (finish : Store κ → Store κ × HandleId) :
    StepsAs t (resizing t e n finish) (fun b => b.resizeValue e n) finish := by
  intro s b ht
  rw [resizing, Store.resizeValue, table_setTable_self ht]
  dsimp only
  cases b.resizeValue e n with
  | error y => rfl
  | ok table =>
    dsimp only
    rw [setTable_setTable]

variable {c : ClaimId} {w : RegistryId}

omit [DecidableEq κ] in
/-- A look at the length of a value is a step that leaves the table. -/
lemma stepsAs_checking (e : EntryId) (n : UInt64) (key : String)
    (finish : Store κ → Store κ × HandleId) :
    StepsAs t (checking t e n key finish)
      (fun b => if (b.value e).size < n.toNat then
        .error (.insufficientBackingStore key n.toNat (b.value e).size) else .ok b) finish := by
  intro s b ht
  unfold checking
  rw [table_setTable_self ht]
  dsimp only
  split <;> rfl

omit [DecidableEq κ] in
/-- A handle that is made changes no table. -/
lemma stepsAs_succeed (finish : Store κ → Store κ × HandleId) :
    StepsAs t (fun s => succeed (finish s)) .ok finish := fun _ _ _ => rfl

/-- **A reader that takes one hold after the other** is the one that takes what it keeps. -/
theorem readInOrder_eq (ht : t < s.tables.length) : s.readInOrder t c = s.readInTable t c := by
  refine (holdingReferenced_eq ht fun e => stepsAs_holdingValue (stepsAs_succeed
    (·.addHandle (.reader { claim := c, source := .entry t e, position := 0 })))).trans ?_
  unfold readInTable EntryTable.locking
  simp only [Bool.false_eq_true, if_false]
  cases (s.table t).borrow (.text (s.identifier c)) with
  | none => rfl
  | some r =>
    dsimp only
    cases r.2.tryRead r.1 <;> rfl

omit [DecidableEq κ] in
/-- An action that is one of two steps. -/
lemma StepsAs.ite {a b : Store κ → Store κ × Except Failure HandleId}
    {f g : EntryTable (Key κ) → Except ContentError (EntryTable (Key κ))}
    {finish : Store κ → Store κ × HandleId} {p : Prop} [Decidable p]
    (ha : StepsAs t a f finish) (hb : StepsAs t b g finish) :
    StepsAs t (fun s => if p then a s else b s) (fun t => if p then f t else g t) finish := by
  intro s x ht
  by_cases hp : p
  · simp only [if_pos hp]
    exact ha s x ht
  · simp only [if_neg hp]
    exact hb s x ht

/-- **So is a writer.** -/
theorem writeInOrder_eq (ht : t < s.tables.length) (append : Bool) :
    s.writeInOrder t w c append = s.writeInTable t w c append := by
  refine (holdingLeased_eq ht fun e => stepsAs_holdingValue
    ((stepsAs_succeed (·.addHandle (.writer
      { claim := c, sink := .entry t e, written := 0,
        lease := some (.write w (s.identifier c)) }))).ite (stepsAs_resizing e 0 _))).trans ?_
  unfold writeInTable
  simp only [EntryTable.lockForWriter_eq]
  cases s.takeWriteLease w (s.identifier c) with
  | error f => rfl
  | ok leased =>
    dsimp only
    cases withEntry (s.table t) (s.identifier c) fun b e =>
        b.locking e true (.writerActive (s.identifier c)) fun locked =>
          if append then .ok locked else locked.resizeValue e 0 with
    | mk table answer => cases answer <;> rfl

omit [DecidableEq κ] in
/-- A read-only mapping locks the value, and looks at its length. -/
lemma locksAs_readOnly [ToString κ] (n : UInt64)
    (finish : EntryId → Store κ → Store κ × HandleId) :
    LocksAs t
      (fun e s =>
        let key := (s.table t).shownKey e
        holdingValue t e false (.content (.writerActive key)) (checking t e n key (finish e)) s)
      (fun b e => b.lockFor e n true) finish := by
  intro e s b ht
  dsimp only
  rw [table_setTable_self ht, EntryTable.lockFor_readOnly_eq]
  exact stepsAs_holdingValue (stepsAs_checking e n _ _) s b ht

omit [DecidableEq κ] in
/-- A writable one locks it, and changes its length. -/
lemma locksAs_writable [ToString κ] (n : UInt64)
    (finish : EntryId → Store κ → Store κ × HandleId) :
    LocksAs t
      (fun e s => holdingValue t e true (.content (.writerActive ((s.table t).shownKey e)))
        (resizing t e n (finish e)) s)
      (fun b e => b.lockFor e n false) finish := by
  intro e s b ht
  dsimp only
  rw [table_setTable_self ht, EntryTable.lockFor_writable_eq]
  exact stepsAs_holdingValue (stepsAs_resizing e n _) s b ht

/-- **So is a mapping.** -/
theorem mapInOrder_eq [ToString κ] (ht : t < s.tables.length) (n : UInt64) (readOnly : Bool) :
    s.mapInOrder t w c n readOnly = s.mapInTable t w c n readOnly := by
  cases readOnly with
  | true =>
    refine (holdingReferenced_eq ht (locksAs_readOnly n fun e s =>
      s.addHolder (entryMapping t e n true) c none)).trans ?_
    unfold mapInTable
    simp only [if_true]
    cases (s.table t).borrow (.text (s.identifier c)) with
    | none => rfl
    | some r =>
      dsimp only
      cases r.2.lockFor r.1 n true <;> rfl
  | false =>
    refine (holdingLeased_eq ht (locksAs_writable n fun e s' =>
      s'.addHolder (entryMapping t e n false) c (some (.write w (s.identifier c))))).trans ?_
    unfold mapInTable
    simp only [Bool.false_eq_true, if_false]
    cases s.takeWriteLease w (s.identifier c) with
    | error f => rfl
    | ok leased =>
      dsimp only
      cases withEntry (s.table t) (s.identifier c) fun b e => b.lockFor e n false with
      | mk table answer => cases answer <;> rfl

end Order

end Store

end ClaimStore
