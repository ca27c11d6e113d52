import ClaimStore.Error

/-!
# Leases

At most one writer may be active for an identifier: a writer registry hands out the write lease
of an identifier only while nobody holds it. A reader registry counts the read leases of each
identifier, and whatever would shorten the content of an identifier runs only while that count is
zero.

## Main definitions

* `ClaimStore.WriterRegistry` — the identifiers that are being written.
* `ClaimStore.ReaderRegistry` — the identifiers that are mapped for reading, with their counts.
* `ReaderRegistry.exclusive` — an action that waits for no reader and runs with none.
-/

set_option autoImplicit false

namespace ClaimStore

/-! ### Writers -/

/-- The identifiers whose write lease is taken. -/
structure WriterRegistry where
  /-- The identifiers, each at most once. -/
  active : List String
  deriving DecidableEq, Repr

namespace WriterRegistry

/-- The registry in which no lease is taken. -/
def empty : WriterRegistry := ⟨[]⟩

/-- The write lease of the identifier is taken. -/
def isWriting (r : WriterRegistry) (identifier : String) : Bool := r.active.contains identifier

/-- Takes the write lease of an identifier. -/
def acquire (r : WriterRegistry) (identifier : String) : Except ContentError WriterRegistry :=
  if r.isWriting identifier then .error (.writerActive identifier)
  else .ok ⟨identifier :: r.active⟩

/-- Gives the write lease of an identifier back. -/
def release (r : WriterRegistry) (identifier : String) : WriterRegistry :=
  ⟨r.active.filter (· != identifier)⟩

end WriterRegistry

/-! ### Readers -/

/-- The identifiers with live read leases. -/
structure ReaderRegistry where
  /-- The identifiers, with the number of their live leases. -/
  mapped : List (String × Nat)
  /-- Each identifier is there at most once. -/
  nodup : (mapped.map Prod.fst).Nodup
  /-- No identifier is there without a lease. -/
  pos : ∀ p ∈ mapped, 0 < p.2
  deriving DecidableEq, Repr

namespace ReaderRegistry

/-- The registry in which no lease is taken. -/
def empty : ReaderRegistry := ⟨[], .nil, nofun⟩

/-- The number of live read leases of an identifier. -/
def readers (r : ReaderRegistry) (identifier : String) : Nat :=
  match r.mapped.lookup identifier with
  | some n => n
  | none => 0

/-- An identifier that is looked up in vain is not there. -/
theorem not_mem_of_lookup {l : List (String × Nat)} {identifier : String}
    (h : l.lookup identifier = none) : identifier ∉ l.map Prod.fst := by
  induction l with
  | nil => exact nofun
  | cons p l ih =>
    rw [List.lookup_cons] at h
    split at h
    · cases h
    · next hne =>
      rw [List.map_cons, List.mem_cons, not_or]
      exact ⟨fun he => by simp [he] at hne, ih h⟩

/-- Changing the number of one identifier changes no identifier. -/
theorem map_fst_update (l : List (String × Nat)) (identifier : String) (n : Nat) :
    (l.map fun p => if p.1 = identifier then (p.1, n) else p).map Prod.fst = l.map Prod.fst := by
  rw [List.map_map]
  refine List.map_congr_left fun p _ => ?_
  by_cases h : p.1 = identifier <;> simp [h]

/-- The registry with another number, which is positive, for an identifier that is there. -/
def update (r : ReaderRegistry) (identifier : String) (n : Nat) (h : 0 < n) : ReaderRegistry where
  mapped := r.mapped.map fun p => if p.1 = identifier then (p.1, n) else p
  nodup := map_fst_update r.mapped identifier n ▸ r.nodup
  pos q hq := by
    obtain ⟨p, hp, rfl⟩ := List.mem_map.1 hq
    split
    · exact h
    · exact r.pos p hp

/-- Takes one more read lease of an identifier. -/
def acquire (r : ReaderRegistry) (identifier : String) : ReaderRegistry :=
  match h : r.mapped.lookup identifier with
  | some n => r.update identifier (n + 1) n.succ_pos
  | none =>
    { mapped := (identifier, 1) :: r.mapped
      nodup := List.nodup_cons.2 ⟨not_mem_of_lookup h, r.nodup⟩
      pos := List.forall_mem_cons.2 ⟨Nat.one_pos, r.pos⟩ }

/-- Gives one read lease of an identifier back. The identifier leaves the registry with its last
lease. -/
def release (r : ReaderRegistry) (identifier : String) : ReaderRegistry :=
  match r.mapped.lookup identifier with
  | none => r
  | some n =>
    if h : n - 1 = 0 then
      { mapped := r.mapped.filter fun p => p.1 != identifier
        nodup := r.nodup.sublist (List.filter_sublist.map Prod.fst)
        pos := fun p hp => r.pos p (List.mem_filter.1 hp).1 }
    else r.update identifier (n - 1) (Nat.pos_of_ne_zero h)

/-- Runs an action on a state only while no read lease of the identifier is live, and refuses it
otherwise. -/
def exclusive {σ α : Type} (r : ReaderRegistry) (identifier : String)
    (act : σ → σ × Except Failure α) (s : σ) : σ × Except Failure α :=
  if 0 < r.readers identifier then (s, .error (.content (.writerActive identifier))) else act s

end ReaderRegistry

end ClaimStore
