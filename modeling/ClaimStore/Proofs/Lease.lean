import Mathlib.Algebra.Order.Ring.Nat
import ClaimStore.Lease

/-!
# The laws of lease registries

What the two registries count after a lease was taken or given back. A write lease is counted at
most once, a read lease as often as it was taken.

## Main results

* `WriterRegistry.isWriting_release`, `WriterRegistry.acquire_ok` — the write lease of each
  identifier.
* `ReaderRegistry.readers_acquire`, `ReaderRegistry.readers_release` — the read leases of each
  identifier.
* `ReaderRegistry.mem_mapped_iff` — the entries of the identifiers that are read.
* `ReaderRegistry.release_acquire` — a read lease that is taken and given back.
-/

set_option autoImplicit false

namespace ClaimStore

/-- A look-up after all entries of one name were dropped. -/
lemma lookup_filter_ne {α : Type} (l : List (String × α)) (x y : String) :
    (l.filter fun p => p.1 != x).lookup y = if y = x then none else l.lookup y := by
  induction l with
  | nil => simp
  | cons p l ih =>
    obtain ⟨k, n⟩ := p
    by_cases hk : k = x
    · subst hk
      by_cases hy : y = k
      · subst hy
        simpa using ih
      · simp [hy, ih, List.lookup_cons, beq_eq_false_iff_ne.2 hy]
    · by_cases hy : y = k
      · subst hy
        simp [hk]
      · simp [hk, List.lookup_cons, beq_eq_false_iff_ne.2 hy, ih]

namespace WriterRegistry

/-- In the empty registry nobody writes. -/
@[simp] lemma isWriting_empty (x : String) : empty.isWriting x = false := rfl

/-- **A write lease is granted where nobody writes**, and then somebody does. -/
lemma acquire_ok {r r' : WriterRegistry} {x : String} (h : r.acquire x = .ok r') :
    r.isWriting x = false ∧ ∀ y, r'.isWriting y = (y == x || r.isWriting y) := by
  unfold acquire at h
  split at h
  · cases h
  · next hx =>
    obtain rfl := Except.ok.inj h
    exact ⟨Bool.eq_false_iff.2 hx, fun y => List.contains_cons⟩

/-- After a write lease was given back, nobody writes. -/
lemma isWriting_release (r : WriterRegistry) (x y : String) :
    (r.release x).isWriting y = (r.isWriting y && y != x) := by
  rw [Bool.eq_iff_iff]
  simp [release, isWriting]

end WriterRegistry

namespace ReaderRegistry

/-- In the empty registry nobody reads. -/
@[simp] lemma readers_empty (x : String) : empty.readers x = 0 := rfl

/-- Two registries with the same entries are one. -/
@[ext] lemma ext {r r' : ReaderRegistry} (h : r.mapped = r'.mapped) : r = r' := by
  cases r
  cases r'
  cases h
  rfl

/-- A look-up after the number of one name was changed. -/
lemma lookup_map_at (l : List (String × Nat)) (x y : String) (n : Nat) :
    (l.map fun p => if p.1 = x then (p.1, n) else p).lookup y =
      if y = x then (l.lookup y).map fun _ => n else l.lookup y := by
  induction l with
  | nil => simp
  | cons p l ih =>
    obtain ⟨k, m⟩ := p
    by_cases hk : k = x
    · subst hk
      by_cases hy : y = k
      · subst hy
        simp
      · simp only [List.map_cons, if_true, List.lookup_cons, beq_eq_false_iff_ne.2 hy, ih]
    · by_cases hy : y = k
      · subst hy
        simp [hk]
      · simp only [List.map_cons, hk, if_false, List.lookup_cons, beq_eq_false_iff_ne.2 hy, ih]

/-- A count that is set is found under its identifier, and the others are as they were. -/
lemma lookup_update (r : ReaderRegistry) (x y : String) {n : Nat} (h : 0 < n) :
    (r.update x n h).mapped.lookup y =
      if y = x then (r.mapped.lookup y).map fun _ => n else r.mapped.lookup y :=
  lookup_map_at r.mapped x y n

/-- A lease that is taken of an identifier that is there. -/
lemma acquire_some {r : ReaderRegistry} {x : String} {n : Nat} (h : r.mapped.lookup x = some n) :
    r.acquire x = r.update x (n + 1) n.succ_pos := by
  unfold acquire
  split
  · next m hm =>
    obtain rfl := Option.some.inj (hm.symm.trans h)
    rfl
  · next hm => cases hm.symm.trans h

/-- A lease that is taken of an identifier that is not there. -/
lemma acquire_none {r : ReaderRegistry} {x : String} (h : r.mapped.lookup x = none) :
    (r.acquire x).mapped = (x, 1) :: r.mapped := by
  unfold acquire
  split
  · next m hm => cases hm.symm.trans h
  · rfl

/-- **A read lease that is taken is counted.** -/
lemma readers_acquire (r : ReaderRegistry) (x y : String) :
    (r.acquire x).readers y = r.readers y + if y = x then 1 else 0 := by
  unfold readers
  cases hx : r.mapped.lookup x with
  | none =>
    rw [acquire_none hx]
    by_cases hy : y = x
    · subst hy
      simp [hx]
    · simp [List.lookup_cons, beq_eq_false_iff_ne.2 hy, hy]
  | some n =>
    rw [acquire_some hx, lookup_update]
    by_cases hy : y = x
    · subst hy
      simp only [hx, if_true, Option.map_some]
    · simp only [hy, if_false, Nat.add_zero]

/-- **A read lease that is given back is counted no more.** -/
lemma readers_release (r : ReaderRegistry) (x y : String) :
    (r.release x).readers y = r.readers y - if y = x then 1 else 0 := by
  unfold release
  cases hx : r.mapped.lookup x with
  | none =>
    by_cases hy : y = x
    · subst hy
      simp [readers, hx]
    · simp [hy]
  | some n =>
    have hfilter := lookup_filter_ne r.mapped x y
    unfold readers
    by_cases hn : n - 1 = 0
    · simp only [hn, dite_true, hfilter]
      by_cases hy : y = x
      · subst hy
        simp only [hx, if_true, hn]
      · simp only [hy, if_false, Nat.sub_zero]
    · simp only [hn, dite_false, lookup_update]
      by_cases hy : y = x
      · subst hy
        simp only [hx, if_true, Option.map_some]
      · simp only [hy, if_false, Nat.sub_zero]

/-- An entry is found under its identifier. -/
lemma lookup_of_mem (r : ReaderRegistry) {p : String × Nat} (hp : p ∈ r.mapped) :
    r.mapped.lookup p.1 = some p.2 := by
  have hnodup := r.nodup
  revert hp hnodup
  induction r.mapped with
  | nil => exact nofun
  | cons q l ih =>
    intro hp hnodup
    rw [List.map_cons, List.nodup_cons] at hnodup
    rcases List.mem_cons.1 hp with rfl | hp
    · rw [List.lookup_cons_self]
    · have hne : (p.1 == q.1) = false :=
        beq_eq_false_iff_ne.2 fun h => hnodup.1 (h ▸ List.mem_map_of_mem hp)
      rw [List.lookup_cons, hne]
      exact ih hp hnodup.2

/-- **The entries are the readers that are counted.** -/
lemma mem_mapped_iff (r : ReaderRegistry) {x : String} {n : Nat} :
    (x, n) ∈ r.mapped ↔ n = r.readers x ∧ 0 < n := by
  constructor
  · intro h
    have hlookup := r.lookup_of_mem h
    exact ⟨by rw [readers, hlookup], r.pos _ h⟩
  · rintro ⟨rfl, hpos⟩
    unfold readers at hpos ⊢
    cases hx : r.mapped.lookup x with
    | none => simp [hx] at hpos
    | some n =>
      obtain ⟨l, l', hsplit, -⟩ := List.lookup_eq_some_iff.1 hx
      simp [hsplit]

/-- **A read lease that is taken and given back** leaves the registry as it was. -/
lemma release_acquire (r : ReaderRegistry) (x : String) : (r.acquire x).release x = r := by
  have found : ∀ {n}, (r.acquire x).mapped.lookup x = some n → (r.acquire x).release x =
      if h : n - 1 = 0 then
        { mapped := (r.acquire x).mapped.filter fun p => p.1 != x
          nodup := (r.acquire x).nodup.sublist (List.filter_sublist.map Prod.fst)
          pos := fun p hp => (r.acquire x).pos p (List.mem_filter.1 hp).1 }
      else (r.acquire x).update x (n - 1) (Nat.pos_of_ne_zero h) := by
    intro n hn
    rw [release, hn]
  cases hx : r.mapped.lookup x with
  | none =>
    have hfirst := acquire_none hx
    rw [found (n := 1) (by rw [hfirst, List.lookup_cons_self]), dif_pos rfl]
    refine ext ?_
    dsimp only
    rw [hfirst, List.filter_cons_of_neg (by simp), List.filter_eq_self]
    intro p hp
    exact bne_iff_ne.2 fun h => not_mem_of_lookup hx (h ▸ List.mem_map_of_mem hp)
  | some n =>
    have hn : 0 < n := by
      obtain ⟨l, l', hsplit, -⟩ := List.lookup_eq_some_iff.1 hx
      exact r.pos (x, n) (by simp [hsplit])
    have hmore := acquire_some hx
    rw [found (n := n + 1) (by rw [hmore, lookup_update, if_pos rfl, hx]; rfl), dif_neg (by omega)]
    refine ext ?_
    rw [hmore]
    unfold update
    dsimp only
    rw [List.map_map]
    refine (List.map_congr_left fun ⟨k, m⟩ hp => ?_).trans (List.map_id _)
    by_cases h : k = x
    · -- the only entry of the identifier has its number back
      subst h
      obtain rfl : n = m := Option.some.inj (hx.symm.trans (r.lookup_of_mem hp))
      simp
    · simp [h]

end ReaderRegistry

end ClaimStore
