import ClaimStore.Error
import ClaimStore.Limits

/-!
# Budgets

A budget accounts for the bytes and the entries of a volatile store under two limits that are
fixed when it is made. Its four numbers are 64-bit words. A reservation that does not fit is
refused and changes nothing; a release of more than is in use stops at zero.

## Main definitions

* `ClaimStore.Budget` — the limits and what is in use.
* `Budget.allocate`, `Budget.release`, `Budget.adjust` — accounting of bytes.
* `Budget.admitEntry`, `Budget.retireEntry` — accounting of entries.
* `ClaimStore.BudgetStats` — a reading of a budget.

## Main results

* `ClaimStore.saturatingSub_toNat` — word subtraction that stops at zero is subtraction on `Nat`.
* `ClaimStore.reserve_toNat` — a reservation that fits adds up without wrapping.
-/

set_option autoImplicit false

namespace ClaimStore

/-! ### Word counters under a limit -/

/-- The difference of two words, or zero where it would be negative. -/
def saturatingSub (a b : UInt64) : UInt64 := if b ≤ a then a - b else 0

/-- The counter `current` raised by `amount`, unless `limit` leaves less than that. -/
def reserve (current amount limit : UInt64) : Except ContentError UInt64 :=
  if saturatingSub limit current < amount then
    .error (.capacityExceeded amount.toNat (saturatingSub limit current).toNat)
  else
    .ok (current + amount)

/-- On machine words the subtraction that stops at zero is the one of `Nat`. -/
theorem saturatingSub_toNat (a b : UInt64) :
    (saturatingSub a b).toNat = a.toNat - b.toNat := by
  unfold saturatingSub
  split
  · next h => exact UInt64.toNat_sub_of_le a b h
  · next h =>
    have h' : a.toNat < b.toNat := by simpa [UInt64.le_iff_toNat_le] using h
    simp; omega

/-- A reservation is granted exactly when the limit leaves room for it, and then adds up without
wrapping. -/
theorem reserve_toNat {current amount limit next : UInt64} (hc : current.toNat ≤ limit.toNat)
    (h : reserve current amount limit = .ok next) :
    next.toNat = current.toNat + amount.toNat ∧ next.toNat ≤ limit.toNat := by
  unfold reserve at h
  split at h
  · simp at h
  · next hlt =>
    have hroom : amount.toNat ≤ limit.toNat - current.toNat := by
      have := saturatingSub_toNat limit current
      simp only [UInt64.lt_iff_toNat_lt, Nat.not_lt] at hlt
      omega
    have hl := limit.toNat_lt
    simp only [Except.ok.injEq] at h
    subst h
    rw [UInt64.toNat_add, Nat.mod_eq_of_lt (by omega)]
    omega

/-! ### Readings -/

/-- A reading of a budget. -/
structure BudgetStats where
  /-- The byte limit. -/
  maxBytes : UInt64
  /-- The bytes in use. -/
  bytesUsed : UInt64
  /-- The entry limit. -/
  maxCount : UInt64
  /-- The entries in use. -/
  entries : UInt64
  deriving DecidableEq, Repr

namespace BudgetStats

/-- The bytes that the limit leaves. -/
def bytesAvailable (s : BudgetStats) : UInt64 := saturatingSub s.maxBytes s.bytesUsed

/-- The bytes in use as a percentage of the byte limit, zero under a limit of zero. -/
def utilizationPercent (s : BudgetStats) : Float :=
  if s.maxBytes = 0 then 0.0 else s.bytesUsed.toFloat / s.maxBytes.toFloat * 100.0

end BudgetStats

/-! ### Budgets -/

/-- Byte and entry accounting under two fixed limits. -/
structure Budget where
  /-- The byte limit. -/
  maxBytes : UInt64
  /-- The entry limit. -/
  maxCount : UInt64
  /-- The bytes in use. -/
  bytesUsed : UInt64
  /-- The entries in use. -/
  entries : UInt64
  deriving DecidableEq, Repr

namespace Budget

/-- A budget with nothing in use. The byte limit is at least `Limits.minVolatileBytes` and the
entry limit at least one. -/
def new (maxBytes maxCount : UInt64) : Budget where
  maxBytes := if maxBytes < Limits.minVolatileBytes then Limits.minVolatileBytes else maxBytes
  maxCount := if maxCount = 0 then 1 else maxCount
  bytesUsed := 0
  entries := 0

/-- The budget has room for `n` more bytes. -/
def canAllocate (b : Budget) (n : UInt64) : Bool := n ≤ saturatingSub b.maxBytes b.bytesUsed

/-- Takes `n` more bytes into use. -/
def allocate (b : Budget) (n : UInt64) : Except ContentError Budget :=
  if n = 0 then .ok b
  else (reserve b.bytesUsed n b.maxBytes).map fun used => { b with bytesUsed := used }

/-- Gives `n` bytes back, or all of them where fewer are in use. -/
def release (b : Budget) (n : UInt64) : Budget :=
  if n = 0 then b else { b with bytesUsed := saturatingSub b.bytesUsed n }

/-- Takes one more entry into use. -/
def admitEntry (b : Budget) : Except ContentError Budget :=
  (reserve b.entries 1 b.maxCount).map fun entries => { b with entries }

/-- Gives one entry back, if any is in use. -/
def retireEntry (b : Budget) : Budget := { b with entries := saturatingSub b.entries 1 }

/-- Accounts for a value whose length changes from `old` to `new`. -/
def adjust (b : Budget) (old new : UInt64) : Except ContentError Budget :=
  if old < new then b.allocate (new - old) else .ok (b.release (old - new))

/-- A reading of the budget. -/
def stats (b : Budget) : BudgetStats :=
  { maxBytes := b.maxBytes, bytesUsed := b.bytesUsed, maxCount := b.maxCount,
    entries := b.entries }

end Budget

end ClaimStore
