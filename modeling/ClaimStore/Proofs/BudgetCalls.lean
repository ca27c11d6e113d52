import ClaimStore.Store.Tables
import ClaimStore.Proofs.Counting
import ClaimStore.Proofs.SharedBudgets

/-!
# Calls on a budget

What callers can rely on who make any series of calls on a budget, with any limits and arguments.
The budget gives the answers of one that counts in natural numbers and holds the same numbers, it
keeps to its limits, it tells beforehand what can be allocated, and it can be shared. No sum and no
difference of words wraps on the way: the same calls are made on a machine that stops where one
does, and it never stops.

## Main definitions

* `Trapping.act`, `Trapping.run` — calls on a machine that stops where a word wraps.
* `Budget.Exact` — what a budget keeps to that was made with two limits.
* `Store.callBudget` — a series of calls on a budget of a store.

## Main results

* `Trapping.act_eq`, `Trapping.run_eq` — no call wraps a word, and no series of calls does.
* `Store.callBudget_eq` — a series of calls changes one budget, and nothing else.
* `Store.exactBudget_run` — a series of calls on a new budget.
-/

set_option autoImplicit false

namespace ClaimStore

/-! ### A machine that stops where a word wraps -/

namespace Trapping

/-- The sum of two words, unless it wraps. -/
def add (a b : UInt64) : Option UInt64 :=
  if a.toNat + b.toNat < 2 ^ 64 then some (a + b) else none

/-- The difference of two words, unless it wraps. -/
def sub (a b : UInt64) : Option UInt64 := if b.toNat ≤ a.toNat then some (a - b) else none

/-- The difference of two words, or zero where it would be negative. -/
def saturatingSub (a b : UInt64) : Option UInt64 := if b ≤ a then sub a b else some 0

/-- The counter `current` raised by `amount`, unless `limit` leaves less than that. -/
def reserve (current amount limit : UInt64) : Option (Except ContentError UInt64) :=
  (saturatingSub limit current).bind fun available =>
    if available < amount then some (.error (.capacityExceeded amount.toNat available.toNat))
    else (add current amount).map .ok

/-- Whether there is room for `n` more bytes. -/
def canAllocate (b : Budget) (n : UInt64) : Option Bool :=
  (saturatingSub b.maxBytes b.bytesUsed).map fun available => decide (n ≤ available)

/-- Takes `n` more bytes into use. -/
def allocate (b : Budget) (n : UInt64) : Option (Except ContentError Budget) :=
  if n = 0 then some (.ok b)
  else (reserve b.bytesUsed n b.maxBytes).map (·.map fun used => { b with bytesUsed := used })

/-- Gives `n` bytes back, or all of them where fewer are in use. -/
def release (b : Budget) (n : UInt64) : Option Budget :=
  if n = 0 then some b
  else (saturatingSub b.bytesUsed n).map fun used => { b with bytesUsed := used }

/-- Accounts for a value whose length changes from `old` to `new`. -/
def adjust (b : Budget) (old new : UInt64) : Option (Except ContentError Budget) :=
  if old < new then (sub new old).bind (allocate b)
  else ((sub old new).bind (release b)).map .ok

/-- Takes one more entry into use. -/
def admitEntry (b : Budget) : Option (Except ContentError Budget) :=
  (reserve b.entries 1 b.maxCount).map (·.map fun entries => { b with entries })

/-- Gives one entry back, if any is in use. -/
def retireEntry (b : Budget) : Option Budget :=
  (saturatingSub b.entries 1).map fun entries => { b with entries }

/-- What a call makes of a budget, unless it is refused. -/
def act : BudgetCall → Budget → Option (Except ContentError Budget)
  | .allocate n, b => allocate b n
  | .release n, b => (release b n).map .ok
  | .adjust old new, b => adjust b old new
  | .admitEntry, b => admitEntry b
  | .retireEntry, b => (retireEntry b).map .ok

/-- A budget after a series of calls, with the answers. -/
def run (b : Budget) : List BudgetCall → Option (Budget × List (Except ContentError Unit))
  | [] => some (b, [])
  | c :: calls =>
    (act c b).bind fun r =>
      (run (BudgetCall.settle b r).1 calls).map fun rest =>
        (rest.1, (BudgetCall.settle b r).2 :: rest.2)

/-- The subtraction that stops at zero never traps. -/
lemma saturatingSub_eq (a b : UInt64) :
    saturatingSub a b = some (ClaimStore.saturatingSub a b) := by
  unfold saturatingSub ClaimStore.saturatingSub
  split
  · next h => exact if_pos (UInt64.le_iff_toNat_le.1 h)
  · rfl

/-- **A reservation adds no more than there is room for**, so that the sum is never above the larger
of counter and limit. -/
lemma reserve_eq (current amount limit : UInt64) :
    reserve current amount limit = some (ClaimStore.reserve current amount limit) := by
  unfold reserve ClaimStore.reserve
  rw [saturatingSub_eq, Option.bind_some]
  split
  · rfl
  · next h =>
    have hroom : amount.toNat ≤ limit.toNat - current.toNat := by
      rwa [UInt64.lt_iff_toNat_lt, saturatingSub_toNat, Nat.not_lt] at h
    -- a counter above its limit leaves no room, and nothing is added to it
    have hcurrent := current.toNat_lt
    have hlimit := limit.toNat_lt
    rw [add, if_pos (by omega), Option.map_some]

/-- The question for room never traps. -/
lemma canAllocate_eq (b : Budget) (n : UInt64) : canAllocate b n = some (b.canAllocate n) := by
  rw [canAllocate, saturatingSub_eq]
  rfl

/-- An allocation never traps. -/
lemma allocate_eq (b : Budget) (n : UInt64) : allocate b n = some (b.allocate n) := by
  unfold allocate Budget.allocate
  rw [reserve_eq]
  split <;> rfl

/-- A release never traps. -/
lemma release_eq (b : Budget) (n : UInt64) : release b n = some (b.release n) := by
  unfold release Budget.release
  rw [saturatingSub_eq]
  split <;> rfl

/-- **The lengths are compared before one is taken from the other.** -/
lemma adjust_eq (b : Budget) (old new : UInt64) : adjust b old new = some (b.adjust old new) := by
  unfold adjust Budget.adjust
  by_cases hlt : old < new
  · have hle : old.toNat ≤ new.toNat := Nat.le_of_lt (UInt64.lt_iff_toNat_lt.1 hlt)
    rw [if_pos hlt, if_pos hlt, sub, if_pos hle, Option.bind_some, allocate_eq]
  · have hle : new.toNat ≤ old.toNat := UInt64.le_iff_toNat_le.1 (UInt64.not_lt.1 hlt)
    rw [if_neg hlt, if_neg hlt, sub, if_pos hle, Option.bind_some, release_eq]
    rfl

/-- The admission of an entry never traps. -/
lemma admitEntry_eq (b : Budget) : admitEntry b = some b.admitEntry := by
  rw [admitEntry, reserve_eq]
  rfl

/-- The retirement of an entry never traps. -/
lemma retireEntry_eq (b : Budget) : retireEntry b = some b.retireEntry := by
  rw [retireEntry, saturatingSub_eq]
  rfl

/-- **No call wraps a word**, whatever the budget holds. -/
lemma act_eq (c : BudgetCall) (b : Budget) : act c b = some (c.act b) := by
  cases c with
  | allocate n => exact allocate_eq b n
  | release n => exact congrArg (Option.map Except.ok) (release_eq b n)
  | adjust old new => exact adjust_eq b old new
  | admitEntry => exact admitEntry_eq b
  | retireEntry => exact congrArg (Option.map Except.ok) (retireEntry_eq b)

/-- **No series of calls wraps a word.** -/
lemma run_eq (b : Budget) (calls : List BudgetCall) : run b calls = some (b.run calls) := by
  induction calls generalizing b with
  | nil => rfl
  | cons c calls ih =>
    rw [run, act_eq, Option.bind_some, ih]
    rfl

end Trapping

/-! ### What callers can rely on -/

/-- **What a budget keeps to** that was made with two limits, whatever was called since then. -/
structure Budget.Exact (maxBytes maxCount : UInt64) (b : Budget) : Prop extends b.Within where
  /-- The byte limit is the one that was given, or the floor above it. -/
  maxBytes_eq : b.maxBytes.toNat = max 4096 maxBytes.toNat
  /-- So is the entry limit. -/
  maxCount_eq : b.maxCount.toNat = max 1 maxCount.toNat
  /-- An allocation is granted exactly where the limit leaves room for it. -/
  allocate_iff : ∀ n, (∃ b', b.allocate n = .ok b') ↔
    b.bytesUsed.toNat + n.toNat ≤ b.maxBytes.toNat
  /-- Whether it would be granted can be asked beforehand. -/
  canAllocate_iff : ∀ n, b.canAllocate n = true ↔ ∃ b', b.allocate n = .ok b'
  /-- The question wraps no word. -/
  canAllocate_unwrapped : ∀ n, Trapping.canAllocate b n = some (b.canAllocate n)
  /-- The budget can be shared from now on. -/
  shareable : b.Shareable

/-- **A new budget keeps to its limits** after every series of calls. -/
lemma Budget.exact_run (maxBytes maxCount : UInt64) (calls : List BudgetCall) :
    ((Budget.new maxBytes maxCount).run calls).1.Exact maxBytes maxCount := by
  obtain ⟨⟨hm, hc⟩, hb⟩ := run_limits (within_new maxBytes maxCount) calls
  obtain ⟨hm', hc'⟩ := limits_new maxBytes maxCount
  exact
    { toWithin := hb
      maxBytes_eq := by rw [hm, hm']
      maxCount_eq := by rw [hc, hc']
      allocate_iff := exists_allocate_iff hb
      canAllocate_iff := canAllocate_iff hb
      canAllocate_unwrapped := Trapping.canAllocate_eq _
      shareable := hb.shareable }

/-! ### Budgets that callers hold -/

namespace Store

variable {κ : Type} {s : Store κ} {name : BudgetName}

/-- There is a budget of this name. -/
def HasBudget (s : Store κ) : BudgetName → Prop
  | .free i => i < s.budgets.length
  | .ofTable t => t < s.tables.length

/-- A store after a series of calls on one of its budgets, with the answers. -/
def callBudget (s : Store κ) (name : BudgetName) (calls : List BudgetCall) :
    Store κ × List (Except Failure Unit) :=
  BudgetCall.series (fun s c => s.changeBudget name c.act) s calls

/-- A budget that was put in place is there. -/
lemma budget_setBudget (h : s.HasBudget name) (b : Budget) :
    (s.setBudget name b).budget name = b := by
  cases name with
  | free i =>
    have hi : i < s.budgets.length := h
    unfold setBudget budget
    dsimp only
    rw [List.getElem?_set_self hi]
  | ofTable t => exact congrArg EntryTable.budget (table_setTable_self h _)

/-- A budget is put in place of the one before it. -/
lemma setBudget_setBudget (h : s.HasBudget name) (b b' : Budget) :
    (s.setBudget name b).setBudget name b' = s.setBudget name b' := by
  cases name with
  | free i =>
    unfold setBudget
    dsimp only
    rw [List.set_set]
  | ofTable t =>
    unfold setBudget
    dsimp only
    rw [table_setTable_self h]
    unfold setTable
    dsimp only
    rw [List.set_set]

/-- A budget that is put in its own place changes nothing. -/
lemma setBudget_budget (h : s.HasBudget name) : s.setBudget name (s.budget name) = s := by
  cases name with
  | free i =>
    have hi : i < s.budgets.length := h
    unfold setBudget budget
    dsimp only
    rw [List.getElem?_eq_getElem hi]
    dsimp only
    rw [List.set_getElem_self]
  | ofTable t =>
    have ht : t < s.tables.length := h
    unfold setBudget budget setTable table
    dsimp only
    rw [List.getElem?_eq_getElem ht]
    dsimp only
    rw [List.set_getElem_self]

/-- **A series of calls changes one budget**, as it changes the budget by itself, and nothing else
in the store. -/
lemma callBudget_eq (h : s.HasBudget name) (calls : List BudgetCall) :
    s.callBudget name calls = (s.setBudget name ((s.budget name).run calls).1,
      ((s.budget name).run calls).2.map (.mapError Failure.content)) := by
  -- the store goes along with the budget: it is always `s` with that budget in place
  have hstep : ∀ (b : Budget) (c : BudgetCall), True →
      (s.setBudget name b).changeBudget name c.act =
        (s.setBudget name (b.step c).1, (b.step c).2.mapError Failure.content) := by
    intro b c _
    unfold changeBudget
    rw [budget_setBudget h, Budget.step]
    cases c.act b with
    | error x => rfl
    | ok b' => exact congrArg (·, _) (setBudget_setBudget h b b')
  have hseries := BudgetCall.series_map Budget.step (fun s c => s.changeBudget name c.act)
    (s.setBudget name) (Except.mapError Failure.content) (fun _ _ _ => trivial) hstep
    (s := s.budget name) trivial calls
  rwa [setBudget_budget h] at hseries

/-- A budget that was added is there, and new. -/
lemma hasBudget_addBudget (s : Store κ) (maxBytes maxCount : UInt64) :
    (s.addBudget maxBytes maxCount).1.HasBudget (s.addBudget maxBytes maxCount).2 ∧
      (s.addBudget maxBytes maxCount).1.budget (s.addBudget maxBytes maxCount).2 =
        .new maxBytes maxCount := by
  refine ⟨?_, ?_⟩
  · show s.budgets.length < (s.budgets ++ [_]).length
    rw [List.length_append]
    exact Nat.lt_succ_self _
  · unfold addBudget budget
    dsimp only
    rw [List.getElem?_concat_length]

/-- **A series of calls on a new budget**, with any limits and arguments. It gives the answers of a
budget in natural numbers and holds the same numbers, no word wraps on the way, the budget keeps to
its limits, and nothing else changes in the store that it belongs to. -/
theorem exactBudget_run (s : Store κ) (maxBytes maxCount : UInt64) (calls : List BudgetCall) :
    let b := Budget.new maxBytes maxCount
    let made := s.addBudget maxBytes maxCount
    (Allowances.new maxBytes.toNat maxCount.toNat).run calls =
        ((b.run calls).1.allowances, (b.run calls).2) ∧
      Trapping.run b calls = some (b.run calls) ∧
      (b.run calls).1.Exact maxBytes maxCount ∧
      made.1.callBudget made.2 calls =
        (made.1.setBudget made.2 (b.run calls).1,
          (b.run calls).2.map (.mapError Failure.content)) := by
  intro b made
  obtain ⟨hname, hnew⟩ := s.hasBudget_addBudget maxBytes maxCount
  refine ⟨?_, Trapping.run_eq b calls, Budget.exact_run maxBytes maxCount calls, ?_⟩
  · rw [← Budget.allowances_new]
    exact Budget.allowances_run (Budget.within_new maxBytes maxCount) calls
  · have hcalls := callBudget_eq hname calls
    rwa [hnew] at hcalls

/-- Next to the largest word the second allocation does not fit, and is told that one byte is left;
giving back more than is in use leaves nothing. -/
example : ((Budget.new 0xFFFFFFFFFFFFFFFF 0).run [.allocate 0xFFFFFFFFFFFFFFFE, .allocate 2,
    .adjust 0xFFFFFFFFFFFFFFFF 0, .admitEntry, .admitEntry]).2 =
      [.ok (), .error (.capacityExceeded 2 1), .ok (), .ok (),
        .error (.capacityExceeded 1 0)] := by
  decide

end Store

end ClaimStore
