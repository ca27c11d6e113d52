import Mathlib.Logic.Function.Basic
import ClaimStore.Proofs.Allowances

/-!
# Budgets that callers share

Several callers make calls on one budget at the same time. A call changes at most one counter, in a
loop: the counter is read, what it is to become is computed from that, and is put in its place in
one step if the counter still holds what was read. If it does not, or if the exchange fails for no
reason, the loop begins anew. The reads and exchanges of all callers follow each other in any order.

Whatever the order is, the calls that ended did to the budget, and answered, what they do and answer
one after the other in the order in which they ended: no change is lost, and what holds of series of
calls holds of shared budgets.

## Main definitions

* `ClaimStore.CounterChange`, `BudgetCall.change` — what a call does to its counter.
* `ClaimStore.SharedBudget`, `ClaimStore.SharedMove`, `SharedBudget.run` — callers in their loops.
* `SharedBudget.Serial` — the calls that ended are a series.
* `Budget.Shareable` — what callers can rely on who share a budget.

## Main results

* `BudgetCall.act_eq` — a call, by what it does to its counter.
* `SharedBudget.Serial.step`, `SharedBudget.Serial.run` — one move, and all moves.
* `SharedBudget.run_alone` — a call with which no other interferes ends.
* `Budget.Within.shareable` — a budget that keeps to its limits can be shared.

## Design

A read and an exchange are one move each, and all moves have one order. Machines promise such an
order for each place in memory, and a call touches one counter only; how accesses to the counters
are ordered with those to anything else is not part of this. A loop that is disturbed again and
again need not end.
-/

set_option autoImplicit false

namespace ClaimStore

/-! ### Changes of one counter -/

/-- One of the two counters of a budget. -/
inductive BudgetCounter where
  /-- The bytes in use. -/
  | bytes
  /-- The entries in use. -/
  | entries
  deriving DecidableEq, Repr

/-- **What a call does to its counter.** -/
inductive CounterChange where
  /-- Raises it by `amount`, unless `limit` leaves less than that. -/
  | raise (amount limit : UInt64)
  /-- Lowers it by `amount`, or to zero. -/
  | lower (amount : UInt64)
  deriving DecidableEq, Repr

/-- What a counter is to become that was read as `seen`. -/
def CounterChange.next (seen : UInt64) : CounterChange → Except ContentError UInt64
  | .raise amount limit => reserve seen amount limit
  | .lower amount => .ok (saturatingSub seen amount)

/-- Bytes are raised by any amount but zero. -/
def CounterChange.raising? (amount limit : UInt64) : Option CounterChange :=
  if amount = 0 then none else some (.raise amount limit)

/-- They are lowered by any amount but zero. -/
def CounterChange.lowering? (amount : UInt64) : Option CounterChange :=
  if amount = 0 then none else some (.lower amount)

namespace Budget

/-- A counter. -/
def word (b : Budget) : BudgetCounter → UInt64
  | .bytes => b.bytesUsed
  | .entries => b.entries

/-- Puts another number in the place of a counter. -/
def setWord (b : Budget) (k : BudgetCounter) (w : UInt64) : Budget :=
  match k with
  | .bytes => { b with bytesUsed := w }
  | .entries => { b with entries := w }

/-- A budget whose counter `k` changes, if it does. -/
def changeWord (b : Budget) (k : BudgetCounter) : Option CounterChange → Except ContentError Budget
  | none => .ok b
  | some x => (x.next (b.word k)).map (b.setWord k)

/-- An allocation is a change of the bytes. -/
lemma allocate_eq_changeWord (b : Budget) (n : UInt64) :
    b.allocate n = b.changeWord .bytes (CounterChange.raising? n b.maxBytes) := by
  unfold allocate CounterChange.raising?
  split <;> rfl

/-- A release is a change of the bytes, which never fails. -/
lemma release_eq_changeWord (b : Budget) (n : UInt64) :
    .ok (b.release n) = b.changeWord .bytes (CounterChange.lowering? n) := by
  unfold release CounterChange.lowering?
  split <;> rfl

end Budget

namespace BudgetCall

/-- The counter that a call changes. -/
def counter : BudgetCall → BudgetCounter
  | .allocate _ | .release _ | .adjust .. => .bytes
  | .admitEntry | .retireEntry => .entries

/-- What a call does to its counter, if anything. -/
def change (b : Budget) : BudgetCall → Option CounterChange
  | .allocate n => CounterChange.raising? n b.maxBytes
  | .release n => CounterChange.lowering? n
  | .adjust old new =>
    if old < new then CounterChange.raising? (new - old) b.maxBytes
    else CounterChange.lowering? (old - new)
  | .admitEntry => some (.raise 1 b.maxCount)
  | .retireEntry => some (.lower 1)

/-- **A call changes its counter**, and nothing else. -/
lemma act_eq (b : Budget) (c : BudgetCall) : c.act b = b.changeWord c.counter (c.change b) := by
  cases c with
  | allocate n => exact b.allocate_eq_changeWord n
  | release n => exact b.release_eq_changeWord n
  | adjust old new =>
    unfold act Budget.adjust change counter
    dsimp only
    split
    · exact b.allocate_eq_changeWord _
    · exact b.release_eq_changeWord _
  | admitEntry => rfl
  | retireEntry => rfl

/-- What a call does to its counter depends on the limits only. -/
lemma change_congr {b b' : Budget} (h : b.SameLimits b') (c : BudgetCall) :
    c.change b' = c.change b := by
  unfold change
  rw [h.1, h.2]

end BudgetCall

/-! ### Callers in their loops -/

/-- **A call that has not ended.** -/
structure Attempt where
  /-- The call. -/
  call : BudgetCall
  /-- What it does to its counter. -/
  change : CounterChange
  /-- What the counter was read as, and what it is to become; nothing at the top of the loop. -/
  read? : Option (UInt64 × UInt64)

/-- It is going to do what the call does to a budget with the limits of `b`. -/
structure Attempt.Sound (b : Budget) (a : Attempt) : Prop where
  /-- What it does to its counter is what the call does. -/
  change_eq : a.call.change b = some a.change
  /-- What it is to put in place was computed from what it read. -/
  next_eq : ∀ seen w, a.read? = some (seen, w) → a.change.next seen = .ok w

/-- **A budget with its callers.** -/
structure SharedBudget where
  /-- The budget. -/
  budget : Budget
  /-- The calls that have not ended, by their callers. -/
  callers : Nat → Option Attempt
  /-- The calls that ended, oldest first, with their answers. -/
  ended : List (BudgetCall × Except ContentError Unit)

/-- **Something that a caller does next.** -/
inductive SharedMove where
  /-- Begins a call. -/
  | enter (caller : Nat) (c : BudgetCall)
  /-- Reads the counter. -/
  | load (caller : Nat)
  /-- Tries to put in place what it computed, which may fail for no reason. -/
  | exchange (caller : Nat) (fails : Bool)

namespace SharedBudget

/-- A budget on which nobody made a call. -/
def new (b : Budget) : SharedBudget := ⟨b, fun _ => none, []⟩

/-- The call of a caller goes on. -/
def attempt (u : SharedBudget) (i : Nat) (a : Attempt) : SharedBudget :=
  { u with callers := Function.update u.callers i (some a) }

/-- The call of a caller ends, with the budget that it leaves and its answer. -/
def finish (u : SharedBudget) (i : Nat) (c : BudgetCall) (b : Budget)
    (answer : Except ContentError Unit) : SharedBudget where
  budget := b
  callers := Function.update u.callers i none
  ended := u.ended ++ [(c, answer)]

/-- A call that does nothing to its counter ends at once. -/
def enter (u : SharedBudget) (i : Nat) (c : BudgetCall) : SharedBudget :=
  match u.callers i with
  | some _ => u
  | none =>
    match c.change u.budget with
    | none => u.finish i c u.budget (.ok ())
    | some x => u.attempt i ⟨c, x, none⟩

/-- A call that is refused ends when it has read its counter. -/
def load (u : SharedBudget) (i : Nat) : SharedBudget :=
  match u.callers i with
  | none | some ⟨_, _, some _⟩ => u
  | some ⟨c, x, none⟩ =>
    match x.next (u.budget.word c.counter) with
    | .error e => u.finish i c u.budget (.error e)
    | .ok w => u.attempt i ⟨c, x, some (u.budget.word c.counter, w)⟩

/-- Any other call ends when its counter was exchanged. -/
def exchange (u : SharedBudget) (i : Nat) (fails : Bool) : SharedBudget :=
  match u.callers i with
  | none | some ⟨_, _, none⟩ => u
  | some ⟨c, x, some (seen, w)⟩ =>
    if fails = false ∧ u.budget.word c.counter = seen then
      u.finish i c (u.budget.setWord c.counter w) (.ok ())
    else u.attempt i ⟨c, x, none⟩

/-- The budget after a move. -/
def step (u : SharedBudget) : SharedMove → SharedBudget
  | .enter i c => u.enter i c
  | .load i => u.load i
  | .exchange i fails => u.exchange i fails

/-- The budget after moves, one after the other. -/
def run (u : SharedBudget) (moves : List SharedMove) : SharedBudget := moves.foldl step u

/-! ### The calls that ended -/

/-- **The calls that ended are a series**: made on `b` one after the other, in the order in which
they ended, they leave the budget that there is, and give the answers that were given. -/
structure Serial (b : Budget) (u : SharedBudget) : Prop where
  /-- The calls that ended, as a series. -/
  run_ended : b.run (u.ended.map Prod.fst) = (u.budget, u.ended.map Prod.snd)
  /-- The calls that have not ended. -/
  attempts : ∀ i a, u.callers i = some a → a.Sound b

variable {b b' : Budget} {u : SharedBudget} {i j : Nat} {c : BudgetCall} {a a' : Attempt}

/-- Nothing ended on a budget on which nobody made a call. -/
lemma serial_new (b : Budget) : (new b).Serial b where
  run_ended := rfl
  attempts i a h := by cases h

/-- A call that ends leaves the others as they are. -/
lemma callers_finish {answer : Except ContentError Unit}
    (h : (u.finish i c b' answer).callers j = some a) : u.callers j = some a := by
  by_cases hj : j = i
  · subst hj
    rw [show (u.finish j c b' answer).callers j = none from Function.update_self ..] at h
    cases h
  · rwa [show (u.finish i c b' answer).callers j = u.callers j from
      Function.update_of_ne hj ..] at h

/-- So does one that goes on. -/
lemma callers_attempt (h : (u.attempt i a).callers j = some a') :
    a' = a ∨ u.callers j = some a' := by
  by_cases hj : j = i
  · subst hj
    rw [show (u.attempt j a).callers j = some a from Function.update_self ..] at h
    exact .inl (Option.some.inj h).symm
  · rw [show (u.attempt i a).callers j = u.callers j from Function.update_of_ne hj ..] at h
    exact .inr h

namespace Serial

/-- The budget has the limits that it had at first. -/
lemma limits (h : u.Serial b) (hb : b.Within) : b.SameLimits u.budget := by
  have hrun := Budget.run_limits hb (u.ended.map Prod.fst)
  rw [h.run_ended] at hrun
  exact hrun.1

/-- What a call does, as computed now, is what it was computed to do. -/
lemma change_eq (h : u.Serial b) (hb : b.Within) (c : BudgetCall) :
    c.change u.budget = c.change b :=
  BudgetCall.change_congr (h.limits hb) c

/-- **A call that ends as it does by itself** comes last in the series. -/
lemma finish (h : u.Serial b) {answer : Except ContentError Unit}
    (hstep : u.budget.step c = (b', answer)) : (u.finish i c b' answer).Serial b where
  run_ended := by
    have hrun := Budget.run_concat b (u.ended.map Prod.fst) c
    rw [h.run_ended, hstep] at hrun
    simpa [SharedBudget.finish] using hrun
  attempts j a hj := h.attempts j a (callers_finish hj)

/-- A call that goes on leaves the series as it is. -/
lemma attempt (h : u.Serial b) (ha : a.Sound b) : (u.attempt i a).Serial b where
  run_ended := h.run_ended
  attempts j a' hj := by
    obtain rfl | hj := callers_attempt hj
    · exact ha
    · exact h.attempts j a' hj

/-- A call that begins leaves a series: it has not ended, or it ended at once. -/
lemma enter (h : u.Serial b) (hb : b.Within) (i : Nat) (c : BudgetCall) :
    (u.enter i c).Serial b := by
  unfold SharedBudget.enter
  cases u.callers i with
  | some a => exact h
  | none =>
    cases hx : c.change u.budget with
    | none =>
      -- an amount of zero: the counter is not even read
      refine h.finish ?_
      rw [Budget.step, BudgetCall.act_eq, hx]
      rfl
    | some x => exact h.attempt ⟨by rw [← h.change_eq hb, hx], fun _ _ hr => by cases hr⟩

/-- **The answer of a call that is refused** is the one it gives at the moment of the read. -/
lemma load (h : u.Serial b) (hb : b.Within) (i : Nat) : (u.load i).Serial b := by
  unfold SharedBudget.load
  split
  · exact h
  · exact h
  · next c x hi =>
    have ha := h.attempts i _ hi
    cases hw : x.next (u.budget.word c.counter) with
    | error e =>
      refine h.finish ?_
      rw [Budget.step, BudgetCall.act_eq, h.change_eq hb, ha.change_eq, Budget.changeWord, hw]
      rfl
    | ok w =>
      refine h.attempt ⟨ha.change_eq, fun seen w' hr => ?_⟩
      cases hr
      exact hw

/-- **A counter is exchanged only if it holds what was read**, whatever it held in the meantime; so
the call does what it does at the moment of the exchange. -/
lemma exchange (h : u.Serial b) (hb : b.Within) (i : Nat) (fails : Bool) :
    (u.exchange i fails).Serial b := by
  unfold SharedBudget.exchange
  split
  · exact h
  · exact h
  · next c x seen w hi =>
    have ha := h.attempts i _ hi
    split
    · next hseen =>
      -- what was read is there now, so that what was computed is what the call computes now
      refine h.finish ?_
      rw [Budget.step, BudgetCall.act_eq, h.change_eq hb, ha.change_eq, Budget.changeWord,
        hseen.2, ha.next_eq seen w rfl]
      rfl
    · exact h.attempt ⟨ha.change_eq, fun _ _ hr => by cases hr⟩

/-- **One move.** -/
lemma step (h : u.Serial b) (hb : b.Within) (m : SharedMove) : (u.step m).Serial b := by
  cases m with
  | enter i c => exact h.enter hb i c
  | load i => exact h.load hb i
  | exchange i fails => exact h.exchange hb i fails

/-- **All moves.** -/
lemma run (h : u.Serial b) (hb : b.Within) (moves : List SharedMove) :
    (u.run moves).Serial b := by
  induction moves generalizing u with
  | nil => exact h
  | cons m moves ih => exact ih (h.step hb m)

end Serial

/-! ### Calls with which no other interferes -/

/-- A caller whose call ended has nothing to read. -/
lemma load_finish (u : SharedBudget) (i : Nat) (c : BudgetCall) (b : Budget)
    (answer : Except ContentError Unit) :
    (u.finish i c b answer).load i = u.finish i c b answer := by
  have hi : (u.finish i c b answer).callers i = none := Function.update_self ..
  rw [load, hi]

/-- Nor has it anything to exchange. -/
lemma exchange_finish (u : SharedBudget) (i : Nat) (c : BudgetCall) (b : Budget)
    (answer : Except ContentError Unit) :
    (u.finish i c b answer).exchange i false = u.finish i c b answer := by
  have hi : (u.finish i c b answer).callers i = none := Function.update_self ..
  rw [exchange, hi]

/-- A call at the top of its loop reads its counter. -/
lemma load_attempt (u : SharedBudget) (i : Nat) (c : BudgetCall) (x : CounterChange) :
    (u.attempt i ⟨c, x, none⟩).load i = match x.next (u.budget.word c.counter) with
      | .error e => u.finish i c u.budget (.error e)
      | .ok w => u.attempt i ⟨c, x, some (u.budget.word c.counter, w)⟩ := by
  have hi : (u.attempt i ⟨c, x, none⟩).callers i = some ⟨c, x, none⟩ := Function.update_self ..
  rw [load, hi]
  dsimp only [attempt]
  cases x.next (u.budget.word c.counter) with
  | error e =>
    dsimp only [finish]
    rw [Function.update_idem]
  | ok w =>
    dsimp only
    rw [Function.update_idem]

/-- A call ends when it exchanges a counter that still holds what was read. -/
lemma exchange_attempt (u : SharedBudget) (i : Nat) (c : BudgetCall) (x : CounterChange)
    (w : UInt64) :
    (u.attempt i ⟨c, x, some (u.budget.word c.counter, w)⟩).exchange i false =
      u.finish i c (u.budget.setWord c.counter w) (.ok ()) := by
  have hi : (u.attempt i ⟨c, x, some (u.budget.word c.counter, w)⟩).callers i =
      some ⟨c, x, some (u.budget.word c.counter, w)⟩ := Function.update_self ..
  rw [exchange, hi]
  refine (if_pos ⟨rfl, rfl⟩).trans ?_
  dsimp only [attempt, finish]
  rw [Function.update_idem]

/-- **A call with which no other interferes ends** after one round of its loop, and does what it
does by itself. -/
lemma run_alone (hi : u.callers i = none) (c : BudgetCall) :
    u.run [.enter i c, .load i, .exchange i false] =
      u.finish i c (u.budget.step c).1 (u.budget.step c).2 := by
  show ((u.enter i c).load i).exchange i false = _
  rw [enter, hi, Budget.step, BudgetCall.act_eq]
  dsimp only
  cases c.change u.budget with
  | none =>
    dsimp only
    rw [load_finish, exchange_finish]
    rfl
  | some x =>
    dsimp only [Budget.changeWord]
    rw [load_attempt]
    cases x.next (u.budget.word c.counter) with
    | error e => exact exchange_finish ..
    | ok w => exact exchange_attempt ..

end SharedBudget

/-- **What callers can rely on who share a budget.** -/
structure Budget.Shareable (b : Budget) : Prop where
  /-- Whatever the callers do, and in whatever order, the calls that ended are a series. -/
  serial : ∀ moves, b.run (((SharedBudget.new b).run moves).ended.map Prod.fst) =
    (((SharedBudget.new b).run moves).budget, ((SharedBudget.new b).run moves).ended.map Prod.snd)
  /-- A caller whose loop is not disturbed ends its call, at any time. -/
  ends : ∀ (u : SharedBudget) i c, u.callers i = none →
    u.run [.enter i c, .load i, .exchange i false] =
      u.finish i c (u.budget.step c).1 (u.budget.step c).2

/-- **A budget that keeps to its limits can be shared.** -/
lemma Budget.Within.shareable {b : Budget} (hb : b.Within) : b.Shareable where
  serial moves := ((SharedBudget.serial_new b).run hb moves).run_ended
  ends _ _ c hi := SharedBudget.run_alone hi c

end ClaimStore
