import ClaimStore.Proofs.Budget

/-!
# Budgets in natural numbers

A budget counts in 64-bit words. Beside it stands one that counts in natural numbers, in which
nothing can wrap. Whatever series of calls is made on both, they give the same answers and hold the
same numbers.

## Main definitions

* `ClaimStore.Allowance`, `ClaimStore.Allowances` — a counter under a limit, and a budget of two.
* `ClaimStore.BudgetCall`, `BudgetCall.series` — calls, and series of them.
* `Budget.allowances` — what a budget holds, in natural numbers.

## Main results

* `Allowance.take_ofWords`, `Allowance.giveBack_ofWords` — counters of words.
* `Budget.allowances_act` — one call, in words and in natural numbers.
* `Budget.allowances_run` — a series of calls, in words and in natural numbers.
* `Budget.canAllocate_iff` — what can be allocated.
-/

set_option autoImplicit false

namespace ClaimStore

/-! ### Counting in natural numbers -/

/-- A counter of what is in use under a limit. -/
structure Allowance where
  /-- The most that may be in use. -/
  limit : Nat
  /-- What is in use. -/
  used : Nat
  deriving DecidableEq, Repr

namespace Allowance

/-- Takes `n` more into use. What would pass the limit is refused, with what was asked for and what
is left. -/
def take (a : Allowance) (n : Nat) : Except ContentError Allowance :=
  if a.used + n ≤ a.limit then .ok { a with used := a.used + n }
  else .error (.capacityExceeded n (a.limit - a.used))

/-- Gives `n` back, or all that is in use where that is less. -/
def giveBack (a : Allowance) (n : Nat) : Allowance := { a with used := a.used - min n a.used }

/-- Two words as a limit and what is in use under it. -/
def ofWords (limit used : UInt64) : Allowance := ⟨limit.toNat, used.toNat⟩

variable {limit used : UInt64}

/-- Nothing more can always be taken, where the limit is kept. -/
lemma take_zero {a : Allowance} (ha : a.used ≤ a.limit) : a.take 0 = .ok a := if_pos ha

/-- Nothing that is given back changes nothing. -/
lemma giveBack_zero (a : Allowance) : a.giveBack 0 = a := by
  rw [giveBack, Nat.zero_min, Nat.sub_zero]

/-- **A reservation of words** is granted and refused as one of natural numbers is. -/
lemma take_ofWords (hused : used.toNat ≤ limit.toNat) (amount : UInt64) :
    (ofWords limit used).take amount.toNat = (reserve used amount limit).map (ofWords limit) := by
  cases hr : reserve used amount limit with
  | ok next =>
    obtain ⟨hnext, hle⟩ := reserve_toNat hused hr
    have hroom : used.toNat + amount.toNat ≤ limit.toNat := hnext ▸ hle
    rw [Except.map, ofWords, ofWords, hnext]
    exact if_pos hroom
  | error x =>
    obtain ⟨rfl, hlt⟩ := Budget.reserve_report hr
    have hfull : ¬ used.toNat + amount.toNat ≤ limit.toNat := by omega
    exact if_neg hfull

/-- **A difference of words that stops at zero** gives back what one of natural numbers does. -/
lemma giveBack_ofWords (limit used amount : UInt64) :
    (ofWords limit used).giveBack amount.toNat = ofWords limit (saturatingSub used amount) := by
  rw [ofWords, ofWords, saturatingSub_toNat, Nat.sub_eq_sub_min, Nat.min_comm]
  rfl

end Allowance

/-- **A budget in natural numbers.** -/
structure Allowances where
  /-- The bytes. -/
  bytes : Allowance
  /-- The entries. -/
  entries : Allowance
  deriving DecidableEq, Repr

namespace Allowances

/-- Nothing is in use. The byte limit is at least 4096 and the entry limit at least one. -/
def new (maxBytes maxCount : Nat) : Allowances := ⟨⟨max 4096 maxBytes, 0⟩, ⟨max 1 maxCount, 0⟩⟩

/-- Takes `n` more bytes into use. -/
def allocate (a : Allowances) (n : Nat) : Except ContentError Allowances :=
  (a.bytes.take n).map fun bytes => { a with bytes }

/-- Gives `n` bytes back, or all of them. -/
def release (a : Allowances) (n : Nat) : Allowances := { a with bytes := a.bytes.giveBack n }

/-- Takes as many bytes into use as a value grows by, or gives back those by which it shrinks. -/
def adjust (a : Allowances) (old new : Nat) : Except ContentError Allowances :=
  if old < new then a.allocate (new - old) else .ok (a.release (old - new))

/-- Takes one more entry into use. -/
def admitEntry (a : Allowances) : Except ContentError Allowances :=
  (a.entries.take 1).map fun entries => { a with entries }

/-- Gives one entry back, if any is in use. -/
def retireEntry (a : Allowances) : Allowances := { a with entries := a.entries.giveBack 1 }

end Allowances

/-! ### Calls -/

/-- **Something that is asked of a budget.** -/
inductive BudgetCall where
  /-- `n` more bytes are taken into use. -/
  | allocate (n : UInt64)
  /-- `n` bytes are given back. -/
  | release (n : UInt64)
  /-- The length of a value changes. -/
  | adjust (old new : UInt64)
  /-- One more entry is taken into use. -/
  | admitEntry
  /-- One entry is given back. -/
  | retireEntry
  deriving DecidableEq, Repr

namespace BudgetCall

/-- What a call makes of a budget, unless it is refused. -/
def act : BudgetCall → Budget → Except ContentError Budget
  | .allocate n, b => b.allocate n
  | .release n, b => .ok (b.release n)
  | .adjust old new, b => b.adjust old new
  | .admitEntry, b => b.admitEntry
  | .retireEntry, b => .ok b.retireEntry

/-- What it makes of a budget in natural numbers. -/
def count : BudgetCall → Allowances → Except ContentError Allowances
  | .allocate n, a => a.allocate n.toNat
  | .release n, a => .ok (a.release n.toNat)
  | .adjust old new, a => a.adjust old.toNat new.toNat
  | .admitEntry, a => a.admitEntry
  | .retireEntry, a => .ok a.retireEntry

section Series

variable {σ τ α β : Type}

/-- What there is after a call that may be refused, with the answer. A refusal changes nothing. -/
def settle (s : σ) : Except ContentError σ → σ × Except ContentError Unit
  | .error x => (s, .error x)
  | .ok s' => (s', .ok ())

/-- What there is after calls that are made one after the other, with the answers. -/
def series (step : σ → BudgetCall → σ × α) : σ → List BudgetCall → σ × List α
  | s, [] => (s, [])
  | s, c :: calls =>
    let rest := series step (step s c).1 calls
    (rest.1, (step s c).2 :: rest.2)

/-- **Series that go alike**: if each call does on one side what it does on the other, so does every
series. -/
lemma series_map (step : σ → BudgetCall → σ × α) (step' : τ → BudgetCall → τ × β) (f : σ → τ)
    (g : α → β) {P : σ → Prop} (hkeep : ∀ s c, P s → P (step s c).1)
    (hstep : ∀ s c, P s → step' (f s) c = (f (step s c).1, g (step s c).2)) {s : σ} (hs : P s)
    (calls : List BudgetCall) :
    series step' (f s) calls =
      (f (series step s calls).1, (series step s calls).2.map g) := by
  -- for every state that is kept, so that the calls after the first go on from where it leads
  induction calls generalizing s with
  | nil => rfl
  | cons c calls ih => simp only [series, hstep s c hs, ih (hkeep s c hs), List.map_cons]

/-- What every call keeps holds after every series. -/
lemma series_induction {step : σ → BudgetCall → σ × α} {P : σ → Prop}
    (hkeep : ∀ s c, P s → P (step s c).1) {s : σ} (hs : P s) (calls : List BudgetCall) :
    P (series step s calls).1 := by
  induction calls generalizing s with
  | nil => exact hs
  | cons c calls ih => exact ih (hkeep s c hs)

/-- One more call after a series. -/
lemma series_concat (step : σ → BudgetCall → σ × α) (s : σ) (calls : List BudgetCall)
    (c : BudgetCall) :
    series step s (calls ++ [c]) = ((step (series step s calls).1 c).1,
      (series step s calls).2 ++ [(step (series step s calls).1 c).2]) := by
  induction calls generalizing s with
  | nil => rfl
  | cons c' calls ih => simp only [List.cons_append, series, ih]

end Series

end BudgetCall

/-- A budget in natural numbers after a series of calls, with the answers. -/
def Allowances.run (a : Allowances) (calls : List BudgetCall) :
    Allowances × List (Except ContentError Unit) :=
  BudgetCall.series (fun a c => BudgetCall.settle a (c.count a)) a calls

namespace Budget

/-- A budget after a call, with the answer. -/
def step (b : Budget) (c : BudgetCall) : Budget × Except ContentError Unit :=
  BudgetCall.settle b (c.act b)

/-- A budget after a series of calls, with the answers. -/
def run (b : Budget) (calls : List BudgetCall) : Budget × List (Except ContentError Unit) :=
  BudgetCall.series step b calls

/-- One more call after a series. -/
lemma run_concat (b : Budget) (calls : List BudgetCall) (c : BudgetCall) :
    b.run (calls ++ [c]) =
      (((b.run calls).1.step c).1, (b.run calls).2 ++ [((b.run calls).1.step c).2]) :=
  BudgetCall.series_concat step b calls c

/-- What a budget holds, in natural numbers. -/
def allowances (b : Budget) : Allowances :=
  ⟨.ofWords b.maxBytes b.bytesUsed, .ofWords b.maxCount b.entries⟩

/-! ### Words that count as natural numbers do -/

variable {b b' : Budget}

/-- An allocation on machine words is the one on numbers, failures included. -/
lemma allowances_allocate (hb : b.Within) (n : UInt64) :
    b.allowances.allocate n.toNat = (b.allocate n).map allowances := by
  unfold Allowances.allocate allocate
  split
  · next hn =>
    subst hn
    rw [show b.allowances.bytes.take (0 : UInt64).toNat = .ok b.allowances.bytes from
      Allowance.take_zero hb.bytes_le]
    rfl
  · rw [show b.allowances.bytes.take n.toNat = _ from Allowance.take_ofWords hb.bytes_le n]
    cases reserve b.bytesUsed n b.maxBytes <;> rfl

/-- A release on machine words is the one on numbers. -/
lemma allowances_release (b : Budget) (n : UInt64) :
    b.allowances.release n.toNat = (b.release n).allowances := by
  unfold Allowances.release release
  split
  · next hn =>
    subst hn
    rw [show b.allowances.bytes.giveBack (0 : UInt64).toNat = b.allowances.bytes from
      Allowance.giveBack_zero _]
  · rw [show b.allowances.bytes.giveBack n.toNat = _ from Allowance.giveBack_ofWords _ _ n]
    rfl

/-- **A change of length**, on either side. The difference is one of natural numbers. -/
lemma allowances_adjust (hb : b.Within) (old new : UInt64) :
    b.allowances.adjust old.toNat new.toNat = (b.adjust old new).map allowances := by
  unfold adjust Allowances.adjust
  by_cases hlt : old < new
  · rw [if_pos hlt, if_pos (UInt64.lt_iff_toNat_lt.1 hlt), ← allowances_allocate hb,
      UInt64.toNat_sub_of_le _ _ (UInt64.le_of_lt hlt)]
  · rw [if_neg hlt, if_neg (UInt64.lt_iff_toNat_lt.not.1 hlt), Except.map, ← allowances_release,
      UInt64.toNat_sub_of_le _ _ (UInt64.not_lt.1 hlt)]

/-- An entry is admitted on machine words exactly where it is on numbers. -/
lemma allowances_admitEntry (hb : b.Within) :
    b.allowances.admitEntry = b.admitEntry.map allowances := by
  unfold Allowances.admitEntry admitEntry
  rw [show b.allowances.entries.take 1 = _ from Allowance.take_ofWords hb.entries_le 1]
  cases reserve b.entries 1 b.maxCount <;> rfl

/-- An entry is retired on machine words as on numbers. -/
lemma allowances_retireEntry (b : Budget) :
    b.allowances.retireEntry = b.retireEntry.allowances := by
  unfold Allowances.retireEntry
  rw [show b.allowances.entries.giveBack 1 = _ from Allowance.giveBack_ofWords _ _ 1]
  rfl

/-- **A call counts in words as it does in natural numbers.** -/
lemma allowances_act (hb : b.Within) (c : BudgetCall) :
    c.count b.allowances = (c.act b).map allowances := by
  cases c with
  | allocate n => exact allowances_allocate hb n
  | release n => exact congrArg Except.ok (b.allowances_release n)
  | adjust old new => exact allowances_adjust hb old new
  | admitEntry => exact allowances_admitEntry hb
  | retireEntry => exact congrArg Except.ok b.allowances_retireEntry

/-- **A call keeps the limits**, and keeps to them. -/
lemma act_ok {c : BudgetCall} (hb : b.Within) (h : c.act b = .ok b') :
    b.SameLimits b' ∧ b'.Within := by
  cases c with
  | allocate n => exact (allocate_ok hb h).2.2
  | release n =>
    obtain rfl := Except.ok.inj h
    exact ⟨release_limits b n, hb.release n⟩
  | adjust old new => exact (adjust_keeps hb h).2
  | admitEntry => exact (admitEntry_ok hb h).2.2
  | retireEntry =>
    obtain rfl := Except.ok.inj h
    exact ⟨⟨rfl, rfl⟩, hb.retireEntry⟩

/-- So does a call that may be refused. -/
lemma step_limits (hb : b.Within) (c : BudgetCall) :
    b.SameLimits (b.step c).1 ∧ (b.step c).1.Within := by
  unfold step
  cases h : c.act b with
  | error x => exact ⟨⟨rfl, rfl⟩, hb⟩
  | ok b' => exact act_ok hb h

/-- **A series of calls keeps the limits**, and keeps to them. -/
lemma run_limits (hb : b.Within) (calls : List BudgetCall) :
    b.SameLimits (b.run calls).1 ∧ (b.run calls).1.Within := by
  refine BudgetCall.series_induction (P := fun b' => b.SameLimits b' ∧ b'.Within)
    (fun b' c h => ?_) ⟨⟨rfl, rfl⟩, hb⟩ calls
  obtain ⟨⟨hm, hc⟩, hb'⟩ := step_limits h.2 c
  exact ⟨⟨hm.trans h.1.1, hc.trans h.1.2⟩, hb'⟩

/-- **A series of calls counts in words as it does in natural numbers.** -/
lemma allowances_run (hb : b.Within) (calls : List BudgetCall) :
    b.allowances.run calls = ((b.run calls).1.allowances, (b.run calls).2) := by
  have hstep : ∀ b c, Within b →
      BudgetCall.settle b.allowances (c.count b.allowances) =
        ((b.step c).1.allowances, id (b.step c).2) := by
    intro b c hb
    rw [allowances_act hb c, step]
    cases c.act b <;> rfl
  rw [Allowances.run, BudgetCall.series_map step _ allowances id (P := Within)
    (fun _ c hb => (step_limits hb c).2) hstep hb calls, List.map_id]
  rfl

/-- A new budget is a new one in natural numbers. -/
lemma allowances_new (maxBytes maxCount : UInt64) :
    (new maxBytes maxCount).allowances = .new maxBytes.toNat maxCount.toNat := by
  obtain ⟨hm, hc⟩ := limits_new maxBytes maxCount
  rw [allowances, Allowance.ofWords, Allowance.ofWords, hm, hc]
  rfl

/-! ### Room -/

/-- An allocation is granted exactly where the limit leaves room for it. -/
lemma exists_allocate_iff (hb : b.Within) (n : UInt64) :
    (∃ b', b.allocate n = .ok b') ↔ b.bytesUsed.toNat + n.toNat ≤ b.maxBytes.toNat := by
  constructor
  · rintro ⟨b', h⟩
    obtain ⟨hadd, -, ⟨hm, -⟩, hb'⟩ := allocate_ok hb h
    have hle := hb'.bytes_le
    rwa [hadd, hm] at hle
  · exact allocate_of_room

/-- **What can be allocated** is told by another formula, which comes to the same. -/
lemma canAllocate_iff (hb : b.Within) (n : UInt64) :
    b.canAllocate n = true ↔ ∃ b', b.allocate n = .ok b' := by
  rw [exists_allocate_iff hb, canAllocate, decide_eq_true_iff, UInt64.le_iff_toNat_le,
    saturatingSub_toNat]
  have hle := hb.bytes_le
  omega

end Budget

end ClaimStore
