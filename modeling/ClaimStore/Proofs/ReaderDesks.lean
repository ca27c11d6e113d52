import ClaimStore.Proofs.Lease

/-!
# A reader registry in use

Read leases of any identifiers are taken from a registry and dropped, gates are made, and actions
wait for the readers of an identifier, by themselves or behind a gate. After every such series the
registry counts the leases that are live, and nothing else. So an action is run, once, exactly if no
lease of its identifier is live at that moment, whatever happens to the leases of other identifiers.

## Main definitions

* `ClaimStore.ReaderDesk` — a registry with what was handed out of it.
* `ClaimStore.DeskCall`, `ReaderDesk.step`, `ReaderDesk.run` — what is done with it.
* `ReaderDesk.Counted` — the registry counts the live leases.
* `ReaderDesk.Guarded` — what this means for entries, leases and actions.

## Main results

* `ReaderDesk.counted_step`, `ReaderDesk.counted_run` — the count, after a call and after a run.
* `ReaderDesk.Counted.guarded` — a registry that counts its leases guards its identifiers.
-/

set_option autoImplicit false

namespace ClaimStore

/-! ### Calls -/

/-- **A reader registry in use**, with what was handed out of it. -/
structure ReaderDesk (σ : Type) where
  /-- The registry. -/
  registry : ReaderRegistry
  /-- The identifiers of the leases that were taken; the place of a dropped one is empty. -/
  leases : List (Option String)
  /-- The identifiers of the gates that were made. -/
  gates : List String
  /-- What the actions work on. -/
  subject : σ
  /-- The number of times that an action was run. -/
  runs : Nat

/-- **Something that is done with a reader registry.** -/
inductive DeskCall (σ : Type) : Type 1 where
  /-- One more lease of an identifier is taken. -/
  | acquire (identifier : String)
  /-- A lease is dropped. -/
  | drop (lease : Nat)
  /-- A gate for an identifier is made. -/
  | gate (identifier : String)
  /-- An action waits for the readers of an identifier. -/
  | exclusive {α : Type} (identifier : String) (act : σ → σ × Except Failure α)
  /-- An action waits behind a gate. -/
  | truncate (gate : Nat) (act : σ → σ × Except Failure Unit)

/-- An action that is counted. -/
def countedAction {σ α : Type} (act : σ → σ × Except Failure α) (p : σ × Nat) :
    (σ × Nat) × Except Failure α :=
  (((act p.1).1, p.2 + 1), (act p.1).2)

namespace ReaderDesk

variable {σ α : Type}

/-- A registry of which nothing was handed out. -/
def new (subject : σ) : ReaderDesk σ := ⟨.empty, [], [], subject, 0⟩

/-- The number of live leases of an identifier. -/
def live (u : ReaderDesk σ) (identifier : String) : Nat := u.leases.count (some identifier)

/-- Runs an action only while the registry knows of no reader of the identifier. -/
def exclusive (u : ReaderDesk σ) (identifier : String) (act : σ → σ × Except Failure α) :
    ReaderDesk σ × Except Failure α :=
  let r := u.registry.exclusive identifier (countedAction act) (u.subject, u.runs)
  ({ u with subject := r.1.1, runs := r.1.2 }, r.2)

/-- Runs an action behind a gate, which does what its registry does for its identifier. -/
def truncate (u : ReaderDesk σ) (gate : Nat) (act : σ → σ × Except Failure Unit) :
    ReaderDesk σ × Option (Except Failure Unit) :=
  match u.gates[gate]? with
  | none => (u, none)
  | some identifier => ((u.exclusive identifier act).1, some (u.exclusive identifier act).2)

/-- The registry after a call. A lease can be dropped once. -/
def step (u : ReaderDesk σ) : DeskCall σ → ReaderDesk σ
  | .acquire identifier =>
    { u with registry := u.registry.acquire identifier, leases := u.leases ++ [some identifier] }
  | .drop lease =>
    match u.leases[lease]? with
    | some (some identifier) =>
      { u with registry := u.registry.release identifier, leases := u.leases.set lease none }
    | some none | none => u
  | .gate identifier => { u with gates := u.gates ++ [identifier] }
  | .exclusive identifier act => (u.exclusive identifier act).1
  | .truncate gate act => (u.truncate gate act).1

/-- The registry after calls, one after the other. -/
def run (u : ReaderDesk σ) (calls : List (DeskCall σ)) : ReaderDesk σ := calls.foldl step u

/-! ### What is counted -/

/-- **The registry counts the live leases** of every identifier. -/
def Counted (u : ReaderDesk σ) : Prop := ∀ x, u.registry.readers x = u.live x

/-- What an action comes to, whose readers were counted. -/
def guardedOutcome (u : ReaderDesk σ) (x : String) (act : σ → σ × Except Failure α) :
    ReaderDesk σ × Except Failure α :=
  if u.live x = 0 then
    ({ u with subject := (act u.subject).1, runs := u.runs + 1 }, (act u.subject).2)
  else (u, .error (.content (.writerActive x)))

/-- **A registry that guards its identifiers.** -/
structure Guarded (u : ReaderDesk σ) : Prop where
  /-- The readers of an identifier are its live leases. -/
  readers_eq : ∀ x, u.registry.readers x = u.live x
  /-- An identifier has an entry exactly while a lease of it is live. -/
  mem_iff : ∀ x n, (x, n) ∈ u.registry.mapped ↔ n = u.live x ∧ 0 < n
  /-- A lease that is taken counts one. -/
  acquired : ∀ x y,
    (u.step (.acquire x)).registry.readers y = u.registry.readers y + if y = x then 1 else 0
  /-- A lease that is dropped was counted, and counts no more. -/
  dropped : ∀ i x, u.leases[i]? = some (some x) → ∀ y,
    (u.step (.drop i)).registry.readers y + (if y = x then 1 else 0) = u.registry.readers y
  /-- An action is run, once, exactly if no lease of its identifier is live. -/
  exclusive_eq : ∀ {α : Type} x (act : σ → σ × Except Failure α),
    u.exclusive x act = u.guardedOutcome x act
  /-- So it is behind a gate, whenever the gate was made. -/
  truncate_eq : ∀ i x act, u.gates[i]? = some x →
    u.truncate i act = ((u.guardedOutcome x act).1, some (u.guardedOutcome x act).2)
  /-- Leases of other identifiers make no difference. -/
  others : ∀ {α : Type} x y (act : σ → σ × Except Failure α), x ≠ y →
    ((u.step (.acquire y)).exclusive x act).2 = (u.exclusive x act).2 ∧
      ∀ i, u.leases[i]? = some (some y) →
        ((u.step (.drop i)).exclusive x act).2 = (u.exclusive x act).2

variable {u : ReaderDesk σ}

/-- A lease that is taken is one more of its identifier. -/
lemma live_acquire (u : ReaderDesk σ) (x y : String) :
    (u.step (.acquire x)).live y = u.live y + if y = x then 1 else 0 := by
  by_cases h : y = x
  · subst h
    simp [step, live]
  · simp [step, live, h, Ne.symm h]

/-- A lease that is there is live. -/
lemma live_pos {i : Nat} {x : String} (hi : u.leases[i]? = some (some x)) : 0 < u.live x :=
  List.count_pos_iff.2 (List.mem_of_getElem? hi)

/-- A lease that is live is given back when it is dropped. -/
lemma step_drop {i : Nat} {x : String} (hi : u.leases[i]? = some (some x)) :
    u.step (.drop i) =
      { u with registry := u.registry.release x, leases := u.leases.set i none } := by
  rw [step, hi]

/-- A lease that is dropped is one less of its identifier. -/
lemma live_drop {i : Nat} {x : String} (hi : u.leases[i]? = some (some x)) (y : String) :
    (u.step (.drop i)).live y + (if y = x then 1 else 0) = u.live y := by
  have hpos := live_pos hi
  obtain ⟨hlt, hx⟩ := List.getElem?_eq_some_iff.1 hi
  rw [step_drop hi]
  unfold live at hpos ⊢
  dsimp only
  rw [List.count_set hlt, hx]
  by_cases h : y = x
  · subst h
    simp
    omega
  · simp [h, Ne.symm h]

/-- An action changes neither the registry nor the leases. -/
lemma counted_exclusive (h : u.Counted) (x : String) (act : σ → σ × Except Failure α) :
    (u.exclusive x act).1.Counted := h

/-- A new registry counts no lease, and there is none. -/
lemma counted_new (subject : σ) : (new subject).Counted := fun _ => rfl

/-- **Every call leaves the live leases counted.** -/
lemma counted_step (h : u.Counted) (call : DeskCall σ) : (u.step call).Counted := by
  cases call with
  | acquire x =>
    intro y
    rw [live_acquire, ← h y]
    exact u.registry.readers_acquire x y
  | drop i =>
    rcases hi : u.leases[i]? with _ | _ | x
    · rw [step, hi]
      exact h
    · rw [step, hi]
      exact h
    · intro y
      have hlive := live_drop hi y
      have hreaders : (u.step (.drop i)).registry.readers y =
          u.registry.readers y - if y = x then 1 else 0 := by
        rw [step_drop hi]
        exact u.registry.readers_release x y
      rw [hreaders, h y]
      omega
  | gate x => exact h
  | exclusive x act => exact counted_exclusive h x act
  | truncate i act =>
    show (u.truncate i act).1.Counted
    unfold truncate
    split
    · exact h
    · exact counted_exclusive h _ act

/-- **They are counted after every run.** -/
theorem counted_run (subject : σ) (calls : List (DeskCall σ)) :
    ((new subject).run calls).Counted := by
  have hkept : ∀ {u : ReaderDesk σ}, u.Counted → (u.run calls).Counted := by
    induction calls with
    | nil => exact id
    | cons call calls ih => exact fun h => ih (counted_step h call)
  exact hkept (counted_new subject)

/-! ### What the count means -/

/-- An action whose readers are counted. -/
lemma Counted.exclusive_eq (h : u.Counted) (x : String) (act : σ → σ × Except Failure α) :
    u.exclusive x act = u.guardedOutcome x act := by
  unfold exclusive guardedOutcome ReaderRegistry.exclusive
  rw [h x]
  by_cases hx : u.live x = 0
  · rw [if_pos hx, if_neg (by omega)]
    rfl
  · rw [if_neg hx, if_pos (by omega)]

/-- What an action answers depends on the readers of its identifier alone. -/
lemma Counted.answer_congr {u' : ReaderDesk σ} (h : u.Counted) (h' : u'.Counted) {x : String}
    (hlive : u'.live x = u.live x) (hsubject : u'.subject = u.subject)
    (act : σ → σ × Except Failure α) : (u'.exclusive x act).2 = (u.exclusive x act).2 := by
  rw [h.exclusive_eq, h'.exclusive_eq, guardedOutcome, guardedOutcome, hlive, hsubject]
  split <;> rfl

/-- **A registry that counts its leases guards its identifiers.** -/
theorem Counted.guarded (h : u.Counted) : u.Guarded where
  readers_eq := h
  mem_iff x n := by rw [← h x, ReaderRegistry.mem_mapped_iff]
  acquired x y := u.registry.readers_acquire x y
  dropped i x hi y := by
    rw [counted_step h (.drop i) y, live_drop hi, h y]
  exclusive_eq x act := h.exclusive_eq x act
  truncate_eq i x act hi := by
    rw [← h.exclusive_eq, truncate, hi]
  others x y act hne := by
    refine ⟨h.answer_congr (counted_step h _) ?_ rfl act,
      fun i hi => h.answer_congr (counted_step h _) ?_ ?_ act⟩
    · rw [live_acquire, if_neg hne, Nat.add_zero]
    · have hlive := live_drop hi x
      rwa [if_neg hne, Nat.add_zero] at hlive
    · rw [step_drop hi]

end ReaderDesk

end ClaimStore
