import ClaimStore.Proofs.Effects

/-!
# Ledgers along runs

Every operation keeps the ledger true, with and without faults, so the ledger of a run tells what
the handles are at its end.

## Main results

* `Store.Sound.after_eq` — only its own end touches the entry of a handle.
* `Store.after_entry` — an entry was there, or it was made.
* `Store.after_cases` — what faults do to a ledger.
* `Store.Tells.step`, `Store.Tells.stepUnder` — operations keep the ledger true.
* `Store.tells_runUnder` — the ledger of a run tells what the handles are.
-/

set_option autoImplicit false

namespace ClaimStore.Store

variable {κ : Type} {s : Store κ} {l : Ledger}

/-! ### The numbers of handles -/

/-- An entry is made for an answer that is a number. -/
lemma made_eq_some {y y' : Holder} {ans : Except Failure HandleId} {i : HandleId}
    (h : y.made ans = some (i, y')) : ans = .ok i ∧ y' = y := by
  cases ans with
  | ok j =>
    obtain ⟨hi, hy⟩ := Prod.ext_iff.1 (Option.some.inj h)
    exact ⟨congrArg Except.ok hi, hy.symm⟩
  | error f => cases h

/-- An open in a repository answers with the next number, if with any. -/
lemma Sound.number_inRepository (hs : s.Sound) {r : RepositoryId} {c : ClaimId}
    {act : Store κ → Backend → Store κ × Except Failure HandleId}
    {form : Backend → Store κ → Handle → Prop} (hm : ∀ b, s.Knows b → Makes (form b) s (act s b))
    {i : HandleId} (h : (s.inRepository r c act).2 = .ok i) : i = s.handles.length := by
  unfold Store.inRepository at h
  split at h
  · next b hb =>
    have hmakes := hm b (hs.knows hb)
    rw [← Prod.mk.eta (p := act s b), h] at hmakes
    exact hmakes.ok.1
  · cases h

/-- So does an open through a claim. -/
lemma Sound.number_routed (hs : s.Sound) {c : ClaimId}
    {act : Store κ → Backend → Store κ × Except Failure HandleId}
    {form : Backend → Store κ → Handle → Prop} (hm : ∀ b, s.Knows b → Makes (form b) s (act s b))
    {i : HandleId} (h : (s.routed c act).2 = .ok i) : i = s.handles.length := by
  cases hr : s.repositoryOf c with
  | none =>
    rw [routed_none hr] at h
    cases h
  | some p =>
    rw [routed_eq hr] at h
    exact hs.number_inRepository hm h

variable [DecidableEq κ] [ToString κ]

/-- **An open makes its entry under the next number.** -/
lemma Sound.opened_eq_length (hs : s.Sound) {f : Faults} {op : Operation κ} {i : HandleId}
    {y : Holder} (h : s.openedUnder f op = some (i, y)) : i = s.handles.length := by
  have plain : ∀ {p q : Store κ × Except Failure HandleId} {j : HandleId},
      p = q ∨ (∃ e, p = (s, .error e)) → p.2 = .ok j → q.2 = .ok j := by
    rintro p q j (rfl | ⟨e, rfl⟩) h
    · exact h
    · cases h
  cases op with
  | acquire c => exact (Prod.ext_iff.1 (Option.some.inj h)).1.symm
  | mapContent r c n readOnly =>
    exact hs.number_inRepository (fun b hb => makes_mapIn hb c n readOnly)
      (plain (s.mapContentUnder_cases f r c n readOnly) (made_eq_some h).1)
  | readContent r c =>
    exact hs.number_inRepository (fun b hb => makes_readIn hb c)
      (plain (s.readContentUnder_cases f r c) (made_eq_some h).1)
  | writeContent r c append =>
    exact hs.number_inRepository (fun b hb => makes_writeIn hb c append)
      (plain (s.writeContentUnder_cases f r c append) (made_eq_some h).1)
  | mapClaim c n readOnly =>
    obtain ⟨p, -, hp⟩ := Option.bind_eq_some_iff.1 h
    exact hs.number_routed (fun b hb => makes_mapIn hb c n readOnly)
      (plain (s.mapClaimUnder_cases f c n readOnly) (made_eq_some hp).1)
  | readClaim c =>
    obtain ⟨p, -, hp⟩ := Option.bind_eq_some_iff.1 h
    exact hs.number_routed (fun b hb => makes_readIn hb c)
      (plain (s.readClaimUnder_cases f c) (made_eq_some hp).1)
  | writeClaim c append =>
    obtain ⟨p, -, hp⟩ := Option.bind_eq_some_iff.1 h
    exact hs.number_routed (fun b hb => makes_writeIn hb c append)
      (plain (s.writeClaimUnder_cases f c append) (made_eq_some hp).1)
  | _ => cases h

/-- **What is opened refers to its claim.** -/
lemma refers_opened {f : Faults} {op : Operation κ} {i : HandleId} {y : Holder}
    (h : s.openedUnder f op = some (i, y)) : y.refers = true := by
  cases op with
  | acquire c =>
    obtain ⟨-, rfl⟩ := Prod.ext_iff.1 (Option.some.inj h)
    rfl
  | mapContent r c n readOnly => exact (made_eq_some h).2 ▸ rfl
  | readContent r c => exact (made_eq_some h).2 ▸ rfl
  | writeContent r c append => exact (made_eq_some h).2 ▸ rfl
  | mapClaim c n readOnly =>
    obtain ⟨p, -, hp⟩ := Option.bind_eq_some_iff.1 h
    exact (made_eq_some hp).2 ▸ rfl
  | readClaim c =>
    obtain ⟨p, -, hp⟩ := Option.bind_eq_some_iff.1 h
    exact (made_eq_some hp).2 ▸ rfl
  | writeClaim c append =>
    obtain ⟨p, -, hp⟩ := Option.bind_eq_some_iff.1 h
    exact (made_eq_some hp).2 ▸ rfl
  | _ => cases h

/-- An open marks no entry. -/
lemma mark_opened {f : Faults} {op : Operation κ} {p : HandleId × Holder}
    (h : s.openedUnder f op = some p) : l.mark op = l := by
  cases op with
  | unmap i => cases h
  | close i => cases h
  | drop i => cases h
  | _ => rfl

omit [DecidableEq κ] [ToString κ] in
/-- A handle that is not ended is not marked. -/
lemma mark_eq {op : Operation κ} {h : HandleId} (hu : op ≠ .unmap h) (hc : op ≠ .close h)
    (hd : op ≠ .drop h) : l.mark op h = l h := by
  cases op with
  | unmap i => exact if_neg fun hi : h = i => hu (congrArg _ hi.symm)
  | close i => exact if_neg fun hi : h = i => hc (congrArg _ hi.symm)
  | drop i => exact if_neg fun hi : h = i => hd (congrArg _ hi.symm)
  | _ => rfl

/-- **Only its own end touches the entry of a handle.** -/
lemma Sound.after_eq (hs : s.Sound) (f : Faults) {op : Operation κ} {h : HandleId}
    (hl : h < s.handles.length) (hu : op ≠ .unmap h) (hc : op ≠ .close h) (hd : op ≠ .drop h) :
    l.after f s op h = l h := by
  unfold Ledger.after
  split
  · cases ho : s.openedUnder f op with
    | none => exact mark_eq hu hc hd
    | some p =>
      have hne : h ≠ p.1 := fun hp => Nat.ne_of_lt hl (hp.trans (hs.opened_eq_length ho))
      exact (if_neg hne).trans (mark_eq hu hc hd)
  · rfl

/-! ### Entries -/

omit [DecidableEq κ] [ToString κ] in
/-- An entry that is marked was there, for the same claim, and was as live before.

**Proof sketch.** Only an unmap, a close and a drop mark an entry, each that of its own handle. -/
lemma mark_entry {op : Operation κ} {i : HandleId} {y : Holder} (h : l.mark op i = some y) :
    ∃ y', l i = some y' ∧ y'.claim = y.claim ∧ y'.identifier = y.identifier ∧
      ∀ r x, y.writes r x = true → y'.writes r x = true := by
  have same : l i = some y → ∃ y', l i = some y' ∧ y'.claim = y.claim ∧
      y'.identifier = y.identifier ∧ ∀ r x, y.writes r x = true → y'.writes r x = true :=
    fun h => ⟨y, h, rfl, rfl, fun _ _ hw => hw⟩
  cases op with
  | unmap j =>
    simp only [Ledger.mark, Ledger.set] at h
    split at h
    · next hi =>
      subst hi
      obtain ⟨⟨c, x, grip, ended⟩, hy', rfl⟩ := Option.map_eq_some_iff.1 h
      cases grip with
      | mapping r readOnly => exact ⟨_, hy', rfl, rfl, fun r' x' hw => by
          simp [Holder.unmapped, Holder.writes] at hw⟩
      | _ => exact same hy'
    · exact same h
  | close j =>
    simp only [Ledger.mark, Ledger.set] at h
    split at h
    · next hi =>
      subst hi
      obtain ⟨⟨c, x, grip, ended⟩, hy', rfl⟩ := Option.map_eq_some_iff.1 h
      cases grip with
      | writer r => exact ⟨_, hy', rfl, rfl, fun r' x' hw => by
          simp [Holder.closed, Holder.writes] at hw⟩
      | _ => exact same hy'
    · exact same h
  | drop j =>
    simp only [Ledger.mark, Ledger.set] at h
    split at h
    · cases h
    · exact same h
  | _ => exact same h

/-- An entry is as it was, or it is marked, or it was made. -/
lemma after_origin {f : Faults} {op : Operation κ} {i : HandleId} {y : Holder}
    (h : l.after f s op i = some y) :
    l i = some y ∨ l.mark op i = some y ∨
      (s.applies op = true ∧ s.openedUnder f op = some (i, y)) := by
  unfold Ledger.after at h
  split at h
  · next happ =>
    cases ho : s.openedUnder f op with
    | none =>
      rw [ho] at h
      exact .inr (.inl h)
    | some p =>
      rw [ho] at h
      by_cases hi : i = p.1
      · obtain rfl : p.2 = y := Option.some.inj ((if_pos hi).symm.trans h)
        exact .inr (.inr ⟨happ, by rw [hi]⟩)
      · exact .inr (.inl ((if_neg hi).symm.trans h))
  · exact .inl h

/-- **Where an entry comes from**: it was there, or it was made. -/
lemma after_entry {f : Faults} {op : Operation κ} {i : HandleId} {y : Holder}
    (h : l.after f s op i = some y) :
    (∃ y', l i = some y' ∧ y'.claim = y.claim ∧ y'.identifier = y.identifier ∧
      ∀ r x, y.writes r x = true → y'.writes r x = true) ∨
      (s.applies op = true ∧ s.openedUnder f op = some (i, y)) := by
  rcases after_origin h with h | h | h
  · exact .inl ⟨y, h, rfl, rfl, fun _ _ hw => hw⟩
  · exact .inl (mark_entry h)
  · exact .inr h

omit [DecidableEq κ] [ToString κ] in
/-- An entry that is marked was opened as the same. -/
lemma mark_grip {op : Operation κ} {i : HandleId} {y : Holder} (h : l.mark op i = some y) :
    ∃ y', l i = some y' ∧ y'.identifier = y.identifier ∧ y'.grip = y.grip := by
  have same : l i = some y → ∃ y', l i = some y' ∧ y'.identifier = y.identifier ∧
      y'.grip = y.grip := fun h => ⟨y, h, rfl, rfl⟩
  have marked : ∀ {j : HandleId} {mark : Holder → Holder},
      (∀ y, (mark y).identifier = y.identifier ∧ (mark y).grip = y.grip) →
        l.set j ((l j).map mark) i = some y →
          ∃ y', l i = some y' ∧ y'.identifier = y.identifier ∧ y'.grip = y.grip := by
    intro j mark hmark h
    unfold Ledger.set at h
    split at h
    · next hi =>
      obtain ⟨y', hy', rfl⟩ := Option.map_eq_some_iff.1 h
      exact ⟨y', hi ▸ hy', (hmark y').1.symm, (hmark y').2.symm⟩
    · exact same h
  cases op with
  | unmap j => exact marked (fun ⟨c, x, grip, ended⟩ => by cases grip <;> exact ⟨rfl, rfl⟩) h
  | close j => exact marked (fun ⟨c, x, grip, ended⟩ => by cases grip <;> exact ⟨rfl, rfl⟩) h
  | drop j =>
    simp only [Ledger.mark, Ledger.set] at h
    split at h
    · cases h
    · exact same h
  | _ => exact same h

/-- An entry that was not made was opened as the same. -/
lemma after_grip {f : Faults} {op : Operation κ} {i : HandleId} {y : Holder}
    (h : l.after f s op i = some y) :
    (∃ y', l i = some y' ∧ y'.identifier = y.identifier ∧ y'.grip = y.grip) ∨
      (s.applies op = true ∧ s.openedUnder f op = some (i, y)) := by
  rcases after_origin h with h | h | h
  · exact .inl ⟨y, h, rfl, rfl⟩
  · exact .inl (mark_grip h)
  · exact .inr h

/-! ### Steps and runs -/

/-- **Every operation keeps the ledger true.** -/
lemma Tells.step (ht : Tells l s) (hs : s.Sound) (op : Operation κ) :
    Tells (l.after .quiet s op) (s.step op) :=
  (ht.effect_step hs op).tells ht hs

/-- **What faults do to a ledger**: an operation is refused and makes no entry, or it leads to an
alike state and makes the entry that it makes without faults.

**Proof sketch.** By the operation. An open, a removal and a change of length are the plain ones, or
they are refused; the ends of handles lead to alike states whatever fails; no fault strikes the
other operations. -/
lemma after_cases (f : Faults) (l : Ledger) (s : Store κ) (op : Operation κ) :
    (s.stepUnder f op = s ∧ l.after f s op = l) ∨
      (Alike (s.step op) (s.stepUnder f op) ∧ l.after f s op = l.after .quiet s op) := by
  -- an open that is refused answers with no handle
  have opens : ∀ {p q q' : Store κ × Except Failure HandleId} (y : Holder), q' = q →
      p = q ∨ (∃ e, p = (s, .error e)) →
        (p.1 = s ∧ l.add (y.made p.2) = l) ∨
          (Alike q.1 p.1 ∧ l.add (y.made p.2) = l.add (y.made q'.2)) := by
    rintro p q q' y rfl (rfl | ⟨e, rfl⟩)
    · exact .inr ⟨.refl _, rfl⟩
    · exact .inl ⟨rfl, rfl⟩
  have routes : ∀ {c : ClaimId} {p q q' : Store κ × Except Failure HandleId}
      (y : RepositoryId → Holder), q' = q → p = q ∨ (∃ e, p = (s, .error e)) →
        (p.1 = s ∧ l.add ((s.repositoryOf c).bind fun r => (y r.1).made p.2) = l) ∨
          (Alike q.1 p.1 ∧ l.add ((s.repositoryOf c).bind fun r => (y r.1).made p.2) =
            l.add ((s.repositoryOf c).bind fun r => (y r.1).made q'.2)) := by
    rintro c p q q' y rfl (rfl | ⟨e, rfl⟩)
    · exact .inr ⟨.refl _, rfl⟩
    · refine .inl ⟨rfl, ?_⟩
      cases s.repositoryOf c <;> rfl
  have refused : ∀ {α : Type} {p q : Store κ × Except Failure α},
      p = q ∨ (∃ e, p = (s, .error e)) → p.1 = s ∨ Alike q.1 p.1 := by
    rintro α p q (rfl | ⟨e, rfl⟩)
    · exact .inr (.refl _)
    · exact .inl rfl
  unfold Ledger.after Store.stepUnder Store.step
  split
  swap
  · exact .inl ⟨rfl, rfl⟩
  cases op with
  | mapContent r c n readOnly =>
    exact opens ⟨c, s.identifier c, .mapping r readOnly, false⟩
      (s.mapContentUnder_quiet c r n readOnly) (s.mapContentUnder_cases f r c n readOnly)
  | readContent r c =>
    exact opens ⟨c, s.identifier c, .reader r, false⟩ (s.readContentUnder_quiet c r)
      (s.readContentUnder_cases f r c)
  | writeContent r c append =>
    exact opens ⟨c, s.identifier c, .writer r, false⟩ (s.writeContentUnder_quiet c r append)
      (s.writeContentUnder_cases f r c append)
  | mapClaim c n readOnly =>
    exact routes (fun r => ⟨c, s.identifier c, .mapping r readOnly, false⟩)
      (s.mapClaimUnder_quiet c n readOnly) (s.mapClaimUnder_cases f c n readOnly)
  | readClaim c =>
    exact routes (fun r => ⟨c, s.identifier c, .reader r, false⟩) (s.readClaimUnder_quiet c)
      (s.readClaimUnder_cases f c)
  | writeClaim c append =>
    exact routes (fun r => ⟨c, s.identifier c, .writer r, false⟩) (s.writeClaimUnder_quiet c append)
      (s.writeClaimUnder_cases f c append)
  | removeContent r c =>
    exact (refused (s.removeContentUnder_cases f r c)).imp (fun h => ⟨h, rfl⟩) fun h => ⟨h, rfl⟩
  | resize map n =>
    exact (refused (resizeUnder_cases f s map n)).imp (fun h => ⟨h, rfl⟩) fun h => ⟨h, rfl⟩
  | flush map => exact .inr ⟨alike_flushUnder f s map, rfl⟩
  | unmap map => exact .inr ⟨alike_unmapUnder f s map, rfl⟩
  | close writer => exact .inr ⟨alike_closeUnder f s writer, rfl⟩
  | drop h => exact .inr ⟨alike_dropUnder f s h, rfl⟩
  | _ => exact .inr ⟨.refl _, rfl⟩

/-- **Every operation keeps the ledger true, whatever fails on the way.** -/
lemma Tells.stepUnder (ht : Tells l s) (hs : s.Sound) (f : Faults) (op : Operation κ) :
    Tells (l.after f s op) (s.stepUnder f op) := by
  rcases after_cases f l s op with ⟨hstep, hl⟩ | ⟨alike, hl⟩
  · rw [hstep, hl]
    exact ht
  · rw [hl]
    exact (ht.step hs op).of_frame alike.handles_eq alike.repositories_eq

/-- **Every operation leaves each repository its backend**, whatever fails on the way. -/
lemma Tells.backendOf?_stepUnder (ht : Tells l s) (hs : s.Sound) (f : Faults) (op : Operation κ)
    {r : RepositoryId} {b : Backend} (hb : s.backendOf? r = some b) :
    (s.stepUnder f op).backendOf? r = some b := by
  rcases s.stepUnder_cases f op with h | alike
  · rw [h]
    exact hb
  · rw [backendOf?_congr alike.repositories_eq]
    exact (ht.effect_step hs op).backendOf? hb

/-- **No operation takes an identifier away**, whatever fails on the way. -/
lemma Tells.grows_stepUnder (ht : Tells l s) (hs : s.Sound) (f : Faults) (op : Operation κ) :
    Grows s (s.stepUnder f op) := by
  rcases s.stepUnder_cases f op with h | alike
  · rw [h]
    exact List.prefix_rfl
  · unfold Grows
    rw [alike.claims_eq]
    exact (ht.effect_step hs op).grows

omit [DecidableEq κ] [ToString κ] in
/-- The empty ledger tells that nothing was opened. -/
lemma tells_empty (name : String) : Tells Ledger.empty (onDirectory name : Store κ) where
  described h x hx := by simp [onDirectory, handle?] at hx
  live _ _ := rfl
  writers_inj r r' b b' hb := by simp [onDirectory, backendOf?] at hb

/-- What every step keeps of a state and its ledger, every run keeps. -/
theorem ledger_induction {P : Store κ → Ledger → Prop}
    (hstep : ∀ f s l op, P s l → P (s.stepUnder f op) (l.after f s op)) (hs : P s l)
    (ops : List (Faults × Operation κ)) : P (s.runUnder ops) (l.runUnder s ops) := by
  induction ops generalizing s l with
  | nil => exact hs
  | cons p ops ih => exact ih (hstep p.1 s l p.2 hs)

/-- **The ledger of a run tells what the handles are**, whatever fails on the way. -/
theorem tells_runUnder (name : String) (ops : List (Faults × Operation κ)) :
    ((onDirectory name : Store κ).runUnder ops).Sound ∧
      Tells (ledgerOf name ops) ((onDirectory name).runUnder ops) :=
  ledger_induction (P := fun s l => s.Sound ∧ Tells l s)
    (fun f _ _ op h => ⟨h.1.stepUnder f op, h.2.stepUnder h.1 f op⟩)
    ⟨sound_onDirectory name, tells_empty name⟩ ops

end ClaimStore.Store
