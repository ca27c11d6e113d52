import Mathlib.Data.Set.Card
import Mathlib.Order.CompletePartialOrder
import ClaimStore.Proofs.LedgerCounts

/-!
# Counting references

The references of a claim are exactly what its callers hold of it: the references that they took,
the mappings that they did not unmap, and the readers and writers that they did not drop. So an open
that fails leaves them as they were, none is given back twice, and content that is referenced is not
removed.

## Main definitions

* `Ledger.acquired`, `Ledger.mapped`, `Ledger.streamed` — the three sorts of handle that refer to a
  claim.
* `Store.Counting` — what the ledger of the callers says about references.

## Main results

* `Store.Tells.references_opened`, `Store.Tells.references_unmapUnder`,
  `Store.Tells.references_dropUnder`, `Store.Tells.references_steady` — what counts up, what counts
  down, and what does not count.
* `Store.Tells.counting` — references are counted where the ledger is true.
* `Store.counting_runUnder` — references are counted after every run, whatever fails.
-/

set_option autoImplicit false

namespace ClaimStore

/-! ### Handles that refer to a claim -/

namespace Ledger

variable (l : Ledger) (c : ClaimId)

/-- The references of a claim that were taken and not dropped. -/
def acquired : Set HandleId := {h | ∃ x ended, l h = some ⟨c, x, .reference, ended⟩}

/-- The mappings opened through a claim that were not unmapped or dropped. -/
def mapped : Set HandleId := {h | ∃ x r readOnly, l h = some ⟨c, x, .mapping r readOnly, false⟩}

/-- The readers and the writers opened through a claim that were not dropped, closed or not. -/
def streamed : Set HandleId :=
  {h | ∃ x r ended, l h = some ⟨c, x, .reader r, ended⟩ ∨ l h = some ⟨c, x, .writer r, ended⟩}

/-- The handles that refer to a claim are of three sorts. -/
lemma setOf_refersTo : {h | l.refersTo c h = true} = l.acquired c ∪ l.mapped c ∪ l.streamed c := by
  ext h
  simp only [refersTo, acquired, mapped, streamed, Set.mem_ofPred_eq, Set.mem_union]
  rcases l h with _ | ⟨c', x, _ | _ | _ | _, ended⟩ <;> simp [Holder.refers]

/-- No handle is of two sorts. -/
lemma disjoint_sorts : Disjoint (l.acquired c) (l.mapped c) ∧
    Disjoint (l.acquired c ∪ l.mapped c) (l.streamed c) := by
  simp only [acquired, mapped, streamed, Set.disjoint_left, Set.mem_union, Set.mem_ofPred_eq]
  constructor
  · rintro h ⟨x, ended, hx⟩ ⟨x', r, readOnly, hx'⟩
    simp [hx] at hx'
  · rintro h (⟨x, ended, hx⟩ | ⟨x, r, readOnly, hx⟩) ⟨x', r', ended', hx' | hx'⟩ <;>
      simp [hx] at hx'

end Ledger

namespace Store

variable {κ : Type} [DecidableEq κ] [ToString κ] {s s' : Store κ} {l : Ledger}

/-- The answer of a removal of content that is referenced. -/
def refusedRemoval (s : Store κ) (c : ClaimId) : Store κ × Except Failure Bool :=
  (s, .error (.content (.claimInUse (s.identifier c) (s.references c))))

/-- An open through a claim failed and led to a state. -/
inductive FailedOpen (f : Faults) (s s' : Store κ) (c : ClaimId) (e : Failure) : Prop
  /-- A mapping through a repository. -/
  | mapContent (r : RepositoryId) (n : UInt64) (readOnly : Bool)
      (h : s.mapContentUnder f r c n readOnly = (s', .error e))
  /-- A reader through a repository. -/
  | readContent (r : RepositoryId) (h : s.readContentUnder f r c = (s', .error e))
  /-- A writer through a repository. -/
  | writeContent (r : RepositoryId) (append : Bool)
      (h : s.writeContentUnder f r c append = (s', .error e))
  /-- A mapping through the claim itself. -/
  | mapClaim (n : UInt64) (readOnly : Bool) (h : s.mapClaimUnder f c n readOnly = (s', .error e))
  /-- A reader through the claim itself. -/
  | readClaim (h : s.readClaimUnder f c = (s', .error e))
  /-- A writer through the claim itself. -/
  | writeClaim (append : Bool) (h : s.writeClaimUnder f c append = (s', .error e))

/-- **What references mean in a state**, with respect to the ledger of its callers. -/
structure Counting (l : Ledger) (s : Store κ) : Prop where
  /-- The references of a claim are counted by the handles that refer to it. -/
  references_eq : ∀ c,
    s.references c = (l.acquired c).ncard + (l.mapped c).ncard + (l.streamed c).ncard
  /-- These are finitely many. -/
  finite : ∀ c, (l.acquired c ∪ l.mapped c ∪ l.streamed c).Finite
  /-- An open counts one more reference of its claim. -/
  opened : ∀ f op h y, s.applies op = true → s.openedUnder f op = some (h, y) → ∀ c,
    (s.stepUnder f op).references c = s.references c + if y.claim = c then 1 else 0
  /-- An open that fails leaves all references as they were. -/
  failed : ∀ f c s' e, c < s.claims.length → FailedOpen f s s' c e → ∀ c',
    s'.references c' = s.references c'
  /-- An unmap counts down, from a positive number, exactly if the mapping referred to the claim. -/
  unmapped : ∀ f h m c, s.mapping? h = some m →
    (s.unmapUnder f h).1.references c + (l.refersTo c h).toNat = s.references c
  /-- A drop counts down, from a positive number, exactly if the handle referred to the claim. -/
  dropped : ∀ f h c, (s.dropUnder f h).references c + (l.refersTo c h).toNat = s.references c
  /-- Nothing else counts, the close of a writer neither. -/
  steady : ∀ f op, s.openedUnder f op = none → (∀ h, op ≠ .unmap h ∧ op ≠ .drop h) → ∀ c,
    (s.stepUnder f op).references c = s.references c
  /-- Content of a claim that is referenced is not removed, and nothing changes. -/
  refused : ∀ f r b c, s.backend? r = some b → 0 < s.references c →
    s.removeContentUnder f r c = s.refusedRemoval c

/-! ### Counts -/

section Counts

omit [DecidableEq κ] [ToString κ]

/-- Finitely many handles have entries. -/
lemma Tells.finite_entries (ht : Tells l s) (p : Holder → Bool) :
    {h | (l h).any p = true}.Finite :=
  (Set.finite_lt_nat s.handles.length).subset fun _ hp => ht.lt_of_any hp

/-- The entries of a kind, counted among the handles made, are all there are. -/
lemma Tells.card_entries (ht : Tells l s) (p : Holder → Bool) :
    ((Finset.range s.handles.length).filter fun h => (l h).any p = true).card =
      {h | (l h).any p = true}.ncard := by
  rw [← Set.ncard_coe_finset]
  congr 1
  ext h
  simp only [Finset.coe_filter, Finset.mem_range, Set.mem_ofPred_eq, and_iff_right_iff_imp]
  exact fun hp => ht.lt_of_any hp

/-- Only finitely many handles refer to a claim. -/
lemma Tells.finite_refersTo (ht : Tells l s) (c : ClaimId) : {h | l.refersTo c h = true}.Finite :=
  ht.finite_entries _

/-- **References are counted by the handles that refer to their claim.** -/
lemma Tells.references_ncard (ht : Tells l s) (hs : s.Sound) (c : ClaimId) :
    s.references c = {h | l.refersTo c h = true}.ncard :=
  (ht.references_eq hs c).trans (ht.card_entries _)

/-- Handles that refer to the same claims are counted alike. -/
lemma Tells.references_congr {l' : Ledger} (ht : Tells l s) (hs : s.Sound) (ht' : Tells l' s')
    (hs' : s'.Sound) {c : ClaimId} (hl : ∀ h, l'.refersTo c h = l.refersTo c h) :
    s'.references c = s.references c := by
  rw [ht'.references_ncard hs', ht.references_ncard hs]
  simp only [hl]

/-- **An end counts down** by what the handle referred to, up to what is left of it. -/
lemma Tells.references_end (ht : Tells l s) (hs : s.Sound) {h : HandleId} {x : Handle}
    {x' : Option Handle} {o : Option Holder} (hx : s.handle? h = some x) (hend : Ended h x' s s')
    (hd : ∀ y, x' = some y → Described s o y) (hnone : x' = none → o = none) (hs' : s'.Sound)
    (c : ClaimId) :
    s'.references c + (l.refersTo c h).toNat =
      s.references c + (o.any fun y => y.claim == c && y.refers).toNat := by
  have hset := held_set hx x' (.reference c)
  have hheld : s'.held (.reference c) =
      ({ s with handles := s.handles.set h x' } : Store κ).held (.reference c) := by
    rw [held, hend.handles_eq, held]
  have hleft : heldBy (.reference c) x' = (o.any fun y => y.claim == c && y.refers).toNat := by
    cases x' with
    | none => rw [hnone rfl]; rfl
    | some y =>
      rw [heldBy, count_reference (hd y rfl)]
      cases o.any fun y => y.claim == c && y.refers <;> rfl
  have hheldBy : x.resources.count (.reference c) = (l.refersTo c h).toNat := by
    rw [count_reference (ht.described h x hx)]
    show _ = (((l h).any fun y => y.claim == c && y.refers)).toNat
    cases (l h).any fun y => y.claim == c && y.refers <;> rfl
  have hcounted := hs.balanced (.reference c) rfl
  have hcounted' := hs'.balanced (.reference c) rfl
  simp only [counted] at hcounted hcounted'
  omega

end Counts

/-! ### Operations -/

omit [DecidableEq κ] [ToString κ] in
/-- An unmapped mapping refers to no claim. -/
lemma refers_unmapped {o : Option Holder} {m : Mapping} (hd : Described s o (.mapping m))
    (c : ClaimId) : ((o.map Holder.unmapped).any fun y => y.claim == c && y.refers) = false := by
  cases hd <;> simp [Holder.unmapped, Holder.refers]

/-- An operation that opens nothing for a claim, and unmaps and drops nothing, leaves every handle
what it refers to. -/
lemma refersTo_after {f : Faults} {op : Operation κ}
    (ho : s.openedUnder f op = none) (hop : ∀ h, op ≠ .unmap h ∧ op ≠ .drop h) (c : ClaimId)
    (h : HandleId) : (l.after f s op).refersTo c h = l.refersTo c h := by
  have hmark : (l.mark op).refersTo c h = l.refersTo c h := by
    cases op with
    | unmap i => exact absurd rfl (hop i).1
    | drop i => exact absurd rfl (hop i).2
    | close i =>
      -- a writer goes on to refer to its claim
      simp only [Ledger.mark, Ledger.refersTo, Ledger.set]
      split
      · next hi =>
        subst hi
        rcases l h with _ | ⟨c', x, _ | _ | _ | _, ended⟩ <;> rfl
      · rfl
    | _ => rfl
  unfold Ledger.after
  rw [ho]
  split
  · exact hmark
  · rfl

/-- An open that fails is an operation that opens nothing, and that unmaps and drops nothing. -/
lemma FailedOpen.exists_operation {f : Faults} {c : ClaimId} {e : Failure}
    (h : FailedOpen f s s' c e) (hc : c < s.claims.length) :
    ∃ op : Operation κ, s.stepUnder f op = s' ∧ s.openedUnder f op = none ∧
      ∀ i, op ≠ .unmap i ∧ op ≠ .drop i := by
  cases h with
  | mapContent r n readOnly h =>
    refine ⟨.mapContent r c n readOnly, ?_, ?_, fun i => ⟨by simp, by simp⟩⟩ <;>
      simp [Store.stepUnder, applies, hc, performUnder, openedUnder, h, Holder.made]
  | readContent r h =>
    refine ⟨.readContent r c, ?_, ?_, fun i => ⟨by simp, by simp⟩⟩ <;>
      simp [Store.stepUnder, applies, hc, performUnder, openedUnder, h, Holder.made]
  | writeContent r append h =>
    refine ⟨.writeContent r c append, ?_, ?_, fun i => ⟨by simp, by simp⟩⟩ <;>
      simp [Store.stepUnder, applies, hc, performUnder, openedUnder, h, Holder.made]
  | mapClaim n readOnly h =>
    refine ⟨.mapClaim c n readOnly, ?_, ?_, fun i => ⟨by simp, by simp⟩⟩ <;>
      simp [Store.stepUnder, applies, hc, performUnder, openedUnder, h, Holder.made]
  | readClaim h =>
    refine ⟨.readClaim c, ?_, ?_, fun i => ⟨by simp, by simp⟩⟩ <;>
      simp [Store.stepUnder, applies, hc, performUnder, openedUnder, h, Holder.made]
  | writeClaim append h =>
    refine ⟨.writeClaim c append, ?_, ?_, fun i => ⟨by simp, by simp⟩⟩ <;>
      simp [Store.stepUnder, applies, hc, performUnder, openedUnder, h, Holder.made]

namespace Tells

variable (ht : Tells l s) (hs : s.Sound) {f : Faults}
include ht hs

/-- **An open counts up**: the handle that it makes is a new one. -/
lemma references_opened {op : Operation κ} {h : HandleId} {y : Holder}
    (happ : s.applies op = true) (ho : s.openedUnder f op = some (h, y)) (c : ClaimId) :
    (s.stepUnder f op).references c = s.references c + if y.claim = c then 1 else 0 := by
  have hafter : l.after f s op = l.set h (some y) := by
    rw [Ledger.after, if_pos happ, ho, mark_opened ho]
    rfl
  have ht' := ht.stepUnder hs f op
  rw [hafter] at ht'
  rw [ht'.references_ncard (hs.stepUnder f op), ht.references_ncard hs]
  have hnew : h ∉ {i | l.refersTo c i = true} := fun hr =>
    Nat.lt_irrefl _ (Nat.lt_of_lt_of_eq (ht.lt_of_any hr) (hs.opened_eq_length ho).symm)
  have hrefers : ∀ i, (l.set h (some y)).refersTo c i =
      if i = h then y.claim == c else l.refersTo c i := by
    intro i
    unfold Ledger.refersTo Ledger.set
    split
    · rw [Option.any_some, refers_opened ho, Bool.and_true]
    · rfl
  by_cases hc : y.claim = c
  · rw [if_pos hc, ← Set.ncard_insert_of_notMem hnew (ht.finite_refersTo c)]
    congr 1
    ext i
    by_cases hi : i = h <;> simp [hrefers, hi, hc]
  · rw [if_neg hc, Nat.add_zero]
    congr 1
    ext i
    by_cases hi : i = h
    · subst hi
      simpa [hrefers, hc] using hnew
    · simp [hrefers, hi]

/-- **What opens nothing for a claim counts nothing**, unless it unmaps or drops. -/
lemma references_steady {op : Operation κ} (ho : s.openedUnder f op = none)
    (hop : ∀ h, op ≠ .unmap h ∧ op ≠ .drop h) (c : ClaimId) :
    (s.stepUnder f op).references c = s.references c :=
  ht.references_congr hs (ht.stepUnder hs f op) (hs.stepUnder f op) (refersTo_after ho hop c)

omit [ToString κ] in
/-- **An unmap counts down** if the mapping referred to the claim. -/
lemma references_unmapUnder {h : HandleId} {m : Mapping} (hm : s.mapping? h = some m)
    (c : ClaimId) :
    (s.unmapUnder f h).1.references c + (l.refersTo c h).toNat = s.references c := by
  have hx := mapping?_eq_some.1 hm
  have hd := ht.described h _ hx
  have hend := ht.references_end hs hx (ended_unmap hm)
    (fun y hy => Option.some.inj hy ▸ described_unmap hd) (fun hnone => by cases hnone)
    (hs.unmap h).sound c
  rw [(alike_unmapUnder f s h).references, hend, refers_unmapped hd]
  rfl

omit [ToString κ] in
/-- **A drop counts down** if the handle referred to the claim. -/
lemma references_dropUnder (h : HandleId) (c : ClaimId) :
    (s.dropUnder f h).references c + (l.refersTo c h).toNat = s.references c := by
  cases hx : s.handle? h with
  | none =>
    have hrefers : l.refersTo c h = false := by simp [Ledger.refersTo, ht.live h hx]
    rw [(alike_dropUnder f s h).references, drop_none hx, hrefers]
    rfl
  | some x =>
    have hend := ht.references_end hs hx (ended_drop hx) (fun y hy => by cases hy) (fun _ => rfl)
      (hs.drop h).sound c
    rw [(alike_dropUnder f s h).references, hend]
    rfl

/-- **References are counted where the ledger is true.** -/
lemma counting : Counting l s where
  references_eq c := by
    obtain ⟨hd, hd'⟩ := l.disjoint_sorts c
    have hfin := ht.finite_refersTo c
    rw [ht.references_ncard hs]
    rw [l.setOf_refersTo c] at hfin ⊢
    obtain ⟨hfin, hfin₃⟩ := Set.finite_union.1 hfin
    obtain ⟨hfin₁, hfin₂⟩ := Set.finite_union.1 hfin
    rw [Set.ncard_union_eq hd' hfin hfin₃, Set.ncard_union_eq hd hfin₁ hfin₂]
  finite c := l.setOf_refersTo c ▸ ht.finite_refersTo c
  opened f op h y happ ho := ht.references_opened hs happ ho
  failed f c s' e hc hfail c' := by
    obtain ⟨op, rfl, ho, hop⟩ := hfail.exists_operation hc
    exact ht.references_steady hs ho hop c'
  unmapped f h m c hm := ht.references_unmapUnder hs hm c
  dropped f h c := ht.references_dropUnder hs h c
  steady f op ho hop := ht.references_steady hs ho hop
  refused f r b c hb hpos := by
    rw [removeContentUnder, Store.inRepository, hb]
    show s.removeInUnder f b c = s.refusedRemoval c
    unfold removeInUnder
    split
    · rw [checkUnreferenced, if_pos hpos]
      rfl
    · exact removeIn_of_referenced hpos _

end Tells

/-- **Exact reference counting.** After every run, in every backend and whatever fails on the way,
the references of each claim are the handles that refer to it; each open, unmap and drop counts one
up or down, and nothing else does. -/
theorem counting_runUnder (name : String) (ops : List (Faults × Operation κ)) :
    Counting (ledgerOf name ops) ((onDirectory name).runUnder ops) :=
  have h := tells_runUnder name ops
  h.2.counting h.1

end Store

end ClaimStore
