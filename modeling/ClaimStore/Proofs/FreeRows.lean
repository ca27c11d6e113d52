import ClaimStore.Proofs.RowChanges

/-!
# Rows that stay missing

A row that is missing stays missing until a live writer of it ends, whatever fails on the way: a
database that is opened shows no row that it did not show before, and a removal brings none back.

## Main results

* `Store.Tells.databases_stepUnder` — faults decide whether the databases change, and not how.
* `Store.Tells.database_lt_stepUnder` — the databases of repositories are there.
* `Store.Tells.row?_stepUnder_none` — a missing row stays missing.
-/

set_option autoImplicit false

namespace ClaimStore.Store

variable {κ : Type} {s s' : Store κ} {l : Ledger} {h : HandleId} {f : Faults} {d : DatabaseId}
  {x : String}

/-! ### Ends under faults -/

section Ends

variable [DecidableEq κ]

/-- Hooks that store nothing leave the rows as they are. -/
lemma databases_runHooksUnder {hs : List Hook} (hk : ∀ k ∈ hs, k.isStore = false) (s : Store κ)
    (view : Bytes) : (s.runHooksUnder f view hs).1.databases = s.databases := by
  induction hs generalizing s with
  | nil => rfl
  | cons k hs ih =>
    have hrest := ih (fun k' hk' => hk k' (List.mem_cons_of_mem _ hk')) (s.runHookUnder f view k).1
    have hfirst : (s.runHookUnder f view k).1.databases = s.databases := by
      cases k with
      | store d key => cases hk _ List.mem_cons_self
      | hold c l => exact (still_releaseAll s _).databases_eq
      | record name failure probe => rfl
    exact hrest.trans hfirst

/-- **An unmap under faults stores what it stores without them**, or nothing. -/
lemma databases_unmapUnder {o : Option Holder} {m : Mapping} (hd : Described s o (.mapping m))
    (hm : s.mapping? h = some m) : (s.unmapUnder f h).1.databases = s.databases ∨
      (s.unmapUnder f h).1.databases = (s.unmap h).1.databases := by
  have heq : (s.unmapUnder f h).1.databases = ((s.writeBackUnder f m).runHooksUnder f
      (((s.writeBackUnder f m).view? m).getD .empty) m.hooks.pending).1.databases := by
    rw [unmapUnder, hm]
    exact (still_releaseAll _ _).databases_eq
  rw [heq]
  cases rowMapping hd with
  | none hk =>
    refine .inl ((databases_runHooksUnder hk _ _).trans ?_)
    unfold writeBackUnder
    split
    · rfl
    · exact (still_writeBack s m).databases_eq
  | @some c key r d p w v hs ho hb hc hmap =>
    rw [databases_unmap hd hm]
    subst hmap
    have hrest := isStore_hold_cons hc c (some (.write w key))
    have hback : s.writeBackUnder f ⟨.buffer ⟨some v, none⟩, false,
        ⟨.store d key :: .hold c (some (.write w key)) :: hs, false⟩⟩ = s := by
      unfold writeBackUnder
      split <;> rfl
    rw [hback]
    cases hf : f.commit with
    | some e =>
      refine .inl ((databases_runHooksUnder hrest _ v).trans ?_)
      simp [runHookUnder, hf]
    | none =>
      refine .inr ((databases_runHooksUnder hrest _ v).trans ?_)
      simp only [runHookUnder, hf]
      rfl

omit [DecidableEq κ] in
/-- **So does a close.** -/
lemma databases_closeUnder (f : Faults) (s : Store κ) (h : HandleId) :
    (s.closeUnder f h).databases = s.databases ∨
      (s.closeUnder f h).databases = (s.close h).databases := by
  cases hw : s.writer? h with
  | none =>
    rw [closeUnder, hw]
    exact .inl rfl
  | some w =>
    have committed : s.commitUnder f w.sink = s ∨ s.commitUnder f w.sink = s.commit w.sink := by
      unfold commitUnder
      split
      · exact .inl rfl
      · exact .inl rfl
      · exact .inr rfl
      · exact .inr rfl
      · exact .inr rfl
    rw [closeUnder, close, hw]
    dsimp only
    split
    · rcases committed with h | h <;> rw [h]
      · exact .inl (still_releaseAll s _).databases_eq
      · exact .inr rfl
    · exact .inl rfl

omit [DecidableEq κ] in
/-- A handle that is forgotten leaves the databases. -/
lemma databases_discard (s : Store κ) (h : HandleId) : (s.discard h).databases = s.databases := by
  unfold discard
  split
  · rfl
  · exact (still_releaseAll s _).databases_eq

/-- **So does a drop.** -/
lemma Tells.databases_dropUnder (ht : Tells l s) (f : Faults) (h : HandleId) :
    (s.dropUnder f h).databases = s.databases ∨
      (s.dropUnder f h).databases = (s.drop h).databases := by
  cases hx : s.handle? h with
  | none =>
    rw [dropUnder, hx]
    exact .inl (databases_discard s h)
  | some x =>
    rw [dropUnder, drop, hx]
    cases x with
    | mapping m =>
      simp only [databases_discard]
      exact databases_unmapUnder (ht.described h _ hx) (mapping?_eq_some.2 hx)
    | writer w =>
      simp only [databases_discard]
      exact databases_closeUnder f s h
    | _ => exact .inr rfl

end Ends

/-! ### Databases that are opened -/

/-- A file that becomes a database has no rows. -/
lemma row?_formatDatabase_none {file : FileId} (known : Option DatabaseId)
    (hrow : s.row? d x = none) : (s.formatDatabase file known).1.row? d x = none := by
  cases known with
  | none => exact (row?_concat (s := s) rfl d x).trans hrow
  | some i =>
    show (s.modifyDatabase i (·.clear)).row? d x = none
    by_cases hi : i = d
    · subst hi
      by_cases hlt : i < s.databases.length
      · rw [row?_modifyDatabase hlt]
        rfl
      · rw [row?, modifyDatabase, List.modify_eq_self (Nat.le_of_not_lt hlt), ← row?, hrow]
    · rw [row?_modify_ne _ hi, hrow]

/-- **A database that is opened** shows no row that it did not show before. -/
lemma row?_openDatabase_none (p : Path) (hrow : s.row? d x = none) :
    (s.openDatabase p).1.row? d x = none := by
  unfold openDatabase
  split
  · exact hrow
  · split
    · exact hrow
    · dsimp only
      split
      · exact hrow
      · split
        · next d' _ _ _ => exact row?_formatDatabase_none (s := { s with disk := d' }) _ hrow
        · split <;> exact hrow

/-- A row that is absent is absent when a repository was opened. -/
lemma row?_openRepository_none (kind : RepositoryKind) (hrow : s.row? d x = none) :
    (s.openRepository kind).1.row? d x = none := by
  cases kind with
  | files D =>
    unfold openRepository openFiles
    dsimp only
    split <;> exact hrow
  | volatile maxBytes maxCount => exact hrow
  | database p =>
    have hopened := row?_openDatabase_none p hrow
    unfold openRepository openRows
    dsimp only
    split <;> next h => rw [h] at hopened; exact hopened

/-! ### Steps under faults -/

section Steps

variable [DecidableEq κ] [ToString κ] {op : Operation κ}

/-- **Faults decide whether the databases change**, and not how.

**Proof sketch.** By the operation: what is refused stores nothing, a flush never stores a row, and
the end of a handle stores what it stores without faults, or nothing. -/
lemma Tells.databases_stepUnder (ht : Tells l s) (f : Faults) (op : Operation κ) :
    (s.stepUnder f op).databases = s.databases ∨
      (s.stepUnder f op).databases = (s.step op).databases := by
  have refused : ∀ {α : Type} {p q : Store κ × Except Failure α},
      p = q ∨ (∃ e, p = (s, .error e)) →
        p.1.databases = s.databases ∨ p.1.databases = q.1.databases := by
    rintro α p q (rfl | ⟨e, rfl⟩)
    · exact .inr rfl
    · exact .inl rfl
  unfold Store.stepUnder Store.step
  split
  swap
  · exact .inl rfl
  cases op with
  | mapContent r c n readOnly => exact refused (s.mapContentUnder_cases f r c n readOnly)
  | readContent r c => exact refused (s.readContentUnder_cases f r c)
  | writeContent r c append => exact refused (s.writeContentUnder_cases f r c append)
  | removeContent r c => exact refused (s.removeContentUnder_cases f r c)
  | mapClaim c n readOnly => exact refused (s.mapClaimUnder_cases f c n readOnly)
  | readClaim c => exact refused (s.readClaimUnder_cases f c)
  | writeClaim c append => exact refused (s.writeClaimUnder_cases f c append)
  | resize map n => exact refused (resizeUnder_cases f s map n)
  | flush map =>
    refine .inl ?_
    show (s.flushUnder f map).databases = s.databases
    unfold flushUnder writeBackUnder
    split
    · rfl
    · split
      · rfl
      · exact (still_writeBack s _).databases_eq
  | unmap map =>
    show (s.unmapUnder f map).1.databases = _ ∨ (s.unmapUnder f map).1.databases = _
    cases hm : s.mapping? map with
    | none =>
      rw [unmapUnder, hm]
      exact .inl rfl
    | some m => exact databases_unmapUnder (ht.described map _ (mapping?_eq_some.1 hm)) hm
  | close writer => exact databases_closeUnder f s writer
  | drop h => exact ht.databases_dropUnder f h
  | _ => exact .inr rfl

/-- **The databases of repositories are there**, also of those that were closed. -/
lemma Tells.database_lt_stepUnder (ht : Tells l s) (hs : s.Sound)
    (h : ∀ r d p w, s.backendOf? r = some (.database d p w) → d < s.databases.length)
    (f : Faults) (op : Operation κ) {r : RepositoryId} {p : Path} {w : RegistryId}
    (hb : (s.stepUnder f op).backendOf? r = some (.database d p w)) :
    d < (s.stepUnder f op).databases.length := by
  have heff := ht.effect_step hs op
  have hle : s.databases.length ≤ (s.stepUnder f op).databases.length := by
    rcases ht.databases_stepUnder f op with hsame | hsame
    · exact Nat.le_of_eq (congrArg List.length hsame.symm)
    · rw [hsame]
      exact heff.length_le
  rcases s.stepUnder_cases f op with hstay | halike
  · rw [hstay] at hb
    exact Nat.lt_of_lt_of_le (h r d p w hb) hle
  · rw [backendOf?_congr halike.repositories_eq r] at hb
    rcases heff.backendOf?_back hb with hold | ⟨-, hnew, kind, rfl⟩
    · exact Nat.lt_of_lt_of_le (h r d p w hold) hle
    · exact (hnew d p w rfl).1

omit [ToString κ] in
/-- A removal brings no row back. -/
lemma row?_removeContent_none (r : RepositoryId) (c : ClaimId) (hrow : s.row? d x = none) :
    (s.removeContent r c).1.row? d x = none := by
  by_contra hne
  rw [← hrow] at hne
  obtain ⟨⟨p, w, hb⟩, hx, href, hans⟩ := row?_removeContent hne
  have hmissing : (s.removeContent r c).2 = .ok (s.row? d x).isSome := by
    simp only [removeContent, inRepository, hb, removeIn_of_unreferenced href, eraseIn, hx]
    rfl
  rw [hmissing, hrow] at hans
  cases hans

/-- **A missing row stays missing** until a live writer of it ends. -/
lemma Tells.row?_stepUnder_none (ht : Tells l s) (hs : s.Sound) (hrow : s.row? d x = none)
    (hidle : ∀ h, ¬ RowWriter l s h d x) (f : Faults) (op : Operation κ) :
    (s.stepUnder f op).row? d x = none := by
  have of_eq : ∀ {s₁ s₂ : Store κ}, s₁.databases = s₂.databases → s₂.row? d x = none →
      s₁.row? d x = none := fun h hr => by rwa [row?, h]
  refine (ht.databases_stepUnder f op).elim (fun h => of_eq h hrow) fun h => of_eq h ?_
  cases ht.effect_step hs op with
  | @founds kind hop _ _ =>
    subst hop
    unfold Store.step
    split
    · exact row?_openRepository_none kind hrow
    · exact hrow
  | closes _ h => exact of_eq (h ▸ rfl) hrow
  | @removes r c hop _ _ _ _ =>
    subst hop
    unfold Store.step
    split
    · exact row?_removeContent_none r c hrow
    · exact hrow
  | frame _ _ _ hd _ => exact of_eq hd hrow
  | carries _ h => exact of_eq h.databases_eq hrow
  | adds added _ _ => exact of_eq added.databases_eq hrow
  | @ends h z _ _ hfin hz _ _ _ _ hd _ =>
    by_contra hne
    rw [← hrow] at hne
    obtain ⟨v, hv⟩ := row?_saved hd hne
    obtain ⟨y, r, p, w, hy, hw, hb⟩ := writes_of_unsaved (ht.described h z hz) hv
    exact hidle h ⟨r, p, w, hb, Ledger.writesTo_iff.2 ⟨y, hy, hw⟩⟩

end Steps

end ClaimStore.Store
