import ClaimStore.Proofs.LedgerCounts

/-!
# Single writers

At most one live writer works on an identifier of a repository at a time, in every backend and
whatever fails on the way. Its lease is taken from the moment when it is opened until it ends, and
not longer; nothing that is done to a handle that ended before touches the lease of a later writer.

## Main definitions

* `Store.SingleWriter` — what the ledger of the callers says about write leases.

## Main results

* `Store.Tells.singleWriter` — single writers where the ledger is true.
* `Store.singleWriter_runUnder` — single writers after every run, whatever fails.

## Design

The live writers are those of the ledger, so they are told from what callers did and from the
answers that they got; that a mapping could not be resized, for one, does not end it. The lease is
the entry of the registry, which is a set of names and does not know its holders.
-/

set_option autoImplicit false

namespace ClaimStore.Store

variable {κ : Type} [DecidableEq κ] [ToString κ] {s s' : Store κ} {l : Ledger}

/-- The failure of an open that finds a live writer. -/
def refusedWriter (s : Store κ) (c : ClaimId) : Store κ × Except Failure HandleId :=
  (s, .error (.content (.writerActive (s.identifier c))))

/-- **What write leases mean in a state**, with respect to the ledger of its callers. -/
structure SingleWriter (l : Ledger) (s : Store κ) : Prop where
  /-- An identifier of a repository has at most one live writer. -/
  unique : ∀ r x h h', l.writesTo r x h = true → l.writesTo r x h' = true → h = h'
  /-- Its lease is taken exactly if there is one. -/
  isWriting_iff : ∀ r b x, s.backendOf? r = some b →
    ((s.writerRegistry b.writers).isWriting x = true ↔ ∃ h, l.writesTo r x h = true)
  /-- While there is one, writers and writable mappings are refused, and nothing changes. -/
  refused : ∀ r b c h, s.backend? r = some b → l.writesTo r (s.identifier c) h = true → ∀ f,
    (∀ append, s.writeContentUnder f r c append = s.refusedWriter c) ∧
      (∀ n, s.mapContentUnder f r c n false = s.refusedWriter c) ∧
      (s.repositoryOf c = some (r, b) →
        (∀ append, s.writeClaimUnder f c append = s.refusedWriter c) ∧
          ∀ n, s.mapClaimUnder f c n false = s.refusedWriter c)
  /-- Once it is unmapped, closed or dropped, the lease is free, whatever fails. -/
  freed : ∀ r b x h, s.backendOf? r = some b → l.writesTo r x h = true → ∀ f,
    (∀ m, s.mapping? h = some m →
      ((s.unmapUnder f h).1.writerRegistry b.writers).isWriting x = false) ∧
      (∀ w, s.writer? h = some w →
        ((s.closeUnder f h).writerRegistry b.writers).isWriting x = false) ∧
      ((s.dropUnder f h).writerRegistry b.writers).isWriting x = false
  /-- Nothing else ends it or frees its lease, the end of another handle neither. -/
  kept : ∀ r b x h, s.backendOf? r = some b → l.writesTo r x h = true → ∀ f op,
    op ≠ .unmap h → op ≠ .close h → op ≠ .drop h →
      (l.after f s op).writesTo r x h = true ∧
        ((s.stepUnder f op).writerRegistry b.writers).isWriting x = true

/-! ### Leases and writers -/

section Leases

omit [DecidableEq κ] [ToString κ]

variable {r : RepositoryId} {b : Backend} {x : String}

/-- A lease that is taken has a writer, and one only. -/
lemma Tells.writer_unique (ht : Tells l s) (hs : s.Sound) (hb : s.backendOf? r = some b)
    {h h' : HandleId} (hw : l.writesTo r x h = true) (hw' : l.writesTo r x h' = true) : h = h' := by
  have hcard := ht.isWriting_eq hs hb x
  have hle : ((Finset.range s.handles.length).filter
      fun h => l.writesTo r x h = true).card ≤ 1 := by
    rw [← hcard]
    exact Bool.toNat_le _
  refine Finset.card_le_one.1 hle h ?_ h' ?_
  · exact Finset.mem_filter.2 ⟨Finset.mem_range.2 (ht.lt_of_any hw), hw⟩
  · exact Finset.mem_filter.2 ⟨Finset.mem_range.2 (ht.lt_of_any hw'), hw'⟩

/-- **A lease is taken exactly if it has a writer.** -/
lemma Tells.isWriting_iff (ht : Tells l s) (hs : s.Sound) (hb : s.backendOf? r = some b) :
    (s.writerRegistry b.writers).isWriting x = true ↔ ∃ h, l.writesTo r x h = true := by
  have hcard := ht.isWriting_eq hs hb x
  constructor
  · intro hw
    rw [hw] at hcard
    obtain ⟨h, hmem⟩ := Finset.card_pos.1 (Nat.lt_of_lt_of_eq Nat.one_pos hcard)
    exact ⟨h, (Finset.mem_filter.1 hmem).2⟩
  · rintro ⟨h, hw⟩
    have hmem : h ∈ (Finset.range s.handles.length).filter fun h => l.writesTo r x h = true :=
      Finset.mem_filter.2 ⟨Finset.mem_range.2 (ht.lt_of_any hw), hw⟩
    have hpos := Finset.card_pos.2 ⟨h, hmem⟩
    rw [← hcard] at hpos
    exact Bool.eq_true_of_not_eq_false fun hfree => by simp [hfree] at hpos

/-- A live writer has an entry and a handle. -/
lemma Tells.handle_of_writesTo (ht : Tells l s) {h : HandleId}
    (hw : l.writesTo r x h = true) :
    ∃ y z, l h = some y ∧ y.writes r x = true ∧ s.handle? h = some z := by
  obtain ⟨y, hy, hwrites⟩ := Ledger.writesTo_iff.1 hw
  have hlive : s.handle? h ≠ none := fun hn => by simp [ht.live h hn] at hy
  obtain ⟨z, hz⟩ := Option.ne_none_iff_exists'.1 hlive
  exact ⟨y, z, hy, hwrites, hz⟩

/-- A live writer has a repository. -/
lemma Tells.backend_of_writesTo (ht : Tells l s) {h : HandleId} (hw : l.writesTo r x h = true) :
    ∃ b, s.backendOf? r = some b := by
  obtain ⟨y, z, hy, hwrites, hz⟩ := ht.handle_of_writesTo hw
  have hd := hy ▸ ht.described h z hz
  obtain ⟨hlive, -, hg⟩ := Holder.writes_iff.1 hwrites
  cases hd with
  | mapped hb =>
    rcases hg with hg | hg
    · exact ⟨_, (Grip.mapping.inj hg).1 ▸ hb⟩
    · cases hg
  | writing hb =>
    rcases hg with hg | hg
    · cases hg
    · exact ⟨_, Grip.writer.inj hg ▸ hb⟩
  | unmapped | closed => cases hlive
  | reference | reader => rcases hg with hg | hg <;> cases hg

/-- A lease that is taken is not taken again. -/
lemma takeWriteLease_taken {g : RegistryId} (hw : (s.writerRegistry g).isWriting x = true) :
    s.takeWriteLease g x = .error (.content (.writerActive x)) := by
  unfold takeWriteLease WriterRegistry.acquire
  rw [if_pos hw]

end Leases

/-! ### Opens that are refused -/

section Refused

variable {r : RepositoryId} {b : Backend} {c : ClaimId}
  (hw : (s.writerRegistry b.writers).isWriting (s.identifier c) = true) (f : Faults)
include hw

omit [ToString κ] in
/-- **A writer is refused while the lease is taken**, before anything else is looked at. -/
lemma writeInUnder_taken (append : Bool) : s.writeInUnder f b c append = s.refusedWriter c := by
  have htaken := takeWriteLease_taken hw
  have plain : s.writeIn b c append = s.refusedWriter c := by
    cases b with
    | files directory w r =>
      simp only [Backend.writers] at htaken
      simp [writeIn, writeInFiles, htaken, refusedWriter]
    | volatile t w =>
      simp only [Backend.writers] at htaken
      simp [writeIn, writeInTable, htaken, refusedWriter]
    | database d p w =>
      simp only [Backend.writers] at htaken
      simp [writeIn, writeInRows, htaken, refusedWriter]
  unfold writeInUnder
  split
  · simp only [Backend.writers] at htaken
    simp [failLoad, htaken, refusedWriter]
  · exact plain

/-- **A writable mapping is refused while the lease is taken.** -/
lemma mapInUnder_taken (n : UInt64) : s.mapInUnder f b c n false = s.refusedWriter c := by
  have htaken := takeWriteLease_taken hw
  have plain : s.mapIn b c n false = s.refusedWriter c := by
    cases b with
    | files directory w r =>
      simp only [Backend.writers] at htaken
      simp [mapIn, mapInFiles, htaken, refusedWriter]
    | volatile t w =>
      simp only [Backend.writers] at htaken
      simp [mapIn, mapInTable, htaken, refusedWriter]
    | database d p w =>
      simp only [Backend.writers] at htaken
      simp [mapIn, mapInRows, htaken, refusedWriter]
  unfold mapInUnder
  split
  · simp only [Backend.writers] at htaken
    simp [failLoad, htaken, refusedWriter]
  · exact plain

end Refused

/-! ### Ends -/

omit [DecidableEq κ] [ToString κ] in
/-- An unmapped mapping is no live writer. -/
lemma writesTo_unmapped {r : RepositoryId} {x : String} {h : HandleId} {m : Mapping}
    (hd : Described s (l h) (.mapping m)) :
    (l.set h ((l h).map Holder.unmapped)).writesTo r x h = false := by
  rw [Ledger.writesTo, Ledger.set, if_pos rfl]
  generalize l h = o at hd
  cases hd <;> rfl

omit [DecidableEq κ] [ToString κ] in
/-- A closed writer is no live writer. -/
lemma writesTo_closed {r : RepositoryId} {x : String} {h : HandleId} {w : Writer}
    (hd : Described s (l h) (.writer w)) :
    (l.set h ((l h).map Holder.closed)).writesTo r x h = false := by
  rw [Ledger.writesTo, Ledger.set, if_pos rfl]
  generalize l h = o at hd
  cases hd <;> rfl

omit [DecidableEq κ] [ToString κ] in
/-- **A lease is free after the end of its writer**, since no other handle is a writer. -/
lemma Tells.freed (ht : Tells l s) (hs : s.Sound) {r : RepositoryId} {b : Backend}
    (hb : s.backendOf? r = some b) {x : String} {h : HandleId} (hw : l.writesTo r x h = true)
    {o : Option Holder} {op : Operation κ} {s₁ : Store κ} (hend : Effect l (l.set h o) s op s₁)
    (hs₁ : s₁.Sound) (alike : Alike s₁ s') (ho : (l.set h o).writesTo r x h = false) :
    (s'.writerRegistry b.writers).isWriting x = false := by
  have ht' := (hend.tells ht hs).of_frame alike.handles_eq alike.repositories_eq
  have hb' := (backendOf?_congr alike.repositories_eq r).trans (hend.backendOf? hb)
  refine Bool.eq_false_iff.2 fun hwriting => ?_
  obtain ⟨i, hi⟩ := (ht'.isWriting_iff (hs₁.alike alike) hb').1 hwriting
  by_cases hih : i = h
  · rw [hih, ho] at hi
    cases hi
  · refine hih (ht.writer_unique hs hb ?_ hw)
    rwa [Ledger.writesTo, Ledger.set, if_neg hih] at hi

/-! ### All states -/

/-- **Writers are single where the ledger is true.**

**Proof sketch.** A registry has the lease of an identifier exactly where a live handle of the
ledger writes to it, and the registries of two repositories are different. So the second writer is
refused, and the end of the first frees the lease. -/
lemma Tells.singleWriter (ht : Tells l s) (hs : s.Sound) : SingleWriter l s where
  unique r x h h' hw hw' := by
    obtain ⟨b, hb⟩ := ht.backend_of_writesTo hw
    exact ht.writer_unique hs hb hw hw'
  isWriting_iff r b x hb := ht.isWriting_iff hs hb
  refused r b c h hb hw f := by
    have hwriting := (ht.isWriting_iff hs (backendOf?_of_backend? hb)).2 ⟨h, hw⟩
    refine ⟨fun append => ?_, fun n => ?_, fun hr => ⟨fun append => ?_, fun n => ?_⟩⟩
    · rw [writeContentUnder, Store.inRepository, hb]
      exact writeInUnder_taken hwriting f append
    · rw [mapContentUnder, Store.inRepository, hb]
      exact mapInUnder_taken hwriting f n
    · rw [writeClaimUnder, Store.routed, hr]
      exact writeInUnder_taken hwriting f append
    · rw [mapClaimUnder, Store.routed, hr]
      exact mapInUnder_taken hwriting f n
  freed r b x h hb hw f := by
    refine ⟨fun m hm => ?_, fun w hw' => ?_, ?_⟩
    · have hd := ht.described h _ (mapping?_eq_some.1 hm)
      exact ht.freed hs hb hw (ht.effect_unmap h) (hs.unmap h).sound (alike_unmapUnder f s h)
        (writesTo_unmapped hd)
    · have hd := ht.described h _ (writer?_eq_some.1 hw')
      exact ht.freed hs hb hw (ht.effect_close h) (hs.close h).sound (alike_closeUnder f s h)
        (writesTo_closed hd)
    · refine ht.freed hs hb hw (ht.effect_drop h) (hs.drop h).sound (alike_dropUnder f s h) ?_
      rw [Ledger.writesTo, Ledger.set, if_pos rfl, Option.any_none]
  kept r b x h hb hw f op hu hc hd := by
    have hafter : (l.after f s op).writesTo r x h = true := by
      rw [Ledger.writesTo, hs.after_eq f (ht.lt_of_any hw) hu hc hd]
      exact hw
    have hb' := ht.backendOf?_stepUnder hs f op hb
    exact ⟨hafter, ((ht.stepUnder hs f op).isWriting_iff (hs.stepUnder f op) hb').2 ⟨h, hafter⟩⟩

/-- **Single writers.** After every run, in every backend and whatever fails on the way, each
identifier of a repository has at most one live writer, its lease is taken exactly while it has one,
a second writer is refused, and the lease is free once its writer has ended. -/
theorem singleWriter_runUnder (name : String) (ops : List (Faults × Operation κ)) :
    SingleWriter (ledgerOf name ops) ((onDirectory name).runUnder ops) :=
  have h := tells_runUnder name ops
  h.2.singleWriter h.1

end ClaimStore.Store
