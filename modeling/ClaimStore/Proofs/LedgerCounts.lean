import Mathlib.Algebra.BigOperators.Fin
import ClaimStore.Proofs.LedgerRuns

/-!
# What the handles of a ledger hold

A handle holds the reference and the lease that its entry gives it, each at most once. So the
two counters of a sound state count the entries of its ledger.

## Main definitions

* `Store.leaseOf?` — the lease that an entry gives its handle.

## Main results

* `Store.count_reference`, `Store.count_lease` — what one handle holds.
* `Store.Tells.references_eq` — the references of a claim are counted by the entries that refer to
  it.
* `Store.Tells.isWriting_eq` — an identifier is being written by as many entries as there are
  leases.
-/

set_option autoImplicit false

namespace ClaimStore

/-! ### Parts of handles -/

/-- A hook of a caller holds nothing. -/
lemma Hook.resources_eq_nil {k : Hook} (h : k.isCallers = true) : k.resources = [] := by
  cases k with
  | record name failure probe => rfl
  | store d key => cases h
  | hold c l => cases h

/-- Hooks of callers hold nothing. -/
lemma Hook.flatMap_eq_nil {hs : List Hook} (h : ∀ k ∈ hs, k.isCallers = true) :
    hs.flatMap Hook.resources = [] :=
  List.flatMap_eq_nil_iff.2 fun k hk => Hook.resources_eq_nil (h k hk)

/-- The hooks that a mapping begins with hold one reference of its claim. -/
lemma Backend.count_reference_hooks (b : Backend) (c c' : ClaimId) (x : String) (readOnly : Bool) :
    ((b.hooks c x readOnly).flatMap Hook.resources).count (.reference c') =
      if c = c' then 1 else 0 := by
  cases b <;> cases readOnly <;>
    simp [Backend.hooks, Backend.mappingLease, Hook.resources, List.count_cons]

/-- The hooks that a mapping begins with hold its lease, once. -/
lemma Backend.count_lease_hooks (b : Backend) (c : ClaimId) (x : String) (readOnly : Bool)
    (L : Lease) : ((b.hooks c x readOnly).flatMap Hook.resources).count (.lease L) =
      if b.mappingLease x readOnly = some L then 1 else 0 := by
  cases b <;> cases readOnly <;>
    simp [Backend.hooks, Backend.mappingLease, Hook.resources, List.count_cons]

/-- What a backing holds are shares in entries. -/
lemma Backing.count_eq_zero (k : Backing) {r : Resource}
    (hr : ∀ t e (p : Share), r ≠ p.resource t e) :
    (k.viewResources ++ k.keptResources).count r = 0 := by
  refine List.count_eq_zero.2 fun hmem => ?_
  cases k with
  | file => simp [Backing.viewResources, Backing.keptResources] at hmem
  | buffer => simp [Backing.viewResources, Backing.keptResources] at hmem
  | entry b =>
    rcases b with ⟨_ | ⟨t, e⟩, size, _ | _ | _⟩ <;>
      simp [Backing.viewResources, Backing.keptResources, EntryBacking.viewResources,
        EntryBacking.keptResources] at hmem
    · exact hmem.elim (hr t e .readLock) (hr t e .owner)
    · exact hmem.elim (hr t e .writeLock) (hr t e .owner)
    · exact hr t e .owner hmem

/-- What a mapping holds outside of entries is what its hooks hold. -/
lemma Mapping.count_resources (m : Mapping) {r : Resource}
    (hr : ∀ t e (p : Share), r ≠ p.resource t e) :
    m.resources.count r = m.hooks.resources.count r := by
  rw [Mapping.resources, List.append_assoc, List.count_append, m.backing.count_eq_zero hr,
    Nat.add_zero]

/-- A reader holds one reference of its claim. -/
lemma Reader.count_reference (k : Reader) (c : ClaimId) :
    k.resources.count (.reference c) = if k.claim = c then 1 else 0 := by
  obtain ⟨c', source, p⟩ := k
  cases source <;> simp [Reader.resources, Source.resources, List.count_cons]

/-- A reader holds no lease. -/
lemma Reader.count_lease (k : Reader) (L : Lease) : k.resources.count (.lease L) = 0 := by
  obtain ⟨c', source, p⟩ := k
  cases source <;> simp [Reader.resources, Source.resources]

/-- A writer holds one reference of its claim, closed or not. -/
lemma Writer.count_reference (w : Writer) (c : ClaimId) :
    w.resources.count (.reference c) = if w.claim = c then 1 else 0 := by
  obtain ⟨c', sink, n, _ | l⟩ := w <;> cases sink <;>
    simp [Writer.resources, Writer.openResources, Writer.keptResources, List.count_cons]

/-- A writer holds its lease, until it is closed. -/
lemma Writer.count_lease (w : Writer) (L : Lease) :
    w.resources.count (.lease L) = if w.lease = some L then 1 else 0 := by
  obtain ⟨c', sink, n, _ | l⟩ := w <;> cases sink <;>
    simp [Writer.resources, Writer.openResources, Writer.keptResources, List.count_cons]

namespace Store

variable {κ : Type} {s : Store κ} {l : Ledger} {o : Option Holder} {y : Handle}

/-! ### Handles -/

/-- **A handle holds the reference that its entry gives it**, once. -/
lemma count_reference (hd : Described s o y) (c : ClaimId) :
    y.resources.count (.reference c) =
      if o.any (fun y => y.claim == c && y.refers) = true then 1 else 0 := by
  have hshare : ∀ t e (p : Share), Resource.reference c ≠ p.resource t e := by
    intro t e p
    cases p <;> simp [Share.resource]
  cases hd with
  | reference c' x => simp [Handle.resources, List.count_cons, Holder.refers]
  | @mapped c' x r b m hb hf hs hp hc hk =>
    rw [Handle.resources, Mapping.count_resources m hshare, UnmapHooks.resources, hp,
      List.flatMap_append, Hook.flatMap_eq_nil hc, List.append_nil, Backend.count_reference_hooks]
    simp [Holder.refers]
  | @unmapped c' x r readOnly m hh =>
    rw [Handle.resources, Mapping.count_resources m hshare, hh]
    simp [UnmapHooks.resources, UnmapHooks.spent, Holder.refers]
  | @reader c' x r b k hb hc hk =>
    rw [Handle.resources, Reader.count_reference, hc]
    simp [Holder.refers]
  | @writing c' x r b w hb hc hl hk =>
    rw [Handle.resources, Writer.count_reference, hc]
    simp [Holder.refers]
  | @closed c' x r w hc hl =>
    rw [Handle.resources, Writer.count_reference, hc]
    simp [Holder.refers]
  | borrow t e => simp [Handle.resources]
  | guard t e writing => cases writing <;> simp [Handle.resources]
  | @plain m hc =>
    rw [Handle.resources, Mapping.count_resources m hshare, UnmapHooks.resources,
      Hook.flatMap_eq_nil hc]
    simp

/-- The lease that an entry gives its handle, until this ends. -/
def leaseOf? (s : Store κ) (y : Holder) : Option Lease :=
  if y.ended then none
  else
    match y.grip with
    | .mapping r readOnly => (s.backendOf? r).bind fun b => b.mappingLease y.identifier readOnly
    | .writer r => (s.backendOf? r).map fun b => .write b.writers y.identifier
    | .reader _ | .reference => none

/-- **A handle holds the lease that its entry gives it**, once. -/
lemma count_lease (hd : Described s o y) (L : Lease) :
    y.resources.count (.lease L) = if o.bind s.leaseOf? = some L then 1 else 0 := by
  have hshare : ∀ t e (p : Share), Resource.lease L ≠ p.resource t e := by
    intro t e p
    cases p <;> simp [Share.resource]
  cases hd with
  | reference c' x' => simp [Handle.resources, leaseOf?]
  | @mapped c' x' r' b' m hb' hf hs hp hc hk =>
    rw [Handle.resources, Mapping.count_resources m hshare, UnmapHooks.resources, hp,
      List.flatMap_append, Hook.flatMap_eq_nil hc, List.append_nil, Backend.count_lease_hooks]
    simp [leaseOf?, hb']
  | @unmapped c' x' r' readOnly m hh =>
    rw [Handle.resources, Mapping.count_resources m hshare, hh]
    simp [UnmapHooks.resources, UnmapHooks.spent, leaseOf?]
  | reader => simp [Handle.resources, Reader.count_lease, leaseOf?]
  | @writing c' x' r' b' w hb' hc hl hk =>
    rw [Handle.resources, Writer.count_lease, hl]
    simp [leaseOf?, hb']
  | closed hc hl => simp [Handle.resources, Writer.count_lease, hl, leaseOf?]
  | borrow t e => simp [Handle.resources]
  | guard t e writing => cases writing <;> simp [Handle.resources]
  | @plain m hc =>
    rw [Handle.resources, Mapping.count_resources m hshare, UnmapHooks.resources,
      Hook.flatMap_eq_nil hc]
    simp

/-- A mapping holds a write lease exactly if it is writable. -/
lemma mappingLease_eq_write {b : Backend} {x x' : String} {readOnly : Bool} {g : RegistryId} :
    b.mappingLease x readOnly = some (.write g x') ↔
      readOnly = false ∧ b.writers = g ∧ x = x' := by
  cases b <;> cases readOnly <;> simp [Backend.mappingLease, Backend.writers]

/-- The write leases of a repository are those of its writers. -/
lemma leaseOf?_eq_write {r : RepositoryId} {b : Backend} (hb : s.backendOf? r = some b)
    (hinj : ∀ r' b', s.backendOf? r' = some b' → b'.writers = b.writers → r' = r) {x : String}
    {y : Holder} : s.leaseOf? y = some (.write b.writers x) ↔ y.writes r x = true := by
  -- a registry of writers stands for its repository
  have stands : ∀ (r' : RepositoryId) (p : Prop), (∃ b', s.backendOf? r' = some b' ∧
      b'.writers = b.writers ∧ p) ↔ r' = r ∧ p := by
    intro r' p
    constructor
    · rintro ⟨b', hb', hw, hp⟩
      exact ⟨hinj r' b' hb' hw, hp⟩
    · rintro ⟨rfl, hp⟩
      exact ⟨b, hb, rfl, hp⟩
  obtain ⟨c, x', grip, ended⟩ := y
  rw [Holder.writes_iff]
  cases ended with
  | true => simp [leaseOf?]
  | false =>
    cases grip with
    | reference => simp [leaseOf?]
    | reader r' => simp [leaseOf?]
    | mapping r' readOnly =>
      have hlease := stands r' (readOnly = false ∧ x' = x)
      simp only [leaseOf?, Bool.false_eq_true, if_false, Option.bind_eq_some_iff,
        mappingLease_eq_write, Grip.mapping.injEq, reduceCtorEq, or_false, true_and]
      grind
    | writer r' =>
      have hlease := stands r' (x' = x)
      simp only [leaseOf?, Bool.false_eq_true, if_false, Option.map_eq_some_iff, Lease.write.injEq,
        reduceCtorEq, Grip.writer.injEq, false_or, true_and]
      grind

/-- **A handle holds the write lease that its entry gives it**, once. -/
lemma count_writeLease (hd : Described s o y) {r : RepositoryId} {b : Backend}
    (hb : s.backendOf? r = some b)
    (hinj : ∀ r' b', s.backendOf? r' = some b' → b'.writers = b.writers → r' = r) (x : String) :
    y.resources.count (.lease (.write b.writers x)) =
      if o.any (fun y => y.writes r x) = true then 1 else 0 := by
  rw [count_lease hd]
  refine if_congr ?_ rfl rfl
  rw [Option.bind_eq_some_iff, Option.any_eq_true]
  exact exists_congr fun z => and_congr_right fun _ => leaseOf?_eq_write hb hinj

/-! ### All handles -/

/-- What is held where every handle holds it once or not at all. -/
lemma held_eq_card {q : HandleId → Bool} {r : Resource}
    (hq : ∀ h x, s.handle? h = some x → x.resources.count r = if q h = true then 1 else 0)
    (hnone : ∀ h, s.handle? h = none → q h = false) :
    s.held r = ((Finset.range s.handles.length).filter fun h => q h = true).card := by
  rw [Finset.card_filter, Finset.sum_range, held, ← Fin.sum_univ_fun_getElem]
  refine Finset.sum_congr rfl fun i _ => ?_
  cases hx : s.handles[i] with
  | none =>
    have hi : s.handle? i = none := by
      rw [handle?, List.getElem?_eq_getElem i.isLt]
      exact hx
    rw [hnone i hi, if_neg Bool.false_ne_true, heldBy]
  | some x =>
    exact hq i x (handle?_eq_some.2 ((List.getElem?_eq_getElem i.isLt).trans (congrArg some hx)))

/-- Only live handles have entries. -/
lemma Tells.lt_of_any (ht : Tells l s) {p : Holder → Bool} {h : HandleId}
    (hp : (l h).any p = true) : h < s.handles.length := by
  cases hx : s.handle? h with
  | none => simp [ht.live h hx] at hp
  | some x => exact lt_of_handle? hx

/-- What is held is counted by the entries that give it, where an entry gives it once. -/
lemma Tells.held_eq_card (ht : Tells l s) {p : Holder → Bool} {r : Resource}
    (hp : ∀ h x, s.handle? h = some x →
      x.resources.count r = if (l h).any p = true then 1 else 0) :
    s.held r = ((Finset.range s.handles.length).filter fun h => (l h).any p = true).card :=
  Store.held_eq_card hp fun h hn => by rw [ht.live h hn, Option.any_none]

/-- **The references of a claim are the handles that refer to it.** -/
lemma Tells.references_eq (ht : Tells l s) (hs : s.Sound) (c : ClaimId) :
    s.references c =
      ((Finset.range s.handles.length).filter fun h => l.refersTo c h = true).card :=
  calc s.references c = s.held (.reference c) := hs.balanced (.reference c) rfl
    _ = _ := ht.held_eq_card fun h x hx => count_reference (ht.described h x hx) c

/-- A live writer refers to its claim. -/
lemma refers_of_writes {y : Holder} {r : RepositoryId} {x : String} (hw : y.writes r x = true) :
    y.refers = true := by
  obtain ⟨c, x', grip, ended⟩ := y
  cases grip <;> simp_all [Holder.writes, Holder.refers]

/-- A claim that a handle refers to has references. -/
lemma Tells.references_pos (ht : Tells l s) (hs : s.Sound) {c : ClaimId} {h : HandleId}
    (hr : l.refersTo c h = true) : 0 < s.references c := by
  rw [ht.references_eq hs]
  exact Finset.card_pos.2 ⟨h, Finset.mem_filter.2 ⟨Finset.mem_range.2 (ht.lt_of_any hr), hr⟩⟩

/-- **The write lease of an identifier is taken once for every live writer.** -/
lemma Tells.isWriting_eq (ht : Tells l s) (hs : s.Sound) {r : RepositoryId} {b : Backend}
    (hb : s.backendOf? r = some b) (x : String) :
    ((s.writerRegistry b.writers).isWriting x).toNat =
      ((Finset.range s.handles.length).filter fun h => l.writesTo r x h = true).card := by
  have hinj : ∀ r' b', s.backendOf? r' = some b' → b'.writers = b.writers → r' = r :=
    fun r' b' hb' hw => ht.writers_inj r' r b' b hb' hb hw
  calc ((s.writerRegistry b.writers).isWriting x).toNat
      = s.held (.lease (.write b.writers x)) := hs.balanced (.lease (.write b.writers x)) rfl
    _ = _ := ht.held_eq_card fun h y hy => count_writeLease (ht.described h y hy) hb hinj x

end Store

end ClaimStore
