import ClaimStore.Proofs.Drafts
import ClaimStore.Proofs.References
import ClaimStore.Proofs.SingleWriter

/-!
# Changes of rows

A row of a database changes when a live writer of it ends, when it is removed, and, where the file
of the database was emptied behind its back, when nobody uses the database and it is opened again.
So while a row has a live writer, nothing but the end of this one changes it, provided that no other
claim has the same identifier.

## Main definitions

* `Store.RowWriter` — a handle is a live writer of a row.
* `Store.Rooted` — entries, claims, repositories and databases belong together.

## Main results

* `Store.Rooted.step` — operations keep them together.
* `Store.Tells.row?_step` — what changes a row.
* `Store.Rooted.row?_eq` — a row with a live writer stays until this one ends.
* `Store.Rooted.row?_finishes` — what a live writer has not saved is the row after its end.

## Design

Two repositories may have kept rows in one database, one after the other, and each has a registry of
writers of its own. That a database is not opened while anybody uses it is what makes the writers of
its rows share a registry.
-/

set_option autoImplicit false

namespace ClaimStore.Store

variable {κ : Type} {s s' : Store κ} {l l' : Ledger}

/-! ### Claims -/

/-- No claim is taken away. -/
lemma Grows.length_le (h : Grows s s') : s.claims.length ≤ s'.claims.length := by
  simpa using List.IsPrefix.length_le h

/-- The identifier of a claim stands at its place in the list of identifiers. -/
lemma identifier_eq_getD (s : Store κ) (c : ClaimId) :
    s.identifier c = ((s.claims.map (·.identifier))[c]?).getD "" := by
  rw [identifier, List.getElem?_map]
  cases s.claims[c]? <;> rfl

/-- A claim keeps its identifier. -/
lemma Grows.identifier_eq (h : Grows s s') {c : ClaimId} (hc : c < s.claims.length) :
    s'.identifier c = s.identifier c := by
  have hlt : c < (s.claims.map (·.identifier)).length := by rwa [List.length_map]
  obtain ⟨new, hnew⟩ := h
  rw [identifier_eq_getD, identifier_eq_getD, ← hnew, List.getElem?_append_left hlt]

/-- Claims are told apart by their identifiers. -/
lemma claim_inj (hone : (s.claims.map (·.identifier)).Nodup) {c c' : ClaimId}
    (hc : c < s.claims.length) (hc' : c' < s.claims.length)
    (heq : s.identifier c = s.identifier c') : c = c' := by
  have hlt : c < (s.claims.map (·.identifier)).length := by rwa [List.length_map]
  have hlt' : c' < (s.claims.map (·.identifier)).length := by rwa [List.length_map]
  rw [identifier_eq_getD, identifier_eq_getD, List.getElem?_eq_getElem hlt,
    List.getElem?_eq_getElem hlt'] at heq
  exact (List.Nodup.getElem_inj_iff hone).1 heq

/-! ### Entries -/

section Entries

variable [DecidableEq κ] [ToString κ] {op : Operation κ}

omit [DecidableEq κ] [ToString κ] in
/-- An answer with a handle comes from a repository that is open. -/
lemma backend_of_inRepository {α : Type} {r : RepositoryId} {c : ClaimId}
    {act : Store κ → Backend → Store κ × Except Failure α} {a : α}
    (h : (s.inRepository r c act).2 = .ok a) : ∃ b, s.backend? r = some b := by
  unfold inRepository at h
  split at h
  · next b hb => exact ⟨b, hb⟩
  · cases h

/-- **An entry is made for a claim that is there, under its identifier**, and for a repository that
is open.

**Proof sketch.** By the operation: an open names its claim, and is made in a repository that is
open. References, readers and read-only mappings do not write. -/
lemma opened_from {f : Faults} {i : HandleId} {y : Holder} (happ : s.applies op = true)
    (h : s.openedUnder f op = some (i, y)) :
    y.claim < s.claims.length ∧ s.identifier y.claim = y.identifier ∧
      ∀ r x, y.writes r x = true → ∃ b, s.backend? r = some b := by
  have grip : ∀ {y : Holder} {r : RepositoryId} {x : String}, y.writes r x = true →
      y.grip = .mapping r false ∨ y.grip = .writer r := fun hw => (Holder.writes_iff.1 hw).2.2
  cases op with
  | acquire c =>
    obtain ⟨-, rfl⟩ := Prod.ext_iff.1 (Option.some.inj h)
    exact ⟨of_decide_eq_true happ, rfl, fun r x hw => by simp [Holder.writes] at hw⟩
  | mapContent r c n readOnly =>
    obtain ⟨hans, rfl⟩ := made_eq_some h
    refine ⟨of_decide_eq_true happ, rfl, fun r' x hw => ?_⟩
    obtain rfl : r = r' := by rcases grip hw with hg | hg <;> cases hg; rfl
    exact backend_of_inRepository hans
  | readContent r c =>
    obtain ⟨hans, rfl⟩ := made_eq_some h
    exact ⟨of_decide_eq_true happ, rfl, fun r x hw => by simp [Holder.writes] at hw⟩
  | writeContent r c append =>
    obtain ⟨hans, rfl⟩ := made_eq_some h
    refine ⟨of_decide_eq_true happ, rfl, fun r' x hw => ?_⟩
    obtain rfl : r = r' := by rcases grip hw with hg | hg <;> cases hg; rfl
    exact backend_of_inRepository hans
  | mapClaim c n readOnly =>
    obtain ⟨p, hp, hm⟩ := Option.bind_eq_some_iff.1 h
    obtain ⟨-, rfl⟩ := made_eq_some hm
    refine ⟨of_decide_eq_true happ, rfl, fun r' x hw => ?_⟩
    obtain rfl : p.1 = r' := by rcases grip hw with hg | hg <;> cases hg; rfl
    exact ⟨p.2, backend?_of_repositoryOf hp⟩
  | readClaim c =>
    obtain ⟨p, hp, hm⟩ := Option.bind_eq_some_iff.1 h
    obtain ⟨-, rfl⟩ := made_eq_some hm
    exact ⟨of_decide_eq_true happ, rfl, fun r x hw => by simp [Holder.writes] at hw⟩
  | writeClaim c append =>
    obtain ⟨p, hp, hm⟩ := Option.bind_eq_some_iff.1 h
    obtain ⟨-, rfl⟩ := made_eq_some hm
    refine ⟨of_decide_eq_true happ, rfl, fun r' x hw => ?_⟩
    obtain rfl : p.1 = r' := by rcases grip hw with hg | hg <;> cases hg; rfl
    exact ⟨p.2, backend?_of_repositoryOf hp⟩
  | _ => cases h

/-- **An entry is that of a claim that is there**, and has its identifier, if this was so before. -/
lemma entry_claim {f : Faults}
    (hl : ∀ h y, l h = some y → y.claim < s.claims.length ∧ s.identifier y.claim = y.identifier)
    (hg : Grows s s') {h : HandleId} {y : Holder} (hy : l.after f s op h = some y) :
    y.claim < s'.claims.length ∧ s'.identifier y.claim = y.identifier := by
  obtain ⟨hlt, hx⟩ : y.claim < s.claims.length ∧ s.identifier y.claim = y.identifier := by
    rcases after_entry hy with ⟨y', hy', hc, hx, -⟩ | ⟨happ, ho⟩
    · rw [← hc, ← hx]
      exact hl h y' hy'
    · exact ⟨(opened_from happ ho).1, (opened_from happ ho).2.1⟩
  exact ⟨Nat.lt_of_lt_of_le hlt hg.length_le, (hg.identifier_eq hlt).trans hx⟩

end Entries

/-! ### Users of databases -/

/-- A repository is open, or a live writer works on it. -/
def Active (l : Ledger) (s : Store κ) (r : RepositoryId) : Prop :=
  (∃ b, s.backend? r = some b) ∨ ∃ x h, l.writesTo r x h = true

/-- **A handle is a live writer of a row.** -/
def RowWriter (l : Ledger) (s : Store κ) (h : HandleId) (d : DatabaseId) (key : String) : Prop :=
  ∃ r p w, s.backendOf? r = some (.database d p w) ∧ l.writesTo r key h = true

/-- **Entries, claims, repositories and databases belong together.** -/
structure Rooted (l : Ledger) (s : Store κ) : Prop where
  /-- The claim of an entry is there. -/
  claim_lt : ∀ h y, l h = some y → y.claim < s.claims.length
  /-- It has the identifier that the entry says. -/
  identifier_eq : ∀ h y, l h = some y → s.identifier y.claim = y.identifier
  /-- The database of a repository is there. -/
  database_lt : ∀ r d p w, s.backendOf? r = some (.database d p w) → d < s.databases.length
  /-- No two repositories use one database at a time. -/
  unique : ∀ r r' d p p' w w', s.backendOf? r = some (.database d p w) →
    s.backendOf? r' = some (.database d p' w') → Active l s r → Active l s r' → r = r'

/-- What has a row unsaved uses the database. -/
lemma mem_resources_of_unsaved {x : Handle} {d : DatabaseId} {key : String} {v : Bytes}
    (hx : x.unsaved? = some (d, key, v)) : Resource.database d ∈ x.resources := by
  cases x with
  | mapping m =>
    obtain ⟨backing, readOnly, ⟨_ | ⟨k, hs⟩, fired⟩⟩ := m
    · cases hx
    · cases k with
      | store d' key' =>
        cases backing with
        | buffer b =>
          obtain ⟨v', -, heq⟩ := Option.map_eq_some_iff.1 hx
          obtain rfl : d' = d := congrArg Prod.fst heq
          simp [Handle.resources, Mapping.resources, UnmapHooks.resources, Hook.resources]
        | file => cases hx
        | entry => cases hx
      | hold => cases hx
      | record => cases hx
  | writer w =>
    obtain ⟨c, sink, n, _ | k⟩ := w
    · cases hx
    · cases sink with
      | row d' key' v' =>
        obtain rfl : d' = d := congrArg Prod.fst (Option.some.inj hx)
        simp [Handle.resources, Writer.resources, Writer.keptResources]
      | file => cases hx
      | entry => cases hx
  | _ => cases hx

/-- **A live writer of a row has it unsaved.** -/
lemma Tells.unsaved_of_rowWriter (ht : Tells l s) {h : HandleId} {d : DatabaseId} {key : String}
    (hw : RowWriter l s h d key) : ∃ v, Unsaved s h d key v := by
  obtain ⟨r, p, w, hb, hwrites⟩ := hw
  obtain ⟨y, z, hy, hyw, hz⟩ := ht.handle_of_writesTo hwrites
  obtain ⟨v, hv⟩ := unsaved_of_writes (ht.described h z hz) hy hyw hb
  exact ⟨v, z, hz, hv⟩

/-- **The database of an active repository is in use.** -/
lemma Tells.usesDatabase (ht : Tells l s) {r : RepositoryId} {d : DatabaseId} {p : Path}
    {w : RegistryId} (hb : s.backendOf? r = some (.database d p w)) (ha : Active l s r) :
    s.usesDatabase d = true := by
  unfold Store.usesDatabase
  refine Bool.or_eq_true_iff.2 ?_
  rcases ha with ⟨b, hopen⟩ | ⟨key, h, hw⟩
  · refine .inl (List.any_eq_true.2 ?_)
    obtain ⟨x, hx, hbx⟩ := Option.map_eq_some_iff.1 hb
    refine ⟨x, List.mem_of_getElem? hx, ?_⟩
    rw [backend?, hx] at hopen
    dsimp only at hopen
    split at hopen
    · next ho => simp [ho, hbx]
    · cases hopen
  · refine .inr (List.any_eq_true.2 ?_)
    obtain ⟨v, z, hz, hu⟩ := ht.unsaved_of_rowWriter ⟨r, p, w, hb, hw⟩
    refine ⟨some z, List.mem_of_getElem? (handle?_eq_some.1 hz), ?_⟩
    exact List.contains_iff_mem.2 (mem_resources_of_unsaved hu)

/-! ### Repositories after an operation -/

section Steps

variable {op : Operation κ}

/-- **A repository after an operation** was there, or it is new and nobody used its database. -/
lemma Effect.backendOf?_back (h : Effect l l' s op s') {r : RepositoryId} {b : Backend}
    (hb : s'.backendOf? r = some b) :
    s.backendOf? r = some b ∨ (r = s.repositories.length ∧ (∀ d p w, b = .database d p w →
      d < s'.databases.length ∧ (d < s.databases.length → s.usesDatabase d = false)) ∧
        ∃ kind, op = .openRepository kind) := by
  have same : s'.repositories = s.repositories → s.backendOf? r = some b := fun hr =>
    backendOf?_congr hr r ▸ hb
  cases h with
  | founds hop _ h =>
    rcases h.repositories_eq with hr | ⟨b', hr, -, hnew⟩
    · exact .inl (same hr)
    · exact (backendOf?_concat hr hb).imp_right fun ⟨hlen, heq⟩ => ⟨hlen, heq ▸ hnew, _, hop⟩
  | closes _ h => exact .inl (s.backendOf?_closeRepository _ r ▸ h ▸ hb)
  | removes _ _ frame _ _ => exact .inl (same frame.repositories_eq)
  | frame _ _ hr _ _ => exact .inl (same hr)
  | carries _ h => exact .inl (same h.repositories_eq)
  | adds added _ _ => exact .inl (same added.repositories_eq)
  | ends _ _ ended _ _ _ _ _ => exact .inl (same ended.repositories_eq)

/-- A repository that is open after an operation was open before it, or it is new. -/
lemma Effect.backend?_back (h : Effect l l' s op s') {r : RepositoryId} {b : Backend}
    (hb : s'.backend? r = some b) : (∃ b, s.backend? r = some b) ∨ r = s.repositories.length := by
  have same : s'.repositories = s.repositories → ∃ b, s.backend? r = some b := fun hr =>
    ⟨b, by rw [← hb, backend?, backend?, hr]⟩
  cases h with
  | founds _ _ h =>
    rcases h.repositories_eq with hr | ⟨b', hr, -⟩
    · exact .inl (same hr)
    · rcases Nat.lt_trichotomy r s.repositories.length with hlt | heq | hgt
      · refine .inl ⟨b, ?_⟩
        rw [backend?, hr, List.getElem?_append_left hlt] at hb
        exact hb
      · exact .inr heq
      · rw [backend?, hr, List.getElem?_eq_none (by simp; omega)] at hb
        cases hb
  | @closes i _ h =>
    subst h
    rw [backend?, Store.closeRepository, List.getElem?_modify] at hb
    cases hx : s.repositories[r]? with
    | none => simp [hx] at hb
    | some x =>
      by_cases hi : i = r
      · simp [hx, hi] at hb
      · refine .inl ⟨b, ?_⟩
        simpa [backend?, hx, hi] using hb
  | removes _ _ frame _ _ => exact .inl (same frame.repositories_eq)
  | frame _ _ hr _ _ => exact .inl (same hr)
  | carries _ h => exact .inl (same h.repositories_eq)
  | adds added _ _ => exact .inl (same added.repositories_eq)
  | ends _ _ ended _ _ _ _ _ => exact .inl (same ended.repositories_eq)

/-- What is saved adds no database. -/
lemma length_saved (s : Store κ) (u : Option (DatabaseId × String × Bytes)) :
    (s.saved u).length = s.databases.length := by
  rcases u with _ | ⟨d, key, v⟩
  · rfl
  · exact List.length_modify ..

/-- No database is taken away. -/
lemma Effect.length_le (h : Effect l l' s op s') : s.databases.length ≤ s'.databases.length := by
  cases h with
  | founds _ _ h => exact h.length_le
  | closes _ h => exact h ▸ Nat.le_refl _
  | removes _ _ _ hlen _ => exact Nat.le_of_eq hlen.symm
  | frame _ _ _ hd _ => exact hd ▸ Nat.le_refl _
  | carries _ h => exact h.databases_eq ▸ Nat.le_refl _
  | adds added _ _ => exact added.databases_eq ▸ Nat.le_refl _
  | ends _ _ _ _ _ _ hd _ => exact Nat.le_of_eq (hd ▸ (length_saved s _).symm)

/-- An active repository is there. -/
lemma Tells.backendOf?_of_active (ht : Tells l s) {r : RepositoryId} (ha : Active l s r) :
    ∃ b, s.backendOf? r = some b := by
  rcases ha with ⟨b, hb⟩ | ⟨x, h, hw⟩
  · exact ⟨b, backendOf?_of_backend? hb⟩
  · exact ht.backend_of_writesTo hw

variable [DecidableEq κ] [ToString κ]

/-- An active repository was active, or it is new. -/
lemma Effect.active_back {f : Faults} (h : Effect l (l.after f s op) s op s') {r : RepositoryId}
    (ha : Active (l.after f s op) s' r) : Active l s r ∨ r = s.repositories.length := by
  rcases ha with ⟨b, hb⟩ | ⟨x, i, hw⟩
  · exact (h.backend?_back hb).imp_left .inl
  · refine .inl ?_
    obtain ⟨y, hy, hwrites⟩ := Ledger.writesTo_iff.1 hw
    rcases after_entry hy with ⟨y', hy', -, -, hlive⟩ | ⟨happ, ho⟩
    · exact .inr ⟨x, i, Ledger.writesTo_iff.2 ⟨y', hy', hlive r x hwrites⟩⟩
    · exact .inl ((opened_from happ ho).2.2 r x hwrites)

/-- **Operations keep entries, claims, repositories and databases together.**

**Proof sketch.** The claim of an entry is there when the entry is made, and stays. A new repository
has a database that is new or that nobody used, and the repositories that were active before used
theirs. -/
lemma Rooted.step (hr : Rooted l s) (ht : Tells l s) (hs : s.Sound) (op : Operation κ) :
    Rooted (l.after .quiet s op) (s.step op) := by
  have heff := ht.effect_step hs op
  -- an active repository that is not new keeps its database
  have was : ∀ {r b}, (s.step op).backendOf? r = some b → Active l s r →
      s.backendOf? r = some b := by
    intro r b hb ha
    obtain ⟨b', hb'⟩ := ht.backendOf?_of_active ha
    rwa [← heff.backendOf? hb', hb] at hb'
  have fresh : ∀ {r r' d p p' w w'}, (s.step op).backendOf? r = some (.database d p w) →
      Active l s r → (s.step op).backendOf? r' = some (.database d p' w') →
        r' = s.repositories.length → False := by
    intro r r' d p p' w w' hb ha hb' hr'
    have hold := was hb ha
    rcases heff.backendOf?_back hb' with h | ⟨-, hnew, -⟩
    · obtain ⟨x, hx, -⟩ := Option.map_eq_some_iff.1 h
      exact Nat.lt_irrefl _ (hr' ▸ (List.getElem?_eq_some_iff.1 hx).1)
    · have hunused := (hnew d p' w' rfl).2 (hr.database_lt r d p w hold)
      exact absurd (ht.usesDatabase hold ha) (by simp [hunused])
  have hclaims := fun h y (hy : l h = some y) => And.intro (hr.claim_lt h y hy)
    (hr.identifier_eq h y hy)
  refine ⟨fun h y hy => (entry_claim hclaims heff.grows hy).1,
    fun h y hy => (entry_claim hclaims heff.grows hy).2, fun r d p w hb => ?_, ?_⟩
  · rcases heff.backendOf?_back hb with h | ⟨-, hnew, -⟩
    · exact Nat.lt_of_lt_of_le (hr.database_lt r d p w h) heff.length_le
    · exact (hnew d p w rfl).1
  · intro r r' d p p' w w' hb hb' ha ha'
    rcases heff.active_back ha with ha | hlen <;> rcases heff.active_back ha' with ha' | hlen'
    · exact hr.unique r r' d p p' w w' (was hb ha) (was hb' ha') ha ha'
    · exact (fresh hb ha hb' hlen').elim
    · exact (fresh hb' ha' hb hlen).elim
    · rw [hlen, hlen']

/-! ### Rows after an operation -/

omit [DecidableEq κ] [ToString κ] in
/-- A row after another one, or this one, was saved. -/
lemma row?_saved {d : DatabaseId} {x : String} {u : Option (DatabaseId × String × Bytes)}
    (hd : s'.databases = s.saved u) (hne : s'.row? d x ≠ s.row? d x) : ∃ v, u = some (d, x, v) := by
  rcases u with _ | ⟨d', key, v⟩
  · refine absurd ?_ hne
    rw [row?, hd]
    rfl
  · have hrow : s'.row? d x = (s.modifyDatabase d' (·.put key v)).row? d x := by
      rw [row?, hd]
      rfl
    rw [hrow] at hne
    by_cases hdd : d' = d
    · subst hdd
      by_cases hlt : d' < s.databases.length
      · rw [row?_put hlt] at hne
        by_cases hx : x = key
        · exact ⟨v, by rw [hx]⟩
        · exact absurd (if_neg hx) hne
      · refine absurd ?_ hne
        rw [row?, modifyDatabase, List.modify_eq_self (Nat.le_of_not_lt hlt), row?]
    · exact absurd (row?_modify_ne _ hdd x) hne

/-- **What changes a row.** -/
lemma Tells.row?_step (ht : Tells l s) (hs : s.Sound) {d : DatabaseId} {x : String}
    (hne : (s.step op).row? d x ≠ s.row? d x) :
    (∃ h, Finishes s h op ∧ RowWriter l s h d x) ∨
      (∃ r c, op = .removeContent r c ∧ c < s.claims.length ∧
        (∃ p w, s.backend? r = some (.database d p w)) ∧ s.identifier c = x ∧ s.references c = 0 ∧
          (s.removeContent r c).2 = .ok true) ∨
        (s.usesDatabase d = false ∧ s.Emptied d) := by
  have same : (s.step op).databases = s.databases → (s.step op).row? d x = s.row? d x :=
    fun hd => by rw [row?, row?, hd]
  cases ht.effect_step hs op with
  | founds _ _ h => exact .inr (.inr (h.row?_ne d x hne))
  | closes _ h => exact absurd (same (h ▸ rfl)) hne
  | @removes r c hop _ _ _ _ =>
    subst hop
    refine .inr (.inl ⟨r, c, rfl, ?_⟩)
    unfold Store.step at hne
    split at hne
    · next happ => exact ⟨of_decide_eq_true happ, row?_removeContent hne⟩
    · exact absurd rfl hne
  | frame _ _ _ hd _ => exact absurd (same hd) hne
  | carries _ h => exact absurd (same h.databases_eq) hne
  | adds added _ _ => exact absurd (same added.databases_eq) hne
  | @ends h z _ _ hfin hz _ _ _ _ hd _ =>
    obtain ⟨v, hv⟩ := row?_saved hd hne
    obtain ⟨y, r, p, w, hy, hw, hb⟩ := writes_of_unsaved (ht.described h z hz) hv
    exact .inl ⟨h, hfin, r, p, w, hb, Ledger.writesTo_iff.2 ⟨y, hy, hw⟩⟩

/-- **A row with a live writer stays** until this one ends, where no two claims have one identifier.

**Proof sketch.** Another live writer would have a lease of the same registry for the same
identifier. A removal needs a claim without references, and the writer refers to the only one with
this identifier. The database is in use, so it is not opened. -/
lemma Rooted.row?_eq (hr : Rooted l s) (ht : Tells l s) (hs : s.Sound)
    (hone : (s.claims.map (·.identifier)).Nodup) {h : HandleId} {d : DatabaseId} {x : String}
    (hw : RowWriter l s h d x) (hfin : ¬ Finishes s h op) :
    (s.step op).row? d x = s.row? d x := by
  by_contra hne
  obtain ⟨r, p, w, hb, hwrites⟩ := hw
  rcases ht.row?_step hs hne with ⟨h', hfin', r', p', w', hb', hwrites'⟩ |
    ⟨r', c, -, hc, -, hx, href, -⟩ | ⟨hunused, -⟩
  · obtain rfl := hr.unique r r' d p p' w w' hb hb' (.inr ⟨x, h, hwrites⟩) (.inr ⟨x, h', hwrites'⟩)
    exact hfin (ht.writer_unique hs hb hwrites hwrites' ▸ hfin')
  · obtain ⟨y, z, hy, hyw, hz⟩ := ht.handle_of_writesTo hwrites
    have hident : y.identifier = x := by
      simp only [Holder.writes, Bool.and_eq_true, beq_iff_eq] at hyw
      exact hyw.1.2
    have hclaim : c = y.claim := claim_inj hone hc (hr.claim_lt h y hy)
      (hx.trans (hident.symm.trans (hr.identifier_eq h y hy).symm))
    have hpos := ht.references_pos hs (h := h) (c := c) (by
      rw [Ledger.refersTo, hy, hclaim]
      simp [refers_of_writes hyw])
    exact Nat.lt_irrefl _ (href ▸ hpos)
  · exact absurd (ht.usesDatabase hb (.inr ⟨x, h, hwrites⟩)) (by simp [hunused])

/-- **What a live writer has not saved is the row after its end.** -/
lemma Rooted.row?_finishes (hr : Rooted l s) (ht : Tells l s) {h : HandleId} {d : DatabaseId}
    {x : String} {v : Bytes} (hw : RowWriter l s h d x) (hu : Unsaved s h d x v)
    (hfin : Finishes s h op) : (s.step op).row? d x = some v := by
  obtain ⟨r, p, w, hb, -⟩ := hw
  obtain ⟨z, hz, hv⟩ := hu
  have hlt := hr.database_lt r d p w hb
  have put : ∀ s' : Store κ, s'.databases = s.saved z.unsaved? → s'.row? d x = some v := by
    intro s' hd
    have hrow : s'.row? d x = (s.modifyDatabase d (·.put x v)).row? d x := by
      rw [row?, hd, hv]
      rfl
    rw [hrow, row?_put hlt, if_pos rfl]
  have hd := ht.described h z hz
  cases hfin with
  | @unmap m hm =>
    obtain rfl : z = .mapping m := Option.some.inj (hz.symm.trans (mapping?_eq_some.1 hm))
    exact put _ (databases_unmap hd hm)
  | @close k hk =>
    obtain rfl : z = .writer k := Option.some.inj (hz.symm.trans (writer?_eq_some.1 hk))
    rcases unsaved_cases hv with ⟨m, b, hs, heq, -⟩ | ⟨k', i, heq, hi, -⟩
    · cases heq
    · obtain rfl := Handle.writer.inj heq
      exact put _ (databases_close hk (by rw [Writer.isOpen, hi]; rfl))
  | drop => exact put _ (databases_drop hd hz)

end Steps

end ClaimStore.Store
