import Mathlib.Data.List.Induction
import ClaimStore.Proofs.Commits

/-!
# No lost updates among callers at the same time

A removal looks at the references of its claim and erases after that, and nothing keeps other
callers away in between. So a writer can be opened after the look, and the erase then takes away the
row that the writer has read: what the writer stores at its end was made of a row that is no longer
there. Here the moves of callers that work at the same time are interleaved in any order, with every
removal in two moves. Updates are lost exactly where an erase takes the row from under a draft.

## Main definitions

* `ClaimStore.Move`, `ClaimStore.Scene`, `Scene.move` — moves of callers, and what they lead to.
* `Scene.NoLostUpdate` — a row changes only where a live writer ends or a removal says so, and
  commits go by the drafts.
* `Scene.Loses` — an erase takes the row from under a draft.

## Main results

* `Scene.split_removal` — a removal that nothing comes between is the two moves of it.
* `Scene.Regular.move` — what holds of a scene after every move.
* `Scene.Regular.drafted_move` — drafts are up with the rows, unless an erase takes a row from one.
* `Scene.Regular.not_loses` — where commits go by the drafts, before an erase and after it, it takes
  no row from a draft.
* `noLostUpdate_moves_iff` — no update is lost if and only if no erase takes a row from under a
  draft.
* `noLostUpdate_calls` — callers whose removals nothing comes between lose no update.

## Design

All other operations are one move each. Opening a writer or a mapping refers to its claim and takes
its lease before it reads the row, in one transaction; ending one stores the row, in one
transaction, before it gives anything back. So nothing but an erase can change the row in between,
and an erase before the row is read, or after it is stored, is as good as one before or after the
whole operation. That commits last is asked for where it matters: a database whose file was emptied
by something else begins anew when it is opened again. -/

set_option autoImplicit false

namespace ClaimStore

open Store

/-- A move of callers that work at the same time. -/
inductive Move (κ : Type) where
  /-- An operation that nothing comes between. -/
  | call (op : Operation κ)
  /-- The first move of a removal: it looks at the references of the claim. -/
  | check (r : RepositoryId) (c : ClaimId)
  /-- The last move of the `k`-th removal that is under way: it erases. -/
  | erase (k : Nat)

/-- A store on which callers work at the same time, and what is known of them. -/
structure Scene (κ : Type) where
  /-- The store. -/
  store : Store κ
  /-- The removals that found their claim unreferenced and have not erased yet, oldest first. -/
  removals : List (RepositoryId × ClaimId)
  /-- The ledger of the callers. -/
  ledger : Ledger
  /-- The drafts of the callers. -/
  drafts : Drafts

namespace Scene

variable {κ : Type}

/-- A handle is a live writer of a row. -/
def RowWriter (p : Scene κ) (h : HandleId) (d : DatabaseId) (x : String) : Prop :=
  Store.RowWriter p.ledger p.store h d x

variable [DecidableEq κ] [ToString κ]

/-- A removal finds its claim there, its repository open and the claim unreferenced. -/
def Passes (p : Scene κ) (r : RepositoryId) (c : ClaimId) : Prop :=
  p.store.applies (.removeContent r c) = true ∧ (p.store.backend? r).isSome = true ∧
    p.store.checkUnreferenced c = .ok ()

instance (p : Scene κ) (r : RepositoryId) (c : ClaimId) : Decidable (p.Passes r c) :=
  inferInstanceAs (Decidable (_ ∧ _ ∧ _))

/-- The scene after a move. A removal that is refused goes no further than its first move. -/
def move (p : Scene κ) : Move κ → Scene κ
  | .call op =>
    { p with store := p.store.step op, ledger := p.ledger.after .quiet p.store op,
             drafts := p.drafts.after p.store op }
  | .check r c => if p.Passes r c then { p with removals := p.removals ++ [(r, c)] } else p
  | .erase k =>
    match p.removals[k]? with
    | some (r, c) =>
      { p with store := (p.store.eraseContent r c).1, removals := p.removals.eraseIdx k }
    | none => p

/-- The scene after moves, one after the other. -/
def run (p : Scene κ) (ms : List (Move κ)) : Scene κ := ms.foldl move p

/-- The scene after moves on an empty store. -/
def after (name : String) (ms : List (Move κ)) : Scene κ :=
  (⟨onDirectory name, [], .empty, .empty⟩ : Scene κ).run ms

/-- The removal that a move makes or ends, and its answer. -/
def removed? (p : Scene κ) : Move κ → Option (RepositoryId × ClaimId × Except Failure Bool)
  | .call (.removeContent r c) => some (r, c, (p.store.removeContent r c).2)
  | .erase k => p.removals[k]?.map fun q => (q.1, q.2, (p.store.eraseContent q.1 q.2).2)
  | _ => none

/-- **What commits mean in a scene.** -/
structure NoLostUpdate (p : Scene κ) : Prop where
  /-- A row changes only at the end of a live writer of it, or where a removal says so, as long as
  the file of its database is not emptied by something else. -/
  changed : ∀ m d x, ¬ p.store.Emptied d → (p.move m).store.row? d x ≠ p.store.row? d x →
    (∃ h op, m = .call op ∧ p.RowWriter h d x ∧ Finishes p.store h op) ∨
      ∃ r c path w, p.removed? m = some (r, c, .ok true) ∧
        p.store.backend? r = some (.database d path w) ∧ p.store.identifier c = x
  /-- At its end, a live writer stores what its draft makes of the row as it is then, and it stores
  before it gives anything back and before hooks of callers run. -/
  commits : Commits p.ledger p.drafts p.store

/-- **An erase takes the row from under a draft**: a live writer of the row has a draft that makes
something else of it than of no row. -/
def Loses (p : Scene κ) (m : Move κ) : Prop :=
  ∃ k r c d path w h δ v, m = .erase k ∧ p.removals[k]? = some (r, c) ∧
    p.store.backend? r = some (.database d path w) ∧ p.RowWriter h d (p.store.identifier c) ∧
      p.drafts h = some δ ∧ p.store.row? d (p.store.identifier c) = some v ∧
        δ.result (some v) ≠ δ.result none

/-! ### Removals in two moves -/

/-- A removal that does not pass its first look changes nothing. -/
lemma removeContent_eq_of_not_passes {p : Scene κ} {r : RepositoryId} {c : ClaimId}
    (h : ¬ p.Passes r c) : p.store.step (.removeContent r c) = p.store := by
  unfold Store.step
  split
  swap
  · rfl
  next happ =>
  show (p.store.removeContent r c).1 = p.store
  unfold removeContent inRepository
  cases hb : p.store.backend? r with
  | none => rfl
  | some b =>
    rcases p.store.removeIn_cases b c with ⟨f, heq⟩ | ⟨hzero, -⟩
    · exact congrArg Prod.fst heq
    · refine absurd ⟨happ, by rw [hb]; rfl, ?_⟩ h
      rw [checkUnreferenced, hzero]
      rfl

/-- A removal that passes its first look erases, if nothing comes between. -/
lemma removeContent_eq_of_passes {p : Scene κ} {r : RepositoryId} {c : ClaimId}
    (h : p.Passes r c) : p.store.step (.removeContent r c) = (p.store.eraseContent r c).1 := by
  obtain ⟨happ, hopen, hcheck⟩ := h
  obtain ⟨b, hb⟩ := Option.isSome_iff_exists.1 hopen
  rw [Store.step, if_pos happ]
  show (p.store.removeContent r c).1 = _
  rw [removeContent, eraseContent, inRepository, inRepository, hb]
  dsimp only
  rw [removeIn, hcheck]

/-- **A removal that nothing comes between is the two moves of it.**

**Proof sketch.** Where the first move passes, the second erases what the whole removal erases;
where it does not, there is no second one, and the whole removal is refused. -/
theorem split_removal (p : Scene κ) (r : RepositoryId) (c : ClaimId) :
    (p.move (.check r c)).move (.erase p.removals.length) = p.move (.call (.removeContent r c)) := by
  have hledger : p.ledger.after .quiet p.store (.removeContent r c) = p.ledger := by
    unfold Ledger.after
    split <;> rfl
  have hdrafts : p.drafts.after p.store (.removeContent r c) = p.drafts := by
    unfold Drafts.after
    split <;> rfl
  by_cases h : p.Passes r c
  · simp only [move, if_pos h, hledger, hdrafts, removeContent_eq_of_passes h,
      List.getElem?_concat_length, List.eraseIdx_append_of_length_le (Nat.le_refl _), Nat.sub_self,
      List.eraseIdx_cons_zero, List.append_nil]
  · simp only [move, if_neg h, hledger, hdrafts, removeContent_eq_of_not_passes h,
      List.getElem?_eq_none (Nat.le_refl _)]

/-! ### What holds of every scene -/

/-- **What holds of a scene**: its store is sound, its ledger is true, and the entries of the ledger
belong to what is there. -/
structure Regular (p : Scene κ) : Prop where
  /-- The store is sound. -/
  sound : p.store.Sound
  /-- The ledger is true. -/
  tells : Tells p.ledger p.store
  /-- Entries, claims, repositories and databases belong together. -/
  rooted : Rooted p.ledger p.store

section Invariants

variable {p : Scene κ}

omit [DecidableEq κ] [ToString κ] in
/-- **What belongs together still does** after a step that leaves handles, repositories,
identifiers and the number of databases. -/
lemma rooted_of_frame {s s' : Store κ} {l : Ledger} (hr : Rooted l s) (hf : Frame s s')
    (hlen : s'.databases.length = s.databases.length) : Rooted l s' := by
  have hclaims : s'.claims.length = s.claims.length := by
    simpa using congrArg List.length hf.identifiers_eq
  have hb : ∀ r, s'.backendOf? r = s.backendOf? r := backendOf?_congr hf.repositories_eq
  have active : ∀ r, Active l s' r → Active l s r := by
    rintro r (⟨b, hopen⟩ | hw)
    · exact .inl ⟨b, by rw [← hopen, backend?, backend?, hf.repositories_eq]⟩
    · exact .inr hw
  refine ⟨fun h y hy => hclaims ▸ hr.claim_lt h y hy, fun h y hy => ?_, fun r d q w h => ?_,
    fun r r' d q q' w w' h h' ha ha' => ?_⟩
  · rw [identifier_eq_getD, hf.identifiers_eq, ← identifier_eq_getD]
    exact hr.identifier_eq h y hy
  · exact hlen ▸ hr.database_lt r d q w (hb r ▸ h)
  · exact hr.unique r r' d q q' w w' (hb r ▸ h) (hb r' ▸ h') (active r ha) (active r' ha')

/-- An erase that is not under way changes nothing. -/
lemma move_erase_none {k : Nat} (h : p.removals[k]? = none) : p.move (.erase k) = p := by
  simp only [move, h]

/-- An erase that is under way. -/
lemma move_erase_some {k : Nat} {r : RepositoryId} {c : ClaimId}
    (h : p.removals[k]? = some (r, c)) :
    p.move (.erase k) =
      { p with store := (p.store.eraseContent r c).1, removals := p.removals.eraseIdx k } := by
  simp only [move, h]

/-- The first look of a removal leaves the store, the ledger and the drafts. -/
lemma move_check (p : Scene κ) (r : RepositoryId) (c : ClaimId) :
    ∃ removals, p.move (.check r c) = { p with removals } := by
  by_cases h : p.Passes r c
  · exact ⟨_, if_pos h⟩
  · exact ⟨_, if_neg h⟩

/-- **Every move keeps a scene regular.**

**Proof sketch.** An operation does, a first look leaves all of this, and an erase leaves handles,
repositories and identifiers. -/
lemma Regular.move (hp : p.Regular) (m : Move κ) : (p.move m).Regular := by
  cases m with
  | call op =>
    exact ⟨(hp.sound.step op).sound, hp.tells.step hp.sound op,
      hp.rooted.step hp.tells hp.sound op⟩
  | check r c =>
    obtain ⟨removals, heq⟩ := p.move_check r c
    rw [heq]
    exact ⟨hp.sound, hp.tells, hp.rooted⟩
  | erase k =>
    cases hk : p.removals[k]? with
    | none => exact (move_erase_none hk).symm ▸ hp
    | some q =>
      rw [move_erase_some hk]
      have frame := p.store.frame_eraseContent q.1 q.2
      exact ⟨(hp.sound.inRepository fun b hb => .nothing (took_eraseIn hb)).sound,
        hp.tells.of_frame frame.handles_eq frame.repositories_eq,
        rooted_of_frame hp.rooted frame (p.store.length_eraseContent q.1 q.2)⟩

/-- No move takes an identifier away. -/
lemma Regular.grows (hp : p.Regular) (m : Move κ) : Grows p.store (p.move m).store := by
  cases m with
  | call op => exact (hp.tells.effect_step hp.sound op).grows
  | check r c =>
    obtain ⟨removals, heq⟩ := p.move_check r c
    rw [heq]
    exact List.prefix_rfl
  | erase k =>
    cases hk : p.removals[k]? with
    | none =>
      rw [move_erase_none hk]
      exact List.prefix_rfl
    | some q =>
      rw [move_erase_some hk]
      exact grows_of_eq (p.store.frame_eraseContent q.1 q.2).identifiers_eq

/-! ### Rows -/

/-- **What changes a row in a scene.** -/
lemma Regular.changed (hp : p.Regular) {m : Move κ} {d : DatabaseId} {x : String}
    (hfile : ¬ p.store.Emptied d) (hne : (p.move m).store.row? d x ≠ p.store.row? d x) :
    (∃ h op, m = .call op ∧ p.RowWriter h d x ∧ Finishes p.store h op) ∨
      ∃ r c path w, p.removed? m = some (r, c, .ok true) ∧
        p.store.backend? r = some (.database d path w) ∧ p.store.identifier c = x := by
  cases m with
  | call op =>
    rcases hp.tells.row?_step hp.sound hne with ⟨h, hfin, hw⟩ |
      ⟨r, c, rfl, -, ⟨path, w, hb⟩, hx, -, hans⟩ | ⟨-, hempty⟩
    · exact .inl ⟨h, op, rfl, hw, hfin⟩
    · exact .inr ⟨r, c, path, w, by rw [removed?, hans], hb, hx⟩
    · exact absurd hempty hfile
  | check r c =>
    obtain ⟨removals, heq⟩ := p.move_check r c
    rw [heq] at hne
    exact absurd rfl hne
  | erase k =>
    cases hk : p.removals[k]? with
    | none =>
      rw [move_erase_none hk] at hne
      exact absurd rfl hne
    | some q =>
      rw [move_erase_some hk] at hne
      obtain ⟨⟨path, w, hb⟩, hx, hans, -⟩ := row?_eraseContent hne
      exact .inr ⟨q.1, q.2, path, w, by rw [removed?, hk, Option.map_some, hans], hb, hx⟩

/-- **A scene whose drafts are up with the rows loses no update.** -/
lemma Regular.noLostUpdate (hp : p.Regular) (hd : Drafted p.ledger p.drafts p.store) :
    p.NoLostUpdate :=
  ⟨fun _ _ _ => hp.changed, hp.rooted.commits hp.tells hp.sound hd⟩

/-- **Drafts stay up with the rows after a move, unless an erase takes a row from one.**

**Proof sketch.** An operation keeps them up, since no claim shares its identifier with another. An
erase leaves the handles, and with them what is unsaved; the row it takes, if any, has a draft that
makes the same of no row. -/
lemma Regular.drafted_move (hp : p.Regular) (hd : Drafted p.ledger p.drafts p.store)
    (hone : (p.store.claims.map (·.identifier)).Nodup) {m : Move κ} (hm : ¬ p.Loses m) :
    Drafted (p.move m).ledger (p.move m).drafts (p.move m).store := by
  cases m with
  | call op => exact hd.step hp.rooted hp.tells hp.sound hone op
  | check r c =>
    obtain ⟨removals, heq⟩ := p.move_check r c
    rw [heq]
    exact hd
  | erase k =>
    cases hk : p.removals[k]? with
    | none => exact (move_erase_none hk).symm ▸ hd
    | some q =>
      rw [move_erase_some hk]
      have frame := p.store.frame_eraseContent q.1 q.2
      rintro h d x ⟨r, path, w, hb, hw⟩
      have hrow : p.RowWriter h d x :=
        ⟨r, path, w, (backendOf?_congr frame.repositories_eq r).symm.trans hb, hw⟩
      obtain ⟨δ, hδ, z, hz, hu⟩ := hd h d x hrow
      refine ⟨δ, hδ, z, (handle?_congr frame.handles_eq h).trans hz, ?_⟩
      rw [hu]
      by_cases hne : (p.store.eraseContent q.1 q.2).1.row? d x = p.store.row? d x
      · rw [hne]
      obtain ⟨⟨path', w', hb'⟩, rfl, -, hnone⟩ := row?_eraseContent hne
      rw [hnone] at hne ⊢
      obtain ⟨v, hv⟩ := Option.ne_none_iff_exists'.1 (Ne.symm hne)
      rw [hv]
      by_contra hother
      exact hm ⟨k, q.1, q.2, d, path', w', h, δ, v, rfl, hk, hb', hrow, hδ, hv,
        fun heq => hother (by rw [heq])⟩

/-- The end of a live writer stores what it has unsaved, whatever the row is then. -/
lemma Regular.result_eq (hp : p.Regular) (hc : Commits p.ledger p.drafts p.store) {h : HandleId}
    {d : DatabaseId} {x : String} {u : Bytes} {δ : Draft} (hw : p.RowWriter h d x)
    (hu : Unsaved p.store h d x u) (hδ : p.drafts h = some δ) :
    δ.result (p.store.row? d x) = u := by
  obtain ⟨δ', hδ', hstored⟩ := hc.committed (.drop h) h d x hw .drop
  obtain rfl := Option.some.inj (hδ'.symm.trans hδ)
  exact Option.some.inj (hstored.symm.trans (hp.rooted.row?_finishes hp.tells hw hu .drop))

/-- **Where commits go by the drafts before an erase and after it, it takes no row from a draft.**

**Proof sketch.** The writer has the same bytes unsaved before and after. They are what its draft
makes of the row before, and of no row after. -/
lemma Regular.not_loses (hp : p.Regular) {m : Move κ} (hbefore : p.NoLostUpdate)
    (hafter : (p.move m).NoLostUpdate) : ¬ p.Loses m := by
  rintro ⟨k, r, c, d, path, w, h, δ, v, rfl, hk, hb, hw, hδ, hv, hne⟩
  obtain ⟨u, hu⟩ := hp.tells.unsaved_of_rowWriter hw
  have before := hp.result_eq hbefore.commits hw hu hδ
  have regular := hp.move (.erase k)
  have frame := p.store.frame_eraseContent r c
  rw [move_erase_some hk] at regular hafter
  obtain ⟨i, path', w', hi, hwrites⟩ := hw
  obtain ⟨z, hz, hsaved⟩ := hu
  have after : δ.result ((p.store.eraseContent r c).1.row? d (p.store.identifier c)) = u :=
    regular.result_eq hafter.commits
      ⟨i, path', w', (backendOf?_congr frame.repositories_eq i).trans hi, hwrites⟩
      ⟨z, (handle?_congr frame.handles_eq h).trans hz, hsaved⟩ hδ
  have hgone : (p.store.eraseContent r c).1.row? d (p.store.identifier c) = none := by
    have hlt := hp.rooted.database_lt r d path w (backendOf?_of_backend? hb)
    rw [eraseContent, inRepository, hb]
    exact (row?_erase hlt _ _).trans (if_pos rfl)
  rw [hgone] at after
  rw [hv] at before
  exact hne (before.trans after.symm)

end Invariants

/-! ### Runs -/

/-- A run with one more move. -/
lemma run_concat (p : Scene κ) (ms : List (Move κ)) (m : Move κ) :
    p.run (ms ++ [m]) = (p.run ms).move m := by
  rw [run, List.foldl_append]
  rfl

/-- **Every scene is regular.** -/
lemma regular_after (name : String) (ms : List (Move κ)) : (after name ms).Regular := by
  induction ms using List.reverseRecOn with
  | nil => exact ⟨sound_onDirectory name, tells_empty name, rooted_empty name⟩
  | append_singleton ms m ih =>
    rw [after, run_concat]
    exact ih.move m

/-- Later moves take no identifier away. -/
lemma grows_after (name : String) {pre ms : List (Move κ)} (h : pre <+: ms) :
    Grows (after name pre).store (after name ms).store := by
  obtain ⟨rest, rfl⟩ := h
  induction rest using List.reverseRecOn with
  | nil =>
    rw [List.append_nil]
    exact List.prefix_rfl
  | append_singleton rest m ih =>
    refine ih.trans ?_
    rw [← List.append_assoc, after, after, run_concat]
    exact (regular_after name (pre ++ rest)).grows m

/-- **Drafts are up with the rows all along moves of which none takes a row from a draft.** -/
lemma drafted_after (name : String) {ms : List (Move κ)}
    (hone : ((after name ms).store.claims.map (·.identifier)).Nodup)
    (hnone : ∀ pre m, pre ++ [m] <+: ms → ¬ (after name pre).Loses m) {pre : List (Move κ)}
    (hpre : pre <+: ms) :
    Drafted (after name pre).ledger (after name pre).drafts (after name pre).store := by
  induction pre using List.reverseRecOn with
  | nil =>
    rintro h d x ⟨r, path, w, hb, hw⟩
    cases hw
  | append_singleton pre m ih =>
    have hbefore : pre <+: ms := (List.prefix_append pre [m]).trans hpre
    have hnow : ((after name pre).store.claims.map (·.identifier)).Nodup :=
      hone.sublist (grows_after name hbefore).sublist
    have hdrafted := (regular_after name pre).drafted_move (ih hbefore) hnow (hnone pre m hpre)
    rwa [after, run_concat]

end Scene

section Runs

variable {κ : Type} [DecidableEq κ] [ToString κ]

/-- **No update is lost if and only if no erase takes a row from under a draft.** The moves are of
any number of callers in any order, where no two claims have one identifier. In every scene on the
way, a row changes only at the end of a live writer of it or where a removal answers so, a live
writer stores at its end what its draft makes of the row as it is then, and it stores before it
gives anything back and before hooks of callers run; all this exactly as long as no removal erases
the row of a live writer whose draft builds on it. -/
theorem noLostUpdate_moves_iff (name : String) (ms : List (Move κ))
    (hone : ((Scene.after name ms).store.claims.map (·.identifier)).Nodup) :
    (∀ pre, pre <+: ms → (Scene.after name pre).NoLostUpdate) ↔
      ∀ pre m, pre ++ [m] <+: ms → ¬ (Scene.after name pre).Loses m := by
  constructor
  · intro hall pre m hpre
    have hbefore : pre <+: ms := (List.prefix_append pre [m]).trans hpre
    have hafter := hall (pre ++ [m]) hpre
    rw [Scene.after, Scene.run_concat] at hafter
    exact (Scene.regular_after name pre).not_loses (hall pre hbefore) hafter
  · intro hnone pre hpre
    exact (Scene.regular_after name pre).noLostUpdate (Scene.drafted_after name hone hnone hpre)

/-- **Callers whose removals nothing comes between lose no update**: no erase is a move of
theirs. -/
theorem noLostUpdate_calls (name : String) (ops : List (Operation κ))
    (hone : ((Scene.after name (ops.map .call)).store.claims.map (·.identifier)).Nodup) :
    (Scene.after name (ops.map .call)).NoLostUpdate := by
  refine (Scene.regular_after name _).noLostUpdate
    (Scene.drafted_after name hone (fun pre m hpre => ?_) List.prefix_rfl)
  rintro ⟨k, r, c, d, path, w, h, δ, v, rfl, -⟩
  have hmem : Move.erase k ∈ ops.map .call := hpre.subset (by simp)
  obtain ⟨op, -, hop⟩ := List.mem_map.1 hmem
  cases hop

end Runs

/-- Moves in which a writer is opened between the look of a removal and its erase. The row of `x` is
`1, 2`, and there is another claim. -/
def overtakenRemoval (append : Bool) : List (Move Nat) :=
  [.call (.openRepository (.database (.ofString "/d/rows"))), .call (.addClaim "x" (some 0)),
    .call (.addClaim "y" (some 0)), .call (.writeClaim 0 false),
    .call (.writeData 0 ⟨.ofList [1, 2], Payload.size_two_lt⟩), .call (.drop 0), .check 0 0,
    .call (.writeClaim 0 append),
    .call (.writeData 1 ⟨.ofList [1, 2, 3], Payload.size_three_lt⟩), .erase 0]

/-- A writer that replaces the row may be opened in between. -/
theorem noLostUpdate_moves_iff_replacing :
    ((Scene.after "d" (overtakenRemoval false)).store.claims.map (·.identifier)).Nodup ∧
      ((∀ pre, pre <+: overtakenRemoval false → (Scene.after "d" pre).NoLostUpdate) ↔
        ∀ pre m, pre ++ [m] <+: overtakenRemoval false → ¬ (Scene.after "d" pre).Loses m) :=
  ⟨by decide +kernel, noLostUpdate_moves_iff "d" (overtakenRemoval false) (by decide +kernel)⟩

/-- **A removal that a writer overtakes loses an update**: the erase takes the row away, and at its
end the writer stores it again, with what was added. -/
theorem not_noLostUpdate_moves : ¬ ∀ ms : List (Move Nat),
    ((Scene.after "d" ms).store.claims.map (·.identifier)).Nodup →
      ∀ pre, pre <+: ms → (Scene.after "d" pre).NoLostUpdate := by
  intro hall
  have hcommits := (hall (overtakenRemoval true) (by decide +kernel) _ List.prefix_rfl).commits
  obtain ⟨δ, hδ, hstored⟩ := hcommits.committed (.drop 1) 1 0 "x"
    ⟨0, .ofString "/d/rows", 0, by decide +kernel, by decide +kernel⟩ .drop
  have hdraft : (Scene.after "d" (overtakenRemoval true)).drafts 1 =
      some ⟨.append, [.write (.ofList [1, 2, 3])]⟩ := by decide +kernel
  obtain rfl := Option.some.inj (hdraft.symm.trans hδ)
  revert hstored
  decide +kernel

/-- The erase says that it removed something, while the claim is referenced; and the row that it
took away is back after the end of the writer. -/
example :
    let p := Scene.after "d" (overtakenRemoval true).dropLast
    p.removed? (.erase 0) = some (0, 0, .ok true) ∧ p.store.references 0 = 1 ∧
      (p.move (.erase 0)).store.row? 0 "x" = none ∧
        ((p.move (.erase 0)).store.step (.drop 1)).row? 0 "x" =
          some (.ofList [1, 2, 1, 2, 3]) := by
  decide +kernel

end ClaimStore
