import ClaimStore.Proofs.Ledger

/-!
# What ends store

A handle that ends stores at most one row: a writable mapping of a row the bytes that it shows last,
and a writer to a row the bytes that it collected. All other ends leave the databases as they are.

## Main definitions

* `Handle.unsaved?` — the row that a handle stores when it ends.
* `Store.saved` — the databases with that row.

## Main results

* `Store.databases_unmap`, `Store.databases_close`, `Store.databases_drop` — the rows after an end.
* `Store.writes_of_unsaved`, `Store.unsaved_of_writes` — the handles that store rows are the live
  writers of the ledger.
-/

set_option autoImplicit false

namespace ClaimStore

/-- The row that a handle stores when it ends, if it stores any: a database, a key and the bytes. -/
def Handle.unsaved? : Handle → Option (DatabaseId × String × Bytes)
  | .mapping m =>
    match m.hooks.pending, m.backing with
    | .store d x :: _, .buffer b => b.buffer.map fun v => (d, x, v)
    | _, _ => none
  | .writer w =>
    match w.lease, w.sink with
    | some _, .row d x v => some (d, x, v)
    | _, _ => none
  | _ => none

/-- The hook stores a row. -/
def Hook.isStore : Hook → Bool
  | .store .. => true
  | .hold .. | .record .. => false

namespace Store

variable {κ : Type} {s : Store κ} {h : HandleId} {o : Option Holder} {x : Handle}

/-- The databases after a row was stored, if there is one to be stored. -/
def saved (s : Store κ) : Option (DatabaseId × String × Bytes) → List Database
  | some (d, key, v) => s.databases.modify d (·.put key v)
  | none => s.databases

/-! ### Hooks -/

section Hooks

variable [DecidableEq κ]

/-- Hooks that store nothing leave the rows as they are. -/
lemma databases_runHooks {hs : List Hook} (hk : ∀ k ∈ hs, k.isStore = false) (s : Store κ)
    (view : Bytes) : (s.runHooks view hs).1.databases = s.databases := by
  induction hs generalizing s with
  | nil => rfl
  | cons k hs ih =>
    have hrest := ih (fun k' hk' => hk k' (List.mem_cons_of_mem _ hk')) (s.runHook view k).1
    have hfirst : (s.runHook view k).1.databases = s.databases := by
      cases k with
      | store d key => cases hk _ List.mem_cons_self
      | hold c l => exact (still_releaseAll s _).databases_eq
      | record name failure probe => rfl
    exact hrest.trans hfirst

omit [DecidableEq κ] in
/-- Hooks of callers store nothing. -/
lemma isStore_of_isCallers {hs : List Hook} (hc : ∀ k ∈ hs, k.isCallers = true) :
    ∀ k ∈ hs, k.isStore = false := by
  intro k hk
  have hcallers := hc k hk
  cases k with
  | record => rfl
  | store => cases hcallers
  | hold => cases hcallers

omit [DecidableEq κ] in
/-- Nor does the hook that gives back what a mapping holds. -/
lemma isStore_hold_cons {hs : List Hook} (hc : ∀ k ∈ hs, k.isCallers = true) (c : ClaimId)
    (l : Option Lease) : ∀ k ∈ Hook.hold c l :: hs, k.isStore = false := by
  intro k hk
  rcases List.mem_cons.1 hk with rfl | hk
  · rfl
  · exact isStore_of_isCallers hc k hk

end Hooks

/-! ### The handles that store -/

/-- **A mapping stores nothing, or it is a live writer of a row.** The store comes first among its
hooks, and then what gives back its lease and its reference. -/
inductive RowMapping (s : Store κ) (o : Option Holder) (m : Mapping) : Prop
  /-- It stores nothing. -/
  | none (hooks : ∀ k ∈ m.hooks.pending, k.isStore = false)
  /-- It stores a row. -/
  | some {c : ClaimId} {key : String} {r : RepositoryId} {d : DatabaseId} {p : Path}
      {w : RegistryId} {v : Bytes} {hs : List Hook}
      (holder_eq : o = .some ⟨c, key, .mapping r false, false⟩)
      (backend_eq : s.backendOf? r = .some (.database d p w))
      (callers : ∀ k ∈ hs, k.isCallers = true)
      (eq : m = ⟨.buffer ⟨.some v, .none⟩, false,
        ⟨.store d key :: .hold c (.some (.write w key)) :: hs, false⟩⟩)

/-- A mapping of the form that its entry tells stores nothing, or the row of the entry. -/
lemma rowMapping {m : Mapping} (hd : Described s o (.mapping m)) : RowMapping s o m := by
  cases hd with
  | @mapped c key r b m hb hf hs hp hc hk =>
    obtain ⟨k, readOnly, ⟨pending, fired⟩⟩ := m
    obtain rfl : fired = false := hf
    obtain rfl : pending = b.hooks c key readOnly ++ hs := hp
    cases b with
    | files directory w r' => exact .none (isStore_hold_cons hc c _)
    | volatile t w => exact .none (isStore_hold_cons hc c _)
    | database d p w =>
      cases readOnly with
      | true => exact .none (isStore_hold_cons hc c _)
      | false =>
        cases hk with
        | row d p w v => exact .some rfl hb hc rfl
  | unmapped hh => exact .none (by rw [hh]; exact fun k hk => nomatch hk)
  | plain hc => exact .none (isStore_of_isCallers hc)

/-- **A writer that was not closed has a lease**, and the sink of its backend. -/
lemma writer_open {w : Writer} (hd : Described s o (.writer w)) {l : Lease}
    (hl : w.lease = some l) :
    ∃ c key r b, o = some ⟨c, key, .writer r, false⟩ ∧ s.backendOf? r = some b ∧
      w.claim = c ∧ l = .write b.writers key ∧ b.Sinks key w.sink := by
  cases hd with
  | @writing c key r b w hb hc hlease hk =>
    exact ⟨c, key, r, b, rfl, hb, hc, Option.some.inj (hl.symm.trans hlease), hk⟩
  | closed hc hlease => cases hl.symm.trans hlease

/-- A hook that stores nothing does not come first in a mapping that stores. -/
lemma unsaved_eq_none {m : Mapping} (hk : ∀ k ∈ m.hooks.pending, k.isStore = false) :
    (Handle.mapping m).unsaved? = none := by
  obtain ⟨backing, readOnly, ⟨_ | ⟨k, ks⟩, fired⟩⟩ := m
  · rfl
  · have hfirst := hk k List.mem_cons_self
    cases k with
    | store d key => cases hfirst
    | hold c l => rfl
    | record name failure probe => rfl

/-- **What is unsaved is the row of a live writer.** -/
lemma writes_of_unsaved (hd : Described s o x) {d : DatabaseId} {key : String} {v : Bytes}
    (hx : x.unsaved? = some (d, key, v)) :
    ∃ y r p w, o = some y ∧ y.writes r key = true ∧ s.backendOf? r = some (.database d p w) := by
  cases x with
  | mapping m =>
    cases rowMapping hd with
    | none hk => cases hx.symm.trans (unsaved_eq_none hk)
    | @some c key' r d' p w v' hs ho hb hc heq =>
      subst heq
      obtain ⟨rfl, rfl, rfl⟩ : d' = d ∧ key' = key ∧ v' = v := by simpa [Handle.unsaved?] using hx
      exact ⟨_, r, p, w, ho, by simp [Holder.writes], hb⟩
  | writer w =>
    obtain ⟨c, sink, n, _ | l⟩ := w
    · cases hx
    · obtain ⟨c, key', r, b, ho, hb, -, -, hk⟩ := writer_open hd rfl
      cases hk with
      | file => cases hx
      | entry => cases hx
      | row d' p w v' =>
        obtain ⟨rfl, rfl, rfl⟩ : d' = d ∧ key' = key ∧ v' = v := by
          simpa [Handle.unsaved?] using hx
        exact ⟨_, r, p, w, ho, by simp [Holder.writes], hb⟩
  | _ => cases hx

/-- **A live writer of a row has it unsaved.** -/
lemma unsaved_of_writes (hd : Described s o x) {y : Holder} (ho : o = some y) {r : RepositoryId}
    {key : String} (hw : y.writes r key = true) {d : DatabaseId} {p : Path} {w : RegistryId}
    (hb : s.backendOf? r = some (.database d p w)) : ∃ v, x.unsaved? = some (d, key, v) := by
  subst ho
  cases hd with
  | reference => simp [Holder.writes] at hw
  | @mapped c key' r' b m hb' hf hs hp hc hk =>
    simp only [Holder.writes, Bool.not_false, Bool.true_and, Bool.and_eq_true, beq_iff_eq,
      Bool.or_eq_true, Grip.mapping.injEq, reduceCtorEq, or_false] at hw
    obtain ⟨rfl, rfl, hro⟩ := hw
    obtain rfl := Option.some.inj (hb'.symm.trans hb)
    obtain ⟨k, readOnly, ⟨pending, fired⟩⟩ := m
    obtain rfl : readOnly = false := hro
    obtain rfl : pending = (Backend.database d p w).hooks c key' false ++ hs := hp
    cases hk with
    | row d p w v => exact ⟨v, rfl⟩
  | unmapped => simp [Holder.writes] at hw
  | reader => simp [Holder.writes] at hw
  | @writing c key' r' b k hb' hc hl hk =>
    simp only [Holder.writes, Bool.not_false, Bool.true_and, Bool.and_eq_true, beq_iff_eq,
      Bool.or_eq_true, Grip.writer.injEq, reduceCtorEq, false_or] at hw
    obtain ⟨rfl, rfl⟩ := hw
    obtain rfl := Option.some.inj (hb'.symm.trans hb)
    obtain ⟨claim, sink, n, lease⟩ := k
    cases hk with
    | row d p w v => exact ⟨v, by simp [Handle.unsaved?, show lease = _ from hl]⟩
  | closed => simp [Holder.writes] at hw

/-! ### Ends -/

section Ends

/-- **What a close stores.** -/
lemma databases_close {w : Writer} (hw : s.writer? h = some w) (hopen : w.isOpen = true) :
    (s.close h).databases = s.saved (Handle.writer w).unsaved? := by
  obtain ⟨l, hl⟩ := Option.isSome_iff_exists.1 hopen
  have heq : (s.close h).databases = (s.commit w.sink).databases := by
    rw [close, hw]
    exact (congrArg Store.databases (if_pos hopen)).trans (still_releaseAll _ _).databases_eq
  rw [heq]
  obtain ⟨c, sink, n, lease⟩ := w
  obtain rfl : lease = some l := hl
  cases sink <;> rfl

variable [DecidableEq κ]

/-- **What an unmap stores.** -/
lemma databases_unmap {m : Mapping} (hd : Described s o (.mapping m)) (hm : s.mapping? h = some m) :
    (s.unmap h).1.databases = s.saved (Handle.mapping m).unsaved? := by
  have heq : (s.unmap h).1.databases = ((s.writeBack m).runHooks
      (((s.writeBack m).view? m).getD .empty) m.hooks.pending).1.databases := by
    rw [unmap, hm]
    exact (still_releaseAll _ _).databases_eq
  rw [heq]
  cases rowMapping hd with
  | none hk =>
    rw [databases_runHooks hk, (still_writeBack s m).databases_eq, unsaved_eq_none hk, saved]
  | @some c key r d p w v hs ho hb hc hmap =>
    subst hmap
    exact databases_runHooks (isStore_hold_cons hc c _) _ v

/-- **What a drop stores.** -/
lemma databases_drop (hd : Described s o x) (hx : s.handle? h = some x) :
    (s.drop h).databases = s.saved x.unsaved? := by
  have discarded : ∀ s' : Store κ, (s'.discard h).databases = s'.databases := by
    intro s'
    unfold discard
    split
    · rfl
    · exact (still_releaseAll s' _).databases_eq
  rw [drop, hx]
  cases x with
  | mapping m => exact (discarded _).trans (databases_unmap hd (mapping?_eq_some.2 hx))
  | writer w =>
    refine (discarded _).trans ?_
    cases hopen : w.isOpen with
    | true => exact databases_close (writer?_eq_some.2 hx) hopen
    | false =>
      rw [close_closed (writer?_eq_some.2 hx) hopen]
      have hl : w.lease = none := Option.isSome_eq_false_iff.1 hopen |> Option.isNone_iff_eq_none.1
      simp [Handle.unsaved?, hl, saved]
  | _ => exact discarded s

end Ends

end Store

end ClaimStore
