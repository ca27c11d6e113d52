import ClaimStore.Proofs.RowChanges

/-!
# Commits of rows

Writers and writable mappings of rows work on copies that they made when they were opened. Still
none overwrites what another one stored meanwhile: as long as drafts are up with the rows, a live
writer stores at its end what its draft makes of the row as it is then. It stores first, and gives
back its lease and its reference after that; hooks of callers run last and see the new row.

## Main definitions

* `Store.Drafted` — what live writers have not saved is what their drafts make of the rows now.
* `Store.StoresFirst`, `Store.UnmapsRow`, `Store.ClosesRow` — the order of what an end does.
* `Store.Commits` — what commits of live writers mean in a state.

## Main results

* `Store.Drafted.step` — operations keep drafts up with the rows.
* `Store.Rooted.commits` — commits go by the drafts where these are up with the rows.

## Design

A database here is its rows, and each commit changes one of them and is done at once.
-/

set_option autoImplicit false

namespace ClaimStore.Store

variable {κ : Type} {s s' : Store κ} {l : Ledger} {D : Drafts} {op : Operation κ}

/-! ### The order of an end -/

/-- A row was stored. -/
def withRow (s : Store κ) (d : DatabaseId) (x : String) (v : Bytes) : Store κ :=
  s.modifyDatabase d (·.put x v)

/-- **A row is stored before anything is given back**: when it is there, the lease is still taken
and the claim still referenced. -/
structure StoresFirst (s : Store κ) (d : DatabaseId) (x : String) (v : Bytes) (w : RegistryId)
    (c : ClaimId) : Prop where
  /-- The row is there. -/
  row?_eq : (s.withRow d x v).row? d x = some v
  /-- The lease is taken. -/
  leased : ((s.withRow d x v).writerRegistry w).isWriting x = true
  /-- The claim is referenced. -/
  referenced : 0 < (s.withRow d x v).references c

/-- The lease and the reference of a mapping were given back after its row was stored. -/
def withRowReleased (s : Store κ) (d : DatabaseId) (x : String) (v : Bytes) (w : RegistryId)
    (c : ClaimId) : Store κ :=
  (s.withRow d x v).releaseAll [.lease (.write w x), .reference c]

/-- **A mapping of a row is unmapped in order**: the row is stored, the lease and the reference are
given back, and then hooks of callers run. -/
structure UnmapsRow [DecidableEq κ] (s : Store κ) (h : HandleId) (m : Mapping) (d : DatabaseId)
    (x : String) (v : Bytes) (w : RegistryId) (c : ClaimId) (hs : List Hook) : Prop
    extends StoresFirst s d x v w c where
  /-- The hooks that follow are those of callers. -/
  callers : ∀ k ∈ hs, k.isCallers = true
  /-- They run after all else. -/
  unmap_eq : (s.unmap h).1 =
    ((s.withRowReleased d x v w c).runHooks v hs).1.setHandle h (.mapping m.ended)
  /-- They find the state as it was left, but for what they recorded. -/
  found : ∀ pre, pre <+: hs → ∃ log,
    ((s.withRowReleased d x v w c).runHooks v pre).1 = { s.withRowReleased d x v w c with log }
  /-- They see the new row. -/
  seen : (s.withRowReleased d x v w c).row? d x = some v
  /-- They see it through a claim as well. -/
  viewed : ∀ c' r p w', s.repositoryOf c' = some (r, .database d p w') → s.identifier c' = x →
    ((s.withRowReleased d x v w c).claimView c').stored = .present v.size
  /-- A drop unmaps first. -/
  drop_eq : s.drop h = (s.unmap h).1.discard h

/-- **A writer to a row is closed in order**: the row is stored, and then the lease is given back.
The reference is kept until the writer is dropped. -/
structure ClosesRow [DecidableEq κ] (s : Store κ) (h : HandleId) (k : Writer) (d : DatabaseId)
    (x : String) (v : Bytes) (w : RegistryId) : Prop extends StoresFirst s d x v w k.claim where
  /-- The lease is given back after the row was stored. -/
  close_eq : s.close h =
    ((s.withRow d x v).release (.lease (.write w x))).setHandle h (.writer k.ended)
  /-- The claim is still referenced after that. -/
  kept : (s.close h).references k.claim = s.references k.claim
  /-- A drop closes first. -/
  drop_eq : s.drop h = (s.close h).discard h

section Order

variable {r : RepositoryId} {d : DatabaseId} {p : Path} {w : RegistryId} {x : String} {h : HandleId}

/-- A row of a live writer is stored before anything is given back. -/
lemma Rooted.storesFirst (hr : Rooted l s) (ht : Tells l s) (hs : s.Sound)
    (hb : s.backendOf? r = some (.database d p w)) (hw : l.writesTo r x h = true) {y : Holder}
    (hy : l h = some y) (v : Bytes) : StoresFirst s d x v w y.claim where
  row?_eq := (row?_put (hr.database_lt r d p w hb) x v x).trans (if_pos rfl)
  leased := (ht.isWriting_iff hs hb).2 ⟨h, hw⟩
  referenced := by
    refine ht.references_pos hs (h := h) ?_
    rw [Ledger.writesTo, hy] at hw
    rw [Ledger.refersTo, hy]
    simp [refers_of_writes (show y.writes r x = true from hw)]

variable [DecidableEq κ]

/-- Hooks of callers change nothing but what is recorded. -/
lemma runHooks_callers {hs : List Hook} (hc : ∀ k ∈ hs, k.isCallers = true) (s : Store κ)
    (v : Bytes) : ∃ log, (s.runHooks v hs).1 = { s with log } := by
  induction hs generalizing s with
  | nil => exact ⟨s.log, rfl⟩
  | cons k hs ih =>
    obtain ⟨log, hrest⟩ := ih (fun k' hk' => hc k' (List.mem_cons_of_mem _ hk')) (s.runHook v k).1
    have hk := hc k List.mem_cons_self
    cases k with
    | record name failure probe => exact ⟨log, hrest⟩
    | store d key => cases hk
    | hold c l => cases hk

omit [DecidableEq κ] in
/-- A claim keeps its repository. -/
lemma repositoryOf_released (s : Store κ) (d : DatabaseId) (x : String) (v : Bytes) (w : RegistryId)
    (c c' : ClaimId) : (s.withRowReleased d x v w c).repositoryOf c' = s.repositoryOf c' := by
  have hclaims : (s.withRowReleased d x v w c).claims =
      s.claims.modify c fun y => { y with references := y.references - 1 } := rfl
  unfold repositoryOf
  rw [hclaims, List.getElem?_modify]
  cases s.claims[c']? with
  | none => rfl
  | some y => by_cases hc : c = c' <;> simp [hc] <;> rfl

/-- **A live writable mapping of a row is unmapped in order.** -/
lemma Rooted.unmapsRow (hr : Rooted l s) (ht : Tells l s) (hs : s.Sound)
    (hb : s.backendOf? r = some (.database d p w)) (hw : l.writesTo r x h = true) {m : Mapping}
    (hm : s.mapping? h = some m) {v : Bytes} (hu : Unsaved s h d x v) :
    ∃ c ks, UnmapsRow s h m d x v w c ks := by
  have hx := mapping?_eq_some.1 hm
  obtain ⟨z, hz, hv⟩ := hu
  obtain rfl : z = .mapping m := Option.some.inj (hz.symm.trans hx)
  cases rowMapping (ht.described h _ hx) with
  | none hk => cases (unsaved_eq_none hk).symm.trans hv
  | @some c key r' d' p' w' v' ks ho hb' hc heq =>
    subst heq
    obtain ⟨rfl, rfl, rfl⟩ : d' = d ∧ key = x ∧ v' = v := by simpa [Handle.unsaved?] using hv
    obtain rfl : r' = r := by simpa [Ledger.writesTo, ho, Holder.writes] using hw
    obtain ⟨-, -, rfl⟩ := Backend.database.inj (Option.some.inj (hb'.symm.trans hb))
    have first := hr.storesFirst ht hs hb hw ho v'
    have hrow : (s.withRowReleased d' key v' w' c).row? d' key = some v' := first.row?_eq
    refine ⟨c, ks, first, hc, ?_, fun pre hpre => ?_, hrow, fun c' r₁ p₁ w₁ hrepo hident => ?_, ?_⟩
    · rw [unmap, hm]
      rfl
    · obtain ⟨post, rfl⟩ := hpre
      exact runHooks_callers (fun k hk => hc k (List.mem_append_left _ hk)) _ v'
    · have still : Still (s.withRow d' key v') (s.withRowReleased d' key v' w' c) :=
        still_releaseAll _ _
      have hkey : (s.withRowReleased d' key v' w' c).identifier c' = key := by
        rw [identifier_eq_getD, still.identifiers_eq, ← hident, identifier_eq_getD]
        rfl
      have hopen : (s.withRowReleased d' key v' w' c).repositoryOf c' = _ :=
        (repositoryOf_released s d' key v' w' c c').trans hrepo
      rw [claimView, hopen]
      dsimp only
      rw [lengthIn, hkey, hrow]
      rfl
    · rw [drop, hx]

/-- **A live writer of a row is closed in order.** -/
lemma Rooted.closesRow (hr : Rooted l s) (ht : Tells l s) (hs : s.Sound)
    (hb : s.backendOf? r = some (.database d p w)) (hw : l.writesTo r x h = true) {k : Writer}
    (hk : s.writer? h = some k) {v : Bytes} (hu : Unsaved s h d x v) : ClosesRow s h k d x v w := by
  have hx := writer?_eq_some.1 hk
  obtain ⟨z, hz, hv⟩ := hu
  obtain rfl : z = .writer k := Option.some.inj (hz.symm.trans hx)
  rcases unsaved_cases hv with ⟨m, b, ks, heq, -⟩ | ⟨k', i, heq, hlease, hsink⟩
  · cases heq
  obtain rfl := Handle.writer.inj heq
  obtain ⟨c, key, r', b, ho, hb', hc, hi, hsinks⟩ := writer_open (ht.described h _ hx) hlease
  obtain ⟨rfl, rfl⟩ : key = x ∧ r' = r := by
    simpa [Ledger.writesTo, ho, Holder.writes] using hw
  obtain rfl := Option.some.inj (hb'.symm.trans hb)
  have hopen : k.isOpen = true := by rw [Writer.isOpen, hlease]; rfl
  have hclose : s.close h =
      ((s.withRow d key v).release (.lease (.write w key))).setHandle h (.writer k.ended) := by
    have hres : k.openResources = [.lease (.write w key)] := by
      rw [Writer.openResources, hlease, hsink, hi]
      rfl
    rw [close, hk]
    dsimp only
    rw [if_pos hopen, hres, Writer.ended, hsink]
    rfl
  have first := hr.storesFirst ht hs hb hw ho v
  refine ⟨hc ▸ first, hclose, ?_, ?_⟩
  · rw [hclose]
    rfl
  · rw [drop, hx]

end Order

/-! ### Drafts and rows -/

/-- **What live writers have not saved is what their drafts make of the rows now.** -/
def Drafted (l : Ledger) (D : Drafts) (s : Store κ) : Prop :=
  ∀ h d x, RowWriter l s h d x → ∃ δ, D h = some δ ∧ Unsaved s h d x (δ.result (s.row? d x))

section Opens

variable {d : DatabaseId} {x : String} {v : Bytes}

/-- What an open leaves, where new handles of its form have these bytes unsaved. -/
lemma Makes.unsaved {form : Store κ → Handle → Prop} {q : Store κ × Except Failure HandleId}
    (hm : Makes form s q) {h : HandleId} (hans : q.2 = .ok h)
    (hform : ∀ s' z, form s' z → z.unsaved? = some (d, x, v)) :
    q.1.databases = s.databases ∧ Unsaved q.1 h d x v := by
  obtain ⟨s', ans⟩ := q
  obtain rfl : ans = .ok h := hans
  obtain ⟨rfl, z, added, hz⟩ := hm.ok
  exact ⟨added.databases_eq, z, by rw [added.handle?, if_pos rfl], hform s' z hz⟩

variable {r : RepositoryId} {p : Path} {w : RegistryId} {c : ClaimId}

/-- A new writable mapping has the row unsaved, cut or zero-padded. -/
lemma NewMapping.unsaved {n : UInt64} {z : Handle}
    (hz : NewMapping (.database d p w) c n false s s' z) :
    z.unsaved? =
      some (d, s.identifier c, (Draft.Start.map n.toNat).bytes (s.row? d (s.identifier c))) := by
  obtain ⟨k, hshows, rfl⟩ := hz
  cases hshows with
  | row => rfl

/-- A new writer has the row unsaved, or nothing. -/
lemma NewWriter.unsaved {append : Bool} {z : Handle}
    (hz : NewWriter (.database d p w) c append s s' z) :
    z.unsaved? = some (d, s.identifier c,
      (if append then Draft.Start.append else .replace).bytes (s.row? d (s.identifier c))) := by
  obtain ⟨k, hwrites, rfl⟩ := hz
  cases hwrites with
  | row => cases append <;> rfl

variable [DecidableEq κ] [ToString κ]

/-- A writable mapping of a row stores nothing yet. What it has not saved starts from the row,
fitted to its length. -/
lemma Sound.unsaved_mapContent (hs : s.Sound) (hb : s.backendOf? r = some (.database d p w))
    {n : UInt64} {h : HandleId} (hans : (s.mapContent r c n false).2 = .ok h) :
    (s.mapContent r c n false).1.databases = s.databases ∧
      Unsaved (s.mapContent r c n false).1 h d (s.identifier c)
        ((Draft.Start.map n.toNat).bytes (s.row? d (s.identifier c))) := by
  obtain ⟨b, hopen⟩ := backend_of_inRepository hans
  obtain rfl := Option.some.inj (hb.symm.trans (backendOf?_of_backend? hopen))
  unfold Store.mapContent Store.inRepository at hans ⊢
  rw [hopen] at hans ⊢
  exact (makes_mapIn (hs.knows hopen) c n false).unsaved hans fun _ _ hz => hz.unsaved

omit [ToString κ] in
/-- A writer to a row stores nothing yet. What it has not saved starts from the row, or from
nothing. -/
lemma Sound.unsaved_writeContent (hs : s.Sound) (hb : s.backendOf? r = some (.database d p w))
    {append : Bool} {h : HandleId} (hans : (s.writeContent r c append).2 = .ok h) :
    (s.writeContent r c append).1.databases = s.databases ∧
      Unsaved (s.writeContent r c append).1 h d (s.identifier c)
        ((if append then Draft.Start.append else .replace).bytes (s.row? d (s.identifier c))) := by
  obtain ⟨b, hopen⟩ := backend_of_inRepository hans
  obtain rfl := Option.some.inj (hb.symm.trans (backendOf?_of_backend? hopen))
  unfold Store.writeContent Store.inRepository at hans ⊢
  rw [hopen] at hans ⊢
  exact (makes_writeIn (hs.knows hopen) c append).unsaved hans fun _ _ hz => hz.unsaved

/-- **A handle that is opened as a live writer of a row begins a draft**, and has unsaved what this
makes of the row.

**Proof sketch.** By the operation. Only writable mappings and writers make an entry that writes;
those of a claim are those of its repository. -/
lemma Sound.unsaved_opened (hs : s.Sound) (happ : s.applies op = true) {h : HandleId} {y : Holder}
    (ho : s.openedUnder .quiet op = some (h, y)) (hw : y.writes r x = true)
    (hb : s.backendOf? r = some (.database d p w)) :
    ∃ start, s.begun? op = some (h, start) ∧ s.edit? op = none ∧
      (s.step op).databases = s.databases ∧
        Unsaved (s.step op) h d x (start.bytes (s.row? d x)) := by
  have hstep : s.step op = s.perform op := if_pos happ
  rw [hstep]
  cases op with
  | acquire c =>
    obtain ⟨-, rfl⟩ := Prod.ext_iff.1 (Option.some.inj ho)
    simp [Holder.writes] at hw
  | mapContent r' c n readOnly =>
    rw [openedUnder, mapContentUnder_quiet] at ho
    obtain ⟨hans, rfl⟩ := made_eq_some ho
    obtain ⟨rfl, rfl, rfl⟩ : s.identifier c = x ∧ r' = r ∧ readOnly = false := by
      simpa [Holder.writes] using hw
    refine ⟨.map n.toNat, ?_, rfl, hs.unsaved_mapContent hb hans⟩
    rw [begun?, hans, Draft.Start.made]
  | readContent r' c =>
    obtain ⟨-, rfl⟩ := made_eq_some ho
    simp [Holder.writes] at hw
  | writeContent r' c append =>
    rw [openedUnder, writeContentUnder_quiet] at ho
    obtain ⟨hans, rfl⟩ := made_eq_some ho
    obtain ⟨rfl, rfl⟩ : s.identifier c = x ∧ r' = r := by simpa [Holder.writes] using hw
    refine ⟨if append then .append else .replace, ?_, rfl, hs.unsaved_writeContent hb hans⟩
    rw [begun?, hans, Draft.Start.made]
  | mapClaim c n readOnly =>
    obtain ⟨q, hq, hm⟩ := Option.bind_eq_some_iff.1 ho
    rw [mapClaimUnder_quiet] at hm
    obtain ⟨hans, rfl⟩ := made_eq_some hm
    obtain ⟨rfl, rfl, rfl⟩ : s.identifier c = x ∧ q.1 = r ∧ readOnly = false := by
      simpa [Holder.writes] using hw
    have hroute : s.mapClaim c n false = s.mapContent q.1 c n false := routed_eq hq _
    rw [hroute] at hans
    refine ⟨.map n.toNat, ?_, rfl, ?_⟩
    · rw [begun?, hroute, hans, Draft.Start.made]
    · show (s.mapClaim c n false).1.databases = _ ∧ Unsaved (s.mapClaim c n false).1 h d _ _
      rw [hroute]
      exact hs.unsaved_mapContent hb hans
  | readClaim c =>
    obtain ⟨q, -, hm⟩ := Option.bind_eq_some_iff.1 ho
    obtain ⟨-, rfl⟩ := made_eq_some hm
    simp [Holder.writes] at hw
  | writeClaim c append =>
    obtain ⟨q, hq, hm⟩ := Option.bind_eq_some_iff.1 ho
    rw [writeClaimUnder_quiet] at hm
    obtain ⟨hans, rfl⟩ := made_eq_some hm
    obtain ⟨rfl, rfl⟩ : s.identifier c = x ∧ q.1 = r := by simpa [Holder.writes] using hw
    have hroute : s.writeClaim c append = s.writeContent q.1 c append := routed_eq hq _
    rw [hroute] at hans
    refine ⟨if append then .append else .replace, ?_, rfl, ?_⟩
    · rw [begun?, hroute, hans, Draft.Start.made]
    · show (s.writeClaim c append).1.databases = _ ∧ Unsaved (s.writeClaim c append).1 h d _ _
      rw [hroute]
      exact hs.unsaved_writeContent hb hans
  | _ => cases ho

end Opens

/-! ### Drafts after an operation -/

section Steps

variable [DecidableEq κ] [ToString κ] {h : HandleId}

/-- A draft is begun under the next number. -/
lemma Sound.begun_eq_length (hs : s.Sound) {i : HandleId} {start : Draft.Start}
    (hi : s.begun? op = some (i, start)) : i = s.handles.length := by
  have made : ∀ {st : Draft.Start} {ans : Except Failure HandleId},
      st.made ans = some (i, start) → ans = .ok i := by
    intro st ans h
    cases ans with
    | ok j => exact congrArg Except.ok (congrArg Prod.fst (Option.some.inj h))
    | error f => cases h
  cases op with
  | mapContent r c n readOnly =>
    cases readOnly with
    | true => cases hi
    | false => exact hs.number_inRepository (fun b hb => makes_mapIn hb c n false) (made hi)
  | writeContent r c append =>
    exact hs.number_inRepository (fun b hb => makes_writeIn hb c append) (made hi)
  | mapClaim c n readOnly =>
    cases readOnly with
    | true => cases hi
    | false => exact hs.number_routed (fun b hb => makes_mapIn hb c n false) (made hi)
  | writeClaim c append =>
    exact hs.number_routed (fun b hb => makes_writeIn hb c append) (made hi)
  | _ => cases hi

omit [DecidableEq κ] [ToString κ] in
/-- What names something that is not there edits nothing. -/
lemma edit?_eq_none (happ : s.applies op ≠ true) : s.edit? op = none := by
  cases op with
  | writeAt => exact absurd rfl happ
  | fillView => exact absurd rfl happ
  | resize => exact absurd rfl happ
  | writeRaw => exact absurd rfl happ
  | writeData => exact absurd rfl happ
  | copy => exact absurd rfl happ
  | _ => rfl

/-- **A draft goes on** with the edits of its handle. -/
lemma Sound.after_draft (hs : s.Sound) {δ : Draft} (hδ : D h = some δ)
    (hlt : h < s.handles.length) (op : Operation κ) :
    ∃ δ', D.after s op h = some δ' ∧
      ∀ row, δ'.result row = editedBy (s.edit? op) h (δ.result row) := by
  unfold Drafts.after
  split
  · have hbegin : D.begin (s.begun? op) h = some δ := by
      cases hb : s.begun? op with
      | none => exact hδ
      | some q => exact (if_neg fun hq =>
          Nat.ne_of_lt hlt (hq.trans (hs.begun_eq_length hb))).trans hδ
    cases he : s.edit? op with
    | none => exact ⟨δ, hbegin, fun row => rfl⟩
    | some q =>
      obtain ⟨i, e⟩ := q
      by_cases hi : h = i
      · subst hi
        refine ⟨δ.amend e, ?_, fun row => ?_⟩
        · rw [Drafts.amend_some, if_pos rfl, hbegin, Option.map_some]
        · rw [Draft.result_amend, editedBy, if_pos rfl]
      · refine ⟨δ, ?_, fun row => ?_⟩
        · rw [Drafts.amend_some, if_neg hi, hbegin]
        · rw [editedBy, if_neg (Ne.symm hi)]
  · next happ => exact ⟨δ, hδ, fun row => by rw [edit?_eq_none happ, editedBy_none]⟩

/-- A handle that was ended is no live writer. -/
lemma Tells.not_finishes (ht : Tells l s) {r : RepositoryId} {x : String}
    (hw : (l.after .quiet s op).writesTo r x h = true) : ¬ Finishes s h op := by
  intro hfin
  cases hfin with
  | @unmap m hm =>
    have hdead : (l.after .quiet s (.unmap h)).writesTo r x h = false :=
      writesTo_unmapped (ht.described h _ (mapping?_eq_some.1 hm))
    cases hdead.symm.trans hw
  | @close k hk =>
    have hdead : (l.after .quiet s (.close h)).writesTo r x h = false :=
      writesTo_closed (ht.described h _ (writer?_eq_some.1 hk))
    cases hdead.symm.trans hw
  | drop =>
    have hdead : (l.after .quiet s (.drop h)).writesTo r x h = false := by
      show ((l.set h none) h).any _ = false
      rw [Ledger.set, if_pos rfl, Option.any_none]
    cases hdead.symm.trans hw

/-- **Operations keep drafts up with the rows.**

**Proof sketch.** A live writer was one before, or it was just opened. In the first case its row
stays and what it has not saved changes as its draft does; in the second it begins with what its new
draft makes of the row. -/
lemma Drafted.step (hd : Drafted l D s) (hr : Rooted l s) (ht : Tells l s) (hs : s.Sound)
    (hone : (s.claims.map (·.identifier)).Nodup) (op : Operation κ) :
    Drafted (l.after .quiet s op) (D.after s op) (s.step op) := by
  rintro h d x ⟨r, p, w, hb, hw⟩
  have heff := ht.effect_step hs op
  obtain ⟨y, -, hy, hyw, -⟩ := (ht.step hs op).handle_of_writesTo hw
  have was : ∀ {b}, s.backendOf? r = some b → s.backendOf? r = some (.database d p w) := by
    intro b hb'
    rw [hb', ← heff.backendOf? hb', hb]
  rcases after_entry hy with ⟨y', hy', -, -, hlive⟩ | ⟨happ, ho⟩
  · have hw' : l.writesTo r x h = true := Ledger.writesTo_iff.2 ⟨y', hy', hlive r x hyw⟩
    obtain ⟨b, hb'⟩ := ht.backend_of_writesTo hw'
    have hrow : RowWriter l s h d x := ⟨r, p, w, was hb', hw'⟩
    have hfin := ht.not_finishes hw
    obtain ⟨δ, hδ, hu⟩ := hd h d x hrow
    obtain ⟨δ', hδ', hresult⟩ := hs.after_draft hδ (ht.lt_of_any hw') op
    refine ⟨δ', hδ', ?_⟩
    rw [hr.row?_eq ht hs hone hrow hfin, hresult]
    exact unsaved_step ht hs hu hfin
  · obtain ⟨b, hopen⟩ := (opened_from happ ho).2.2 r x hyw
    obtain ⟨start, hbegun, hedit, hdata, hu⟩ :=
      hs.unsaved_opened happ ho hyw (was (backendOf?_of_backend? hopen))
    refine ⟨⟨start, []⟩, ?_, ?_⟩
    · rw [Drafts.after, if_pos happ, hbegun, hedit]
      exact if_pos rfl
    · rw [Draft.result_new, row?, hdata]
      exact hu

end Steps

/-! ### Commits -/

section Commits

variable [DecidableEq κ] [ToString κ]

/-- **What commits of live writers mean in a state**, with respect to the ledger and the drafts of
its callers. -/
structure Commits (l : Ledger) (D : Drafts) (s : Store κ) : Prop where
  /-- At its end, a live writer stores what its draft makes of the row as it is then. -/
  committed : ∀ op h d x, RowWriter l s h d x → Finishes s h op →
    ∃ δ, D h = some δ ∧ (s.step op).row? d x = some (δ.result (s.row? d x))
  /-- A writable mapping stores first, then gives back what it holds, then runs hooks of callers. -/
  unmapped : ∀ r d p w h x m, s.backendOf? r = some (.database d p w) →
    l.writesTo r x h = true → s.mapping? h = some m →
      ∃ δ c hs, D h = some δ ∧ UnmapsRow s h m d x (δ.result (s.row? d x)) w c hs
  /-- A writer stores first, then gives back its lease, and its reference when it is dropped. -/
  closed : ∀ r d p w h x k, s.backendOf? r = some (.database d p w) →
    l.writesTo r x h = true → s.writer? h = some k →
      ∃ δ, D h = some δ ∧ ClosesRow s h k d x (δ.result (s.row? d x)) w

/-- **Commits go by the drafts where these are up with the rows.** -/
lemma Rooted.commits (hr : Rooted l s) (ht : Tells l s) (hs : s.Sound) (hd : Drafted l D s) :
    Commits l D s where
  committed op h d x hw hfin := by
    obtain ⟨δ, hδ, hu⟩ := hd h d x hw
    exact ⟨δ, hδ, hr.row?_finishes ht hw hu hfin⟩
  unmapped r d p w h x m hb hw hm := by
    obtain ⟨δ, hδ, hu⟩ := hd h d x ⟨r, p, w, hb, hw⟩
    obtain ⟨c, ks, horder⟩ := hr.unmapsRow ht hs hb hw hm hu
    exact ⟨δ, c, ks, hδ, horder⟩
  closed r d p w h x k hb hw hk := by
    obtain ⟨δ, hδ, hu⟩ := hd h d x ⟨r, p, w, hb, hw⟩
    exact ⟨δ, hδ, hr.closesRow ht hs hb hw hk hu⟩

omit [DecidableEq κ] [ToString κ] in
/-- In the beginning there is nothing to belong together. -/
lemma rooted_empty (name : String) : Rooted Ledger.empty (onDirectory name : Store κ) where
  claim_lt h y hy := nomatch hy
  identifier_eq h y hy := nomatch hy
  database_lt r d p w hb := by simp [onDirectory, backendOf?] at hb
  unique r r' d p p' w w' hb := by simp [onDirectory, backendOf?] at hb

end Commits

end ClaimStore.Store
