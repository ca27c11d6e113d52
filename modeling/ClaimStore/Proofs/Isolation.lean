import ClaimStore.Proofs.Confinement
import ClaimStore.Proofs.Exclusion
import ClaimStore.Proofs.Presence

/-!
# Isolation of identifiers

What is done with content under one identifier of a file repository leaves the content of others
alone. Leases are kept by the text of the identifier, so those of another one are never touched. A
file is kept by the name that its path leads to: no other file is made, changed or removed. Two
identifiers of plain names lead to different names, inside the directory of the repository, so they
are isolated from each other altogether.

## Main definitions

* `Store.Concerns` — the operation works on the content of an identifier of a repository.
* `Store.Placed` — open files have no other names than those of their identifiers.
* `Store.Isolating` — what isolation means in a state.

## Main results

* `Store.Concerns.counted_eq` — leases of other identifiers stay.
* `Store.Concerns.aims` — all changes of the disk are aimed at the file of the identifier.
* `Store.isolating_runUnder` — identifiers are isolated in all states.

## Design

No identifier is checked before it becomes a path, so that what can be said of all of them speaks of
the names that their paths lead to: `./x` and `x` lead to the same one, and `../x` to one outside.
-/

set_option autoImplicit false

namespace ClaimStore

open Disk (Changes Making Opening Aims)

/-! ### Operations on content -/

/-- The handle that an operation works through; a copy works through its writer. -/
def Operation.handle? {κ : Type} : Operation κ → Option HandleId
  | .writeAt h _ _ | .fillView h _ | .resize h _ | .flush h | .unmap h | .registerHook h _ _ _
  | .readRaw h _ | .readData h _ _ | .readToEnd h | .seek h _ | .writeRaw h _ | .writeData h _
  | .close h | .copy _ h | .drop h => some h
  | _ => none

/-- An operation that changes a file through a handle works through it. -/
lemma Operation.handle?_of_changed? {κ : Type} {op : Operation κ} {h : HandleId}
    (hc : op.changed? = some h) : op.handle? = some h := by
  cases op <;> first | exact hc | cases hc

/-- The identifier that a lease is of. -/
def Lease.identifier : Lease → String
  | .write _ x | .read _ x => x

namespace Store

variable {κ : Type} {s s' : Store κ} {l : Ledger} {op : Operation κ} {r : RepositoryId}
  {x y : String} {D : Path} {w g : RegistryId} {c : ClaimId} {h : HandleId}

/-- **The operation works on the content of an identifier of a repository**: it opens or removes
that, or works through a handle that was opened on it. -/
inductive Concerns (l : Ledger) (s : Store κ) (r : RepositoryId) (x : String) : Operation κ → Prop
  /-- A reference is taken. -/
  | acquire {c : ClaimId} (hx : s.identifier c = x) : Concerns l s r x (.acquire c)
  /-- The content is mapped in the repository. -/
  | mapContent {c : ClaimId} (n : UInt64) (readOnly : Bool) (hx : s.identifier c = x) :
      Concerns l s r x (.mapContent r c n readOnly)
  /-- A reader is opened. -/
  | readContent {c : ClaimId} (hx : s.identifier c = x) : Concerns l s r x (.readContent r c)
  /-- A writer is opened. -/
  | writeContent {c : ClaimId} (append : Bool) (hx : s.identifier c = x) :
      Concerns l s r x (.writeContent r c append)
  /-- The content is removed. -/
  | removeContent {c : ClaimId} (hx : s.identifier c = x) : Concerns l s r x (.removeContent r c)
  /-- The content is mapped in the repository of the claim. -/
  | mapClaim {c : ClaimId} {b : Backend} (n : UInt64) (readOnly : Bool)
      (hr : s.repositoryOf c = some (r, b)) (hx : s.identifier c = x) :
      Concerns l s r x (.mapClaim c n readOnly)
  /-- A reader is opened there. -/
  | readClaim {c : ClaimId} {b : Backend} (hr : s.repositoryOf c = some (r, b))
      (hx : s.identifier c = x) : Concerns l s r x (.readClaim c)
  /-- A writer is opened there. -/
  | writeClaim {c : ClaimId} {b : Backend} (append : Bool) (hr : s.repositoryOf c = some (r, b))
      (hx : s.identifier c = x) : Concerns l s r x (.writeClaim c append)
  /-- The operation works through a handle that was opened on the content. -/
  | through {op : Operation κ} {h : HandleId} {y : Holder} (hop : op.handle? = some h)
      (hy : l h = some y) (hr : ∀ r', y.grip.repository? = some r' → r' = r)
      (hx : y.identifier = x) : Concerns l s r x op

namespace Concerns

/-- The file that such an operation opens for writing is that of the identifier. -/
lemma writtenPath?_eq (hc : Concerns l s r x op) (hb : s.backendOf? r = some (.files D w g))
    {p : Path} (hp : s.writtenPath? op = some p) : p = contentPath D x := by
  have inRepository : ∀ {c}, s.identifier c = x →
      ((s.backend? r).bind fun b => b.filePath? (s.identifier c)) = some p →
        p = contentPath D x := by
    rintro c rfl hp
    obtain ⟨b, hb', hp⟩ := Option.bind_eq_some_iff.1 hp
    obtain rfl := Option.some.inj ((backendOf?_of_backend? hb').symm.trans hb)
    exact (Option.some.inj hp).symm
  have routed : ∀ {c b}, s.repositoryOf c = some (r, b) → s.identifier c = x →
      ((s.repositoryOf c).bind fun q => q.2.filePath? (s.identifier c)) = some p →
        p = contentPath D x := by
    rintro c b hr rfl hp
    rw [hr] at hp
    have hb' := backendOf?_of_backend? (backend?_of_repositoryOf hr)
    obtain rfl := Option.some.inj (hb'.symm.trans hb)
    exact (Option.some.inj hp).symm
  cases hc with
  | mapContent n readOnly hx => cases readOnly <;> first | exact inRepository hx hp | cases hp
  | writeContent append hx => exact inRepository hx hp
  | mapClaim n readOnly hr hx => cases readOnly <;> first | exact routed hr hx hp | cases hp
  | writeClaim append hr hx => exact routed hr hx hp
  | through hop => cases op <;> first | cases hop; done | cases hp
  | _ => cases hp

/-- The file that it removes is that of the identifier. -/
lemma removedPath?_eq (hc : Concerns l s r x op) (hb : s.backendOf? r = some (.files D w g))
    {p : Path} (hp : s.removedPath? op = some p) : p = contentPath D x := by
  cases hc with
  | removeContent hx =>
    obtain ⟨b, hb', hp⟩ := Option.bind_eq_some_iff.1 hp
    obtain rfl := Option.some.inj ((backendOf?_of_backend? hb').symm.trans hb)
    exact hx ▸ (Option.some.inj hp).symm
  | through hop => cases op <;> first | cases hop; done | cases hp
  | _ => cases hp

/-- It opens no repository. -/
lemma not_openRepository (hc : Concerns l s r x op) (kind : RepositoryKind) :
    op ≠ .openRepository kind := by
  rintro rfl
  cases hc with
  | through hop => cases hop

/-- A handle that it works through was opened on the content. -/
lemma entry_of_handle? (hc : Concerns l s r x op) (hop : op.handle? = some h) :
    ∃ y, l h = some y ∧ (∀ r', y.grip.repository? = some r' → r' = r) ∧ y.identifier = x := by
  cases hc with
  | through hop' hy hr hx =>
    obtain rfl := Option.some.inj (hop.symm.trans hop')
    exact ⟨_, hy, hr, hx⟩
  | _ => cases hop

end Concerns

/-! ### Leases -/

section Leases

variable {L : Lease}

/-- The lease of an entry is of its identifier. -/
lemma identifier_of_leaseOf? {z : Holder} (h : s.leaseOf? z = some L) :
    L.identifier = z.identifier := by
  obtain ⟨c, x, grip, ended⟩ := z
  unfold leaseOf? at h
  split at h
  · cases h
  · cases grip with
    | mapping r readOnly =>
      obtain ⟨b, -, hm⟩ := Option.bind_eq_some_iff.1 h
      cases b <;> cases readOnly <;> cases hm <;> rfl
    | writer r =>
      obtain ⟨b, -, rfl⟩ := Option.map_eq_some_iff.1 h
      rfl
    | _ => cases h

/-- The lease of an entry stays while repositories stay. -/
lemma leaseOf?_congr {z : Holder} {t : Handle} (hd : Described s (some z) t)
    (hb : ∀ r b, s.backendOf? r = some b → s'.backendOf? r = some b) :
    s'.leaseOf? z = s.leaseOf? z := by
  cases hd with
  | mapped hr => simp [leaseOf?, hr, hb _ _ hr]
  | writing hr => simp [leaseOf?, hr, hb _ _ hr]
  | _ => rfl

/-- **A lease is held by the handles whose entries give it to them.** -/
lemma Tells.held_lease (ht : Tells l s) (L : Lease) : s.held (.lease L) =
    ((Finset.range s.handles.length).filter fun i =>
      decide ((l i).bind s.leaseOf? = some L) = true).card := by
  refine Store.held_eq_card (fun h z hz => ?_) fun h hn => ?_
  · rw [count_lease (ht.described h z hz)]
    exact if_congr decide_eq_true_iff.symm rfl rfl
  · rw [ht.live h hn]
    exact decide_eq_false nofun

/-- A lease is held as often by handles with entries that give it alike. -/
lemma Tells.held_lease_congr {l' : Ledger} (ht : Tells l s) (ht' : Tells l' s')
    (h : ∀ i, (l' i).bind s'.leaseOf? = some L ↔ (l i).bind s.leaseOf? = some L) :
    s'.held (.lease L) = s.held (.lease L) := by
  have range : ∀ {l : Ledger} {s : Store κ}, Tells l s → ∀ {i},
      (l i).bind s.leaseOf? = some L → i < s.handles.length := by
    intro l s ht i hi
    obtain ⟨z, hz, -⟩ := Option.bind_eq_some_iff.1 hi
    exact ht.lt_of_any (p := fun _ => true) (by rw [hz]; rfl)
  rw [ht.held_lease, ht'.held_lease]
  congr 1
  ext i
  simp only [Finset.mem_filter, Finset.mem_range, decide_eq_true_eq]
  exact ⟨fun hi => ⟨range ht ((h i).1 hi.2), (h i).1 hi.2⟩,
    fun hi => ⟨range ht' ((h i).2 hi.2), (h i).2 hi.2⟩⟩

variable [DecidableEq κ] [ToString κ] {f : Faults}

/-- What the operation opens has the identifier. -/
lemma Concerns.opened_identifier (hc : Concerns l s r x op) {i : HandleId} {z : Holder}
    (ho : s.openedUnder f op = some (i, z)) : z.identifier = x := by
  have routed : ∀ {q : RepositoryId × Backend → Option (HandleId × Holder)} {c : ClaimId}
      {b : Backend}, s.repositoryOf c = some (r, b) →
        (s.repositoryOf c).bind q = some (i, z) → q (r, b) = some (i, z) := by
    intro q c b hr ho
    rwa [hr] at ho
  cases hc with
  | acquire hx =>
    obtain ⟨-, rfl⟩ := Prod.ext_iff.1 (Option.some.inj ho)
    exact hx
  | mapContent n readOnly hx => exact (made_eq_some ho).2 ▸ hx
  | readContent hx => exact (made_eq_some ho).2 ▸ hx
  | writeContent append hx => exact (made_eq_some ho).2 ▸ hx
  | removeContent hx => cases ho
  | mapClaim n readOnly hr hx => exact (made_eq_some (routed hr ho)).2 ▸ hx
  | readClaim hr hx => exact (made_eq_some (routed hr ho)).2 ▸ hx
  | writeClaim append hr hx => exact (made_eq_some (routed hr ho)).2 ▸ hx
  | through hop => cases op <;> first | cases hop; done | cases ho

/-- **Only entries of the identifier are touched.** -/
lemma Concerns.after_cases (hc : Concerns l s r x op) (ht : Tells l s) (hs : s.Sound)
    (i : HandleId) : l.after f s op i = l i ∨
      ∀ z, l i = some z ∨ l.after f s op i = some z → z.identifier = x := by
  have touched : (∀ z, l i = some z → z.identifier = x) → l.after f s op i = l i ∨
      ∀ z, l i = some z ∨ l.after f s op i = some z → z.identifier = x := by
    refine fun hold => .inr fun z hz => hz.elim (hold z) fun hz => ?_
    rcases after_entry hz with ⟨z', hz', -, hx, -⟩ | ⟨-, ho⟩
    · rw [← hx]
      exact hold z' hz'
    · exact hc.opened_identifier ho
  have ended : op.handle? = some i → ∀ z, l i = some z → z.identifier = x := by
    intro hop z hz
    obtain ⟨z', hz', -, hx⟩ := hc.entry_of_handle? hop
    rwa [Option.some.inj (hz.symm.trans hz')]
  by_cases hi : i < s.handles.length
  · by_cases hu : op = .unmap i ∨ op = .close i ∨ op = .drop i
    · exact touched (ended (by rcases hu with rfl | rfl | rfl <;> rfl))
    · simp only [not_or] at hu
      exact .inl (hs.after_eq f hi hu.1 hu.2.1 hu.2.2)
  · refine touched fun z hz => ?_
    exact absurd (ht.lt_of_any (p := fun _ => true) (by rw [hz]; rfl)) hi

/-- **Leases of other identifiers stay.** -/
lemma Concerns.counted_eq (hc : Concerns l s r x op) (ht : Tells l s) (hs : s.Sound)
    (hL : L.identifier ≠ x) :
    (s.stepUnder f op).counted (.lease L) = s.counted (.lease L) := by
  rw [(hs.stepUnder f op).balanced _ rfl, hs.balanced _ rfl]
  refine ht.held_lease_congr (ht.stepUnder hs f op) fun i => ?_
  have other : ∀ {s : Store κ} {z : Holder}, s.leaseOf? z = some L → z.identifier ≠ x :=
    fun h hx => hL ((identifier_of_leaseOf? h).trans hx)
  have live : ∀ {z : Holder}, l i = some z → ∃ t, s.handle? i = some t := by
    intro z hz
    cases hi : s.handle? i with
    | none => cases (ht.live i hi).symm.trans hz
    | some t => exact ⟨t, rfl⟩
  have same : ∀ {z : Holder}, l i = some z →
      (s.stepUnder f op).leaseOf? z = s.leaseOf? z := by
    intro z hz
    obtain ⟨t, hi⟩ := live hz
    exact leaseOf?_congr (hz ▸ ht.described i t hi)
      fun r b hb => ht.backendOf?_stepUnder hs f op hb
  simp only [Option.bind_eq_some_iff]
  rcases hc.after_cases ht hs i with heq | hall
  · rw [heq]
    exact exists_congr fun z => and_congr_right fun hz => by rw [same hz]
  · constructor
    · rintro ⟨z, hz, hlease⟩
      exact absurd (hall z (.inr hz)) (other hlease)
    · rintro ⟨z, hz, hlease⟩
      exact absurd (hall z (.inl hz)) (other hlease)

end Leases

/-! ### Open files -/

section Files

/-- **Open files have no other names than those of their identifiers.** -/
def Placed (l : Ledger) (s : Store κ) : Prop :=
  ∀ h z r id, l h = some z → z.grip.repository? = some r → s.OpensFile h id →
    ∃ b, s.backendOf? r = some b ∧
      ∀ p, b.filePath? z.identifier = some p → s.disk.Only p id

variable [DecidableEq κ] [ToString κ] {f : Faults}

omit [DecidableEq κ] [ToString κ] in
/-- A handle with an open file was opened through a repository. -/
lemma Tells.repository_of_opensFile (ht : Tells l s) {z : Holder} {id : FileId}
    (hz : l h = some z) (ho : s.OpensFile h id) : ∃ r, z.grip.repository? = some r := by
  obtain ⟨t, hhandle, hopen⟩ := ho
  have hd := hz ▸ ht.described h t hhandle
  cases hd with
  | reference => cases hopen
  | _ => exact ⟨_, rfl⟩

/-- What is opened for writing at a path is opened on the content that has this path. -/
lemma opened_path {i : HandleId} {z : Holder} {p : Path} (ho : s.openedUnder f op = some (i, z))
    (hp : s.writtenPath? op = some p) (hr : z.grip.repository? = some r) :
    ∃ b, s.backend? r = some b ∧ b.filePath? z.identifier = some p := by
  cases op with
  | mapContent r' c n readOnly =>
    obtain ⟨-, rfl⟩ := made_eq_some ho
    obtain rfl := Option.some.inj hr
    cases readOnly with
    | true => cases hp
    | false => exact Option.bind_eq_some_iff.1 hp
  | writeContent r' c append =>
    obtain ⟨-, rfl⟩ := made_eq_some ho
    obtain rfl := Option.some.inj hr
    exact Option.bind_eq_some_iff.1 hp
  | mapClaim c n readOnly =>
    obtain ⟨q, hq, hm⟩ := Option.bind_eq_some_iff.1 ho
    obtain ⟨-, rfl⟩ := made_eq_some hm
    obtain rfl := Option.some.inj hr
    cases readOnly with
    | true => cases hp
    | false =>
      obtain ⟨q', hq', hp⟩ := Option.bind_eq_some_iff.1 hp
      obtain rfl := Option.some.inj (hq.symm.trans hq')
      exact ⟨q.2, backend?_of_repositoryOf hq, hp⟩
  | writeClaim c append =>
    obtain ⟨q, hq, hm⟩ := Option.bind_eq_some_iff.1 ho
    obtain ⟨-, rfl⟩ := made_eq_some hm
    obtain rfl := Option.some.inj hr
    obtain ⟨q', hq', hp⟩ := Option.bind_eq_some_iff.1 hp
    obtain rfl := Option.some.inj (hq.symm.trans hq')
    exact ⟨q.2, backend?_of_repositoryOf hq, hp⟩
  | openRepository kind => cases ho
  | _ => cases hp

/-- **Operations place open files.** -/
lemma Placed.stepUnder (h : Placed l s) (ht : Tells l s) (hs : s.Sound) (hd : s.disk.Sound)
    (f : Faults) (op : Operation κ) : Placed (l.after f s op) (s.stepUnder f op) := by
  intro i z r id hz hr hopen
  have hstep := diskStep_stepUnder hs hd f op
  have hext := hstep.changes.extends
  have new : ∀ {id}, ¬ s.OpensFile s.handles.length id := fun ⟨t, ht, _⟩ =>
    Nat.lt_irrefl _ (lt_of_handle? ht)
  rcases hstep.opens i id hopen with hold | ⟨rfl, p, hp, he⟩ <;>
    rcases after_grip hz with ⟨z', hz', hx, hg⟩ | ⟨happ, ho⟩
  · obtain ⟨b, hb, hpath⟩ := h i z' r id hz' (hg ▸ hr) hold
    exact ⟨b, ht.backendOf?_stepUnder hs f op hb,
      fun p hp => (hpath p (hx ▸ hp)).extends hext hd⟩
  · exact absurd (hs.opened_eq_length ho ▸ hold) new
  · cases ht.length_eq_none.symm.trans hz'
  · obtain ⟨b, hb, hpath⟩ := opened_path ho hp hr
    refine ⟨b, ht.backendOf?_stepUnder hs f op (backendOf?_of_backend? hb), fun p' hp' => ?_⟩
    obtain rfl := Option.some.inj (hpath.symm.trans hp')
    exact he.only (hext.sound hd)

/-- **All changes of the disk are aimed at the file of the identifier.** -/
lemma Concerns.aims (hc : Concerns l s r x op) (hb : s.backendOf? r = some (.files D w g))
    (h : Placed l s) (ht : Tells l s) (hs : s.Sound) (hd : s.disk.Sound) (f : Faults) :
    Changes (Aims (contentPath D x)) s.disk (s.stepUnder f op).disk := by
  refine (diskStep_stepUnder hs hd f op).changes.imp fun d ch hext halters => ?_
  cases halters with
  | making hop => exact absurd hop (hc.not_openRepository _)
  | opening hp hopening => exact hc.writtenPath?_eq hb hp ▸ .opening hopening
  | removing hp hl => exact hc.removedPath?_eq hb hp ▸ .removing (hext.locate_eq hd hl)
  | @through i id _ hch hopens =>
    have hop := Operation.handle?_of_changed? hch
    obtain ⟨z, hz, hr, rfl⟩ := hc.entry_of_handle? hop
    obtain ⟨r', hr'⟩ := ht.repository_of_opensFile hz hopens
    obtain rfl := hr r' hr'
    obtain ⟨b, hb', hpath⟩ := h i z r' id hz hr' hopens
    obtain rfl := Option.some.inj (hb'.symm.trans hb)
    exact .modifying ((hpath _ rfl).extends hext hd)

end Files

/-! ### Isolation -/

section Isolation

variable [DecidableEq κ] [ToString κ]

/-- **What isolation means in a state**, with respect to the ledger of its callers. -/
structure Isolating (l : Ledger) (s : Store κ) : Prop where
  /-- An identifier that leads downwards leads to a name inside the directory of its repository. -/
  below : ∀ r D w g x i n, s.backendOf? r = some (.files D w g) → Descends x →
    s.disk.locate (contentPath D x) = .ok (.name i n) →
      ∃ k, s.disk.walk Disk.root D.components = .ok k ∧ s.disk.Inside k i
  /-- Two of them that lead to the same name have the same names, up to empty ones and dots. -/
  apart : ∀ D x y i n, Descends x → Descends y →
    s.disk.locate (contentPath D x) = .ok (.name i n) →
      s.disk.locate (contentPath D y) = .ok (.name i n) → trail x = trail y
  /-- Different identifiers of plain names lead to different names inside the directory. -/
  distinct : ∀ D x y i n, Nested x → Nested y → x ≠ y →
    s.disk.locate (contentPath D x) = .ok (.name i n) →
      s.disk.locate (contentPath D y) ≠ .ok (.name i n)
  /-- An operation leaves the write lease and the read leases of other identifiers alone. -/
  leased : ∀ f op r D w g x y, s.backendOf? r = some (.files D w g) → Concerns l s r x op → y ≠ x →
    ((s.stepUnder f op).writerRegistry w).isWriting y = (s.writerRegistry w).isWriting y ∧
      ((s.stepUnder f op).readerRegistry g).readers y = (s.readerRegistry g).readers y
  /-- It makes, changes and removes no file but the one that the path of its identifier leads to. -/
  spares : ∀ f op r D w g x, s.backendOf? r = some (.files D w g) → Concerns l s r x op →
    Disk.Spares (contentPath D x) s.disk (s.stepUnder f op).disk
  /-- If its identifier leads downwards, it leaves all names outside the directory alone. -/
  inside : ∀ f op r D w g x k i, s.backendOf? r = some (.files D w g) → Concerns l s r x op →
    Descends x → s.disk.walk Disk.root D.components = .ok k →
      ¬ (s.stepUnder f op).disk.Inside k i →
        (s.stepUnder f op).disk.entries i = s.disk.entries i
  /-- It leaves the content of an identifier alone that leads downwards to another name. -/
  unchanged : ∀ f op r D w g x y, s.backendOf? r = some (.files D w g) → Concerns l s r x op →
    Descends y → (∀ i n, (s.stepUnder f op).disk.locate (contentPath D x) = .ok (.name i n) →
      (s.stepUnder f op).disk.locate (contentPath D y) ≠ .ok (.name i n)) →
        (s.stepUnder f op).disk.fileBytes? (contentPath D y) =
          s.disk.fileBytes? (contentPath D y)
  /-- So it leaves the content of all other identifiers of plain names alone. -/
  isolated : ∀ f op r D w g x y, s.backendOf? r = some (.files D w g) → Concerns l s r x op →
    Nested x → Nested y → y ≠ x →
      (s.stepUnder f op).disk.fileBytes? (contentPath D y) = s.disk.fileBytes? (contentPath D y)

/-- **Isolation where the ledger is true** and the disk is sound.

**Proof sketch.** What an operation on one identifier changes on the disk aims at its path. Two
identifiers of plain names that are different lead to different names, as the directories are a
tree, so the name of the other one is spared with its file; its leases are counted apart. -/
lemma Placed.isolating (h : Placed l s) (ht : Tells l s) (hs : s.Sound) (hd : s.disk.Sound)
    (t : s.disk.Tree) (hh : Housed s) : Isolating l s := by
  have unchanged : ∀ f op r D w g x y, s.backendOf? r = some (.files D w g) →
      Concerns l s r x op → Descends y →
        (∀ i n, (s.stepUnder f op).disk.locate (contentPath D x) = .ok (.name i n) →
          (s.stepUnder f op).disk.locate (contentPath D y) ≠ .ok (.name i n)) →
            (s.stepUnder f op).disk.fileBytes? (contentPath D y) =
              s.disk.fileBytes? (contentPath D y) := by
    intro f op r D w g x y hb hc hy hne
    obtain ⟨k, hk⟩ := hh r D w g hb
    exact (hc.aims hb h ht hs hd f).fileBytes?_eq hd t hy hk hne
  have distinct : ∀ {d : Disk} {D x y i n}, d.Tree → Nested x → Nested y → x ≠ y →
      d.locate (contentPath D x) = .ok (.name i n) →
        d.locate (contentPath D y) ≠ .ok (.name i n) := by
    intro d D x y i n t hx hy hne hl hl'
    have htrail := hx.descends.trail_eq hy.descends t hl hl'
    rw [hx.trail_eq, hy.trail_eq] at htrail
    exact hne (Nested.ext htrail)
  refine ⟨fun r D w g x i n hb hx hl => ?_, fun D x y i n hx hy hl hl' => hx.trail_eq hy t hl hl',
    fun D x y i n hx hy hne hl => distinct t hx hy hne hl, fun f op r D w g x y hb hc hy => ?_,
    fun f op r D w g x hb hc => (hc.aims hb h ht hs hd f).spares hd,
    fun f op r D w g x k i hb hc hx hk hi => (hc.aims hb h ht hs hd f).entries_eq hd hx hk hi,
    unchanged, fun f op r D w g x y hb hc hx hy hne => ?_⟩
  · obtain ⟨k, hk⟩ := hh r D w g hb
    exact ⟨k, hk, Disk.inside_of_locate hx hk hl⟩
  · have hwrite := hc.counted_eq (f := f) (L := .write w y) ht hs hy
    have hread := hc.counted_eq (f := f) (L := .read g y) ht hs hy
    have hinj : Function.Injective Bool.toNat := by decide
    exact ⟨hinj hwrite, hread⟩
  · have t' := (hc.aims hb h ht hs hd f).tree t hd
    exact unchanged f op r D w g x y hb hc hy.descends fun i n hl =>
      distinct t' hx hy hne.symm hl

/-- **Isolation in every reachable state.** After every run, whatever fails on the way, an operation
on content of an identifier leaves the leases of all other ones alone, and all files but the one
that its path leads to; different identifiers of plain names lead to different files inside the
directory of the repository. -/
theorem isolating_runUnder (name : String) (ops : List (Faults × Operation κ)) :
    Isolating (ledgerOf name ops) ((onDirectory name).runUnder ops) := by
  have hplaced := ledger_induction (P := fun (s : Store κ) l =>
      (s.Sound ∧ Tells l s) ∧ s.disk.Sound ∧ Placed l s)
    (fun f s l op ⟨⟨hs, ht⟩, hd, h⟩ => ⟨⟨hs.stepUnder f op, ht.stepUnder hs f op⟩,
      (extends_stepUnder hs hd f op).sound hd, h.stepUnder ht hs hd f op⟩)
    ⟨⟨sound_onDirectory name, tells_empty name⟩, Disk.sound_withDirectory name,
      fun h z r id hz => nomatch hz⟩ ops
  obtain ⟨⟨hs, ht⟩, hd, h⟩ := hplaced
  exact h.isolating ht hs hd (Disk.tree_runUnder name ops) (housed_runUnder name ops)

/-- A run that writes three bytes under `x`, and makes claims for `./x` and `../x`. -/
def dottedRun : List (Faults × Operation Nat) :=
  [(.quiet, .openRepository (.files (.ofString "d"))), (.quiet, .addClaim "x" (some 0)),
    (.quiet, .addClaim "./x" (some 0)), (.quiet, .addClaim "../x" (some 0)),
    (.quiet, .writeClaim 0 false),
    (.quiet, .writeData 0 ⟨.ofList [1, 2, 3], Payload.size_three_lt⟩), (.quiet, .drop 0)]

/-- **Identifiers with dots are not isolated**: after that run, a writer to `./x` that replaces
empties the content of `x`, and one to `../x` makes a file outside the directory. -/
theorem not_isolating_dotted :
    (¬ ∀ (ops : List (Faults × Operation Nat)) c e,
      ((onDirectory "d" : Store).runUnder ops).identifier c ≠
        ((onDirectory "d" : Store).runUnder ops).identifier e →
          ((((onDirectory "d" : Store).runUnder ops).writeClaim e false).1.storedLength 0 c =
            ((onDirectory "d" : Store).runUnder ops).storedLength 0 c)) ∧
      ¬ ∀ (ops : List (Faults × Operation Nat)) c,
        (((onDirectory "d" : Store).runUnder ops).writeClaim c false).1.disk.entries Disk.root =
          ((onDirectory "d" : Store).runUnder ops).disk.entries Disk.root := by
  constructor
  · intro h
    have hlength := h dottedRun 0 1 (by decide +kernel)
    revert hlength
    decide +kernel
  · intro h
    have hentries := h dottedRun 2
    revert hentries
    decide +kernel

end Isolation

end Store

end ClaimStore
