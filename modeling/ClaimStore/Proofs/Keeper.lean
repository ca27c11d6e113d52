import ClaimStore.Proofs.Shelf
import ClaimStore.Proofs.SoundSteps

/-!
# Keepers

What a backend has to do to behave as a shelf: it keeps the bytes of each identifier, shows them to
mappings, delivers them to readers, and takes them from writers. Who holds what, what the callers
know, and how hooks run is the same for all backends and needs no more than that.

## Main definitions

* `Store.Behind`, `Store.Besides` — steps that callers do not see, and steps that backends do not.
* `Store.Quiet` — nothing is held but references.
* `ClaimStore.Keeper` — a backend that keeps bytes.
* `Keeper.Serves`, `Keeper.Mirrors` — a store that is to callers what a shelf is.

## Main results

* `Store.quiet_of_references` — where callers have nothing but references, nothing else is held.
* `Keeper.claimView_eq`, `Keeper.runHooks_eq` — hooks of callers.
-/

set_option autoImplicit false

namespace ClaimStore

namespace Store

variable {κ : Type} {s s' s'' : Store κ}

/-! ### Steps -/

/-- A step behind the scenes: it changes at most what backends keep. -/
structure Behind (s s' : Store κ) : Prop where
  /-- The claims stay. -/
  claims_eq : s'.claims = s.claims
  /-- The handles stay. -/
  handles_eq : s'.handles = s.handles
  /-- Nothing is recorded. -/
  log_eq : s'.log = s.log
  /-- The repositories stay. -/
  repositories_eq : s'.repositories = s.repositories

/-- Nothing at all is a step behind the scenes. -/
lemma Behind.refl (s : Store κ) : Behind s s := ⟨rfl, rfl, rfl, rfl⟩

/-- Steps behind the scenes compose. -/
lemma Behind.trans (h : Behind s s') (h' : Behind s' s'') : Behind s s'' :=
  ⟨h'.claims_eq.trans h.claims_eq, h'.handles_eq.trans h.handles_eq, h'.log_eq.trans h.log_eq,
    h'.repositories_eq.trans h.repositories_eq⟩

/-- A step beside what backends keep. -/
structure Besides (s s' : Store κ) : Prop where
  /-- The disk stays. -/
  disk_eq : s'.disk = s.disk
  /-- The databases stay. -/
  databases_eq : s'.databases = s.databases
  /-- The tables stay. -/
  tables_eq : s'.tables = s.tables
  /-- The read leases stay. -/
  readerRegistries_eq : s'.readerRegistries = s.readerRegistries

/-- Nothing is held but references. -/
def Quiet (s : Store κ) : Prop :=
  ∀ r : Resource, r.isCounted = true → (∀ c, r ≠ .reference c) → s.counted r = 0

/-- The handles are references and empty places. -/
def References (l : List (Option Handle)) : Prop :=
  ∀ o ∈ l, o = none ∨ ∃ c, o = some (.reference c)

/-- What references and empty places hold. -/
lemma sum_heldBy_references {l : List (Option Handle)} (h : References l) {r : Resource}
    (hr : ∀ c, r ≠ .reference c) : (l.map (heldBy r)).sum = 0 := by
  induction l with
  | nil => rfl
  | cons o l ih =>
    have ho : heldBy r o = 0 := by
      rcases h o List.mem_cons_self with rfl | ⟨c, rfl⟩
      · rfl
      · show [Resource.reference c].count r = 0
        exact List.count_eq_zero.2 fun hmem => hr c (List.mem_singleton.1 hmem)
    rw [List.map_cons, List.sum_cons, ho, Nat.zero_add]
    exact ih fun o' ho' => h o' (List.mem_cons_of_mem o ho')

/-- **Where callers have nothing but references, nothing else is held.** -/
lemma quiet_of_references (hs : s.Sound) (h : References s.handles) : Quiet s := by
  intro r hr hne
  rw [hs.balanced r hr]
  exact sum_heldBy_references h hne

/-- A write lease that is free can be taken. -/
lemma takeWriteLease_free {g : RegistryId} {x : String}
    (h : (s.writerRegistry g).isWriting x = false) :
    ∃ leased, s.takeWriteLease g x = .ok leased ∧ Behind s leased ∧ Besides s leased := by
  unfold Store.takeWriteLease WriterRegistry.acquire
  rw [h]
  exact ⟨{ s with writerRegistries := _ }, rfl, ⟨rfl, rfl, rfl, rfl⟩, rfl, rfl, rfl, rfl⟩

/-- Where nothing is held, all write leases are free. -/
lemma Quiet.isWriting_eq (h : Quiet s) (g : RegistryId) (x : String) :
    (s.writerRegistry g).isWriting x = false := by
  have hfree := h (.lease (.write g x)) rfl (fun c hc => (by cases hc))
  cases hw : (s.writerRegistry g).isWriting x with
  | false => rfl
  | true =>
    rw [counted, hw] at hfree
    cases hfree

/-- Where nothing is held, a write lease can be taken. -/
lemma Quiet.takeWriteLease (h : Quiet s) (g : RegistryId) (x : String) :
    ∃ leased, s.takeWriteLease g x = .ok leased ∧ Behind s leased ∧ Besides s leased :=
  takeWriteLease_free (h.isWriting_eq g x)

/-- The open repositories stay where the repositories do. -/
lemma backend?_congr (h : s'.repositories = s.repositories) (r : RepositoryId) :
    s'.backend? r = s.backend? r := by
  rw [backend?, backend?, h]

/-- The same claims have the same identifiers. -/
lemma identifier_of_claims {σ : Shelf} (h : s.claims = σ.claims) (c : ClaimId) :
    s.identifier c = σ.identifier c := by
  cases hc : σ.claims[c]? <;> simp only [Store.identifier, Shelf.identifier, h, hc]

/-- The same claims have the same references. -/
lemma references_of_claims {σ : Shelf} (h : s.claims = σ.claims) (c : ClaimId) :
    s.references c = σ.references c := by
  cases hc : σ.claims[c]? <;> simp only [Store.references, Shelf.references, h, hc]

/-! ### Giving back -/

/-- Giving back anything but a reference is not seen by callers. -/
lemma behind_release (s : Store κ) {r : Resource} (hr : ∀ c, r ≠ .reference c) :
    Behind s (s.release r) := by
  rcases r with c | (⟨g, x⟩ | ⟨g, x⟩) | ⟨t, e⟩ | ⟨t, e⟩ | ⟨t, e⟩ | d
  · exact absurd rfl (hr c)
  all_goals exact ⟨rfl, rfl, rfl, rfl⟩

/-- What is given back is behind the scenes, unless it is a reference. -/
lemma behind_releaseAll (s : Store κ) {rs : List Resource} (h : ∀ c, .reference c ∉ rs) :
    Behind s (s.releaseAll rs) := by
  induction rs generalizing s with
  | nil => exact .refl s
  | cons r rs ih =>
    have hr : ∀ c, r ≠ .reference c := fun c hc => h c (hc ▸ List.mem_cons_self)
    exact (behind_release s hr).trans (ih _ fun c hc => h c (List.mem_cons_of_mem r hc))

/-- What is given back changes no handle, no record and no repository. -/
lemma releaseAll_frame (s : Store κ) (rs : List Resource) :
    (s.releaseAll rs).handles = s.handles ∧ (s.releaseAll rs).log = s.log ∧
      (s.releaseAll rs).repositories = s.repositories := by
  induction rs generalizing s with
  | nil => exact ⟨rfl, rfl, rfl⟩
  | cons r rs ih =>
    obtain ⟨hhandles, hlog, hrep⟩ := ih (s.release r)
    rcases r with c | (⟨g, x⟩ | ⟨g, x⟩) | ⟨t, e⟩ | ⟨t, e⟩ | ⟨t, e⟩ | d <;>
      exact ⟨hhandles, hlog, hrep⟩

/-- The last of several resources is given back last. -/
lemma releaseAll_concat (s : Store κ) (rs : List Resource) (r : Resource) :
    s.releaseAll (rs ++ [r]) = (s.releaseAll rs).release r := by
  rw [releaseAll, List.foldl_append]
  rfl

/-- A reference more and a reference less. -/
lemma modify_references (l : List Claim) (c : ClaimId) :
    (l.modify c fun x => { x with references := x.references + 1 }).modify c
      (fun x => { x with references := x.references - 1 }) = l := by
  rw [List.modify_modify_eq]
  exact List.modify_id c l

/-- The resources that the hook of a claim gives back. -/
lemma releaseAll_hold (s : Store κ) (c : ClaimId) (l : Option Lease) :
    ∃ s₁, Behind s s₁ ∧ s.releaseAll (Hook.hold c l).resources = s₁.release (.reference c) := by
  cases l with
  | none => exact ⟨s, .refl s, rfl⟩
  | some l => exact ⟨s.release (.lease l), behind_release s fun c h => (by cases h), rfl⟩

/-- The view of a backing holds no reference. -/
lemma reference_not_mem_viewResources (k : Backing) (c : ClaimId) :
    .reference c ∉ k.viewResources := by
  cases k with
  | file | buffer => exact List.not_mem_nil
  | entry b =>
    obtain ⟨borrow, size, view⟩ := b
    cases borrow with
    | none => exact List.not_mem_nil
    | some p => cases view <;> simp [Backing.viewResources, EntryBacking.viewResources]

/-- A backing holds no reference. -/
lemma reference_not_mem_keptResources (k : Backing) (c : ClaimId) :
    .reference c ∉ k.keptResources := by
  cases k with
  | file | buffer => exact List.not_mem_nil
  | entry b =>
    obtain ⟨borrow, size, view⟩ := b
    cases borrow <;> simp [Backing.keptResources, EntryBacking.keptResources]

/-! ### The newest handle -/

/-- The newest handle is live. -/
lemma handle?_of_concat {l : List (Option Handle)} {a : Handle} (hl : s.handles = l ++ [some a]) :
    s.handle? l.length = some a := by
  rw [handle?_eq_some, hl, List.getElem?_concat_length]

/-- The newest handle, replaced. -/
lemma set_concat {l : List (Option Handle)} {o o' : Option Handle} :
    (l ++ [o]).set l.length o' = l ++ [o'] := by
  rw [List.set_append_right _ _ (Nat.le_refl _), Nat.sub_self]
  rfl

/-- A view that has ended shows nothing. -/
lemma view?_closed (s : Store κ) {m : Mapping} {k : Backing} (hk : m.backing = k.closed) :
    s.view? m = none := by
  have hsome := s.isSome_view? m
  have hvalid : k.closed.isValid = false := by
    cases k with
    | file => rfl
    | entry b =>
      show (b.borrow.isSome && false) = false
      exact Bool.and_false _
    | buffer => rfl
  rw [hk, hvalid] at hsome
  exact Option.isNone_iff_eq_none.1 (Option.isSome_eq_false_iff.1 hsome)

/-- A view that has ended shows the size of none. -/
lemma mappingSize_closed (s : Store κ) {m : Mapping} {k : Backing} (hk : m.backing = k.closed) :
    s.mappingSize m = Limits.unmappedSize := by
  rw [mappingSize, hk]
  cases k with
  | file => rfl
  | entry b =>
    obtain ⟨borrow, size, view⟩ := b
    cases borrow <;> rfl
  | buffer => rfl

/-! ### Readers and limits -/

/-- A reader delivers these bytes. -/
def Delivers (s : Store κ) (source : Source) (v : Bytes) : Prop :=
  s.sourceBytes source = .ok v ∧ ∀ r : Reader, r.source = source → s.readerLength r = v.size

/-- An open that was refused because a limit was hit. -/
def Refused {α : Type} (r : Except Failure α) : Prop :=
  ∃ requested available, r = .error (.content (.capacityExceeded requested available))

end Store

open Store

/-! ### What a backend has to do -/

/-- **A backend that keeps bytes.** `Keeps s C` says that the content under each identifier is what
`C` says; `Shows s C x readOnly k v` that a mapping with the backing `k` shows the bytes `v` under
the identifier `x`, while the rest is as `C` says; and `Writes s C x sink v` that a writer to `x`
has collected `v`. -/
structure Keeper (κ : Type) [DecidableEq κ] [ToString κ] (b : Backend) where
  /-- The identifiers under which content can be kept. -/
  Admits : String → Prop
  /-- The sizes with which content can be mapped writable. -/
  AdmitsMapping : Option Bytes → UInt64 → Prop
  /-- The sizes that a writable mapping can be given. -/
  AdmitsLength : UInt64 → Prop
  /-- The numbers of bytes that a raw read or write moves at once. -/
  AdmitsTransfer : Nat → Prop
  /-- There are limits on what can be stored. -/
  Limited : Prop
  /-- The contents are kept. -/
  Keeps : Store κ → (String → Option Bytes) → Prop
  /-- A mapping shows bytes. -/
  Shows : Store κ → (String → Option Bytes) → String → Bool → Backing → Bytes → Prop
  /-- A writer has collected bytes. -/
  Writes : Store κ → (String → Option Bytes) → String → Sink → Bytes → Prop
  /-- The hooks that a mapping has before the one that gives its lease back. -/
  before : Bool → String → List Hook
  /-- Contents stay when something else changes. -/
  keeps_besides : ∀ {s s' C}, Besides s s' → Keeps s C → Keeps s' C
  /-- Contents stay when something is given back. -/
  keeps_release : ∀ {s C} (r : Resource), Keeps s C → Keeps (s.release r) C
  /-- The length of content. -/
  lengthIn_eq : ∀ {s C x}, Keeps s C → Admits x → s.lengthIn b x = .ok ((C x).map Bytes.size)
  /-- Content that is removed. -/
  removeIn_eq : ∀ {s C c}, Keeps s C → Quiet s → Admits (s.identifier c) → s.references c = 0 →
    ∃ s', Behind s s' ∧ s.removeIn b c = (s', .ok (C (s.identifier c)).isSome) ∧
      Keeps s' (Shelf.update C (s.identifier c) none)
  /-- A read-only mapping of nothing. -/
  mapIn_none : ∀ {s C c} (n : UInt64), Keeps s C → Admits (s.identifier c) →
    C (s.identifier c) = none →
    s.mapIn b c n true = (s, .error (missingContent (s.identifier c) n.toNat))
  /-- A read-only mapping of more than there is. -/
  mapIn_short : ∀ {s C c} {n : UInt64} {v : Bytes}, Keeps s C → Quiet s →
    Admits (s.identifier c) → C (s.identifier c) = some v → v.size < n.toNat →
    ∃ e : ContentError, e.kind = .insufficientBackingStore ∧
      s.mapIn b c n true = (s, .error (.content e))
  /-- A read-only mapping. -/
  mapIn_readOnly : ∀ {s C c} {n : UInt64} {v : Bytes}, Keeps s C → Quiet s →
    Admits (s.identifier c) → C (s.identifier c) = some v → n.toNat ≤ v.size →
    ∃ s' k l, Behind s s' ∧ s.mapIn b c n true = succeed (s'.addHeldMapping
        { backing := k, readOnly := true, hooks := ⟨before true (s.identifier c), false⟩ } c l) ∧
      Shows s' C (s.identifier c) true k (v.take n.toNat)
  /-- A writable mapping. -/
  mapIn_writable : ∀ {s C c} {n : UInt64}, Keeps s C → Quiet s → Admits (s.identifier c) →
    AdmitsMapping (C (s.identifier c)) n → (Limited ∧ Refused (s.mapIn b c n false).2) ∨
    ∃ s' k l, Behind s s' ∧ s.mapIn b c n false = succeed (s'.addHeldMapping
        { backing := k, readOnly := false, hooks := ⟨before false (s.identifier c), false⟩ } c l) ∧
      Shows s' C (s.identifier c) false k (((C (s.identifier c)).getD .empty).fit n.toNat)
  /-- A mapping stays when something else changes. -/
  shows_besides : ∀ {s s' C x readOnly k v}, Besides s s' → Shows s C x readOnly k v →
    Shows s' C x readOnly k v
  /-- The bytes shown. -/
  view?_eq : ∀ {s C x readOnly v} {m : Mapping}, Shows s C x readOnly m.backing v →
    s.view? m = some v
  /-- The size shown. -/
  mappingSize_eq : ∀ {s C x readOnly v} {m : Mapping}, Shows s C x readOnly m.backing v →
    s.mappingSize m = v.size
  /-- As many other bytes. -/
  setView_eq : ∀ {s C x v v' h} {m : Mapping}, Shows s C x false m.backing v →
    v'.size = v.size → s.mapping? h = some m →
    ∃ s' k, Behind s s' ∧ s.setView h m v' = s'.setHandle h (.mapping { m with backing := k }) ∧
      Shows s' C x false k v'
  /-- Another length. -/
  resize_eq : ∀ {s C x v h} {n : UInt64} {m : Mapping}, Shows s C x false m.backing v →
    AdmitsLength n → s.mapping? h = some m → m.readOnly = false →
    (Limited ∧ Refused (s.resize h n).2) ∨
    ∃ s' k, Behind s s' ∧
      s.resize h n = (s'.setHandle h (.mapping { m with backing := k }), .ok (v.fit n.toNat)) ∧
      Shows s' C x false k (v.fit n.toNat)
  /-- The end of a mapping. -/
  settle : ∀ {s C x v} {m : Mapping}, Shows s C x m.readOnly m.backing v →
    (s.writeBack m).view? m = some v ∧
    ∃ s', Behind s s' ∧ (s.writeBack m).runHooks v (before m.readOnly x) = (s', none) ∧
      Keeps s' (if m.readOnly then C else Shelf.update C x (some v))
  /-- A reader of nothing. -/
  readIn_none : ∀ {s C c}, Keeps s C → Admits (s.identifier c) → C (s.identifier c) = none →
    s.readIn b c = (s, .error (missingContent (s.identifier c) 0))
  /-- A reader. -/
  readIn_some : ∀ {s C c v}, Keeps s C → Quiet s → Admits (s.identifier c) →
    C (s.identifier c) = some v → ∃ s' source, Behind s s' ∧
      s.readIn b c = succeed (s'.addReader c source) ∧ Keeps s' C ∧ Delivers s' source v ∧
      ∀ n, AdmitsTransfer n → source.atOnce n = n
  /-- A writer. -/
  writeIn_eq : ∀ {s C c} (append : Bool), Keeps s C → Quiet s → Admits (s.identifier c) →
    (Limited ∧ Refused (s.writeIn b c append).2) ∨ ∃ s' sink l, Behind s s' ∧
      s.writeIn b c append = succeed (s'.addWriter c sink l) ∧
      Writes s' C (s.identifier c) sink
        (if append then (C (s.identifier c)).getD .empty else .empty)
  /-- A writer stays when something else changes. -/
  writes_besides : ∀ {s s' C x sink v}, Besides s s' → Writes s C x sink v → Writes s' C x sink v
  /-- Bytes that are written. -/
  writeSink_eq : ∀ {s C x sink v} (p : Bytes), Writes s C x sink v →
    (Limited ∧ ∃ requested available,
      s.writeSink sink p = .error (.overCapacity requested available)) ∨
    ∃ s' sink', Behind s s' ∧ s.writeSink sink p = .ok (s', sink') ∧ Writes s' C x sink' (v ++ p)
  /-- A raw write takes bytes that are moved at once. -/
  atOnce_eq : ∀ {s C x sink v n}, Writes s C x sink v → AdmitsTransfer n → sink.atOnce n = n
  /-- The end of a writer. -/
  commit_eq : ∀ {s C x sink v}, Writes s C x sink v → Behind s (s.commit sink) ∧
    Keeps (s.commit sink) (Shelf.update C x (some v))

namespace Keeper

variable {κ : Type} [DecidableEq κ] [ToString κ] {b : Backend} (K : Keeper κ b)
  {r : RepositoryId} {s s' : Store κ} {σ : Shelf}

/-- The reply that a limit of the backend was hit. -/
def Full (x : Reply) : Prop := K.Limited ∧ x.isFull = true

/-! ### Stores and shelves -/

/-- A store that serves callers as a shelf does: they know the same claims of the repository `r`,
and the same was recorded. -/
structure Serves (r : RepositoryId) (s : Store κ) (σ : Shelf) : Prop where
  /-- Every counter agrees with the handles. -/
  sound : s.Sound
  /-- The repository is open. -/
  backend_eq : s.backend? r = some b
  /-- The claims are of the repository, and content can be kept for them. -/
  own : ∀ y ∈ σ.claims, y.repository = some r ∧ K.Admits y.identifier
  /-- Callers have nothing but references. -/
  references : References σ.handles
  /-- The same was recorded. -/
  log_eq : s.log = σ.log

/-- **A store that is to callers what a shelf is.** -/
structure Mirrors (r : RepositoryId) (s : Store κ) (σ : Shelf) : Prop extends
    Serves K r s σ where
  /-- The claims are the same. -/
  claims_eq : s.claims = σ.claims
  /-- The handles are the same. -/
  handles_eq : s.handles = σ.handles
  /-- The contents are the same. -/
  keeps : K.Keeps s σ.contents

variable {K} in
/-- Callers are served in a sound state with the same repositories and the same records. -/
lemma Serves.congr (h : K.Serves r s σ) {s' : Store κ} (hs : s'.Sound)
    (hrep : s'.repositories = s.repositories) (hlog : s'.log = s.log) : K.Serves r s' σ where
  sound := hs
  backend_eq := (backend?_congr hrep r).trans h.backend_eq
  own := h.own
  references := h.references
  log_eq := hlog.trans h.log_eq

variable {K} in
/-- So are they whatever the contents are. -/
lemma Serves.withContents (h : K.Serves r s σ) (C : String → Option Bytes) :
    K.Serves r s { σ with contents := C } :=
  ⟨h.sound, h.backend_eq, h.own, h.references, h.log_eq⟩

/-- Content can be kept for a claim that is there. -/
lemma Serves.admits (h : K.Serves r s σ) {c : ClaimId} (hc : c < σ.claims.length) :
    K.Admits (σ.identifier c) := by
  rw [Shelf.identifier, List.getElem?_eq_getElem hc]
  exact (h.own _ (List.getElem_mem hc)).2

/-! ### Hooks of callers -/

/-- **A claim looks the same in the store and on the shelf.** -/
lemma claimView_eq (hb : s.backend? r = some b)
    (hown : ∀ y ∈ σ.claims, y.repository = some r ∧ K.Admits y.identifier)
    (hc : s.claims = σ.claims) (hk : K.Keeps s σ.contents) (c : ClaimId) :
    s.claimView c = σ.claimView c := by
  unfold Store.claimView Shelf.claimView
  rw [references_of_claims hc]
  congr 1
  unfold repositoryOf Store.identifier
  rw [hc]
  cases hy : σ.claims[c]? with
  | none => rfl
  | some y =>
    obtain ⟨hrep, hadmits⟩ := hown y (List.mem_of_getElem? hy)
    simp only [hrep, hb, Option.map_some]
    rw [K.lengthIn_eq hk hadmits]

/-- The hooks are hooks of callers. -/
def Records (hs : List Hook) : Prop :=
  ∀ h ∈ hs, ∃ name failure probe, h = Hook.record name failure probe

/-- A hook of a caller records the same in the store and on the shelf. -/
lemma runHook_eq (hb : s.backend? r = some b)
    (hown : ∀ y ∈ σ.claims, y.repository = some r ∧ K.Admits y.identifier)
    (hc : s.claims = σ.claims) (hlog : s.log = σ.log) (hk : K.Keeps s σ.contents) (v : Bytes)
    {h : Hook} (hh : ∃ name failure probe, h = Hook.record name failure probe) :
    (s.runHook v h) = ({ s with log := (σ.runHook v h).1.log }, (σ.runHook v h).2) := by
  obtain ⟨name, failure, probe, rfl⟩ := hh
  have hview : s.claimView = σ.claimView := funext fun c => K.claimView_eq hb hown hc hk c
  rw [Store.runHook, Shelf.runHook, Store.record, hview, hlog]

/-- A hook of a caller changes nothing but what was recorded. -/
lemma runHook_shelf (σ : Shelf) (v : Bytes) (h : Hook) :
    (σ.runHook v h).1 = { σ with log := (σ.runHook v h).1.log } := by
  cases h <;> rfl

/-- Hooks of callers change nothing but what was recorded. -/
lemma runHooks_shelf (σ : Shelf) (v : Bytes) (hs : List Hook) :
    (σ.runHooks v hs).1 = { σ with log := (σ.runHooks v hs).1.log } := by
  induction hs generalizing σ with
  | nil => rfl
  | cons h hs ih =>
    rw [Shelf.runHooks]
    dsimp only
    rw [ih, runHook_shelf]

/-- **Hooks of callers record the same in the store and on the shelf.** -/
lemma runHooks_eq (hb : s.backend? r = some b)
    (hown : ∀ y ∈ σ.claims, y.repository = some r ∧ K.Admits y.identifier)
    (hc : s.claims = σ.claims) (hlog : s.log = σ.log) (hk : K.Keeps s σ.contents) (v : Bytes)
    {hs : List Hook} (hh : Records hs) :
    s.runHooks v hs = ({ s with log := (σ.runHooks v hs).1.log }, (σ.runHooks v hs).2) := by
  induction hs generalizing s σ with
  | nil => rw [Store.runHooks, Shelf.runHooks, ← hlog]
  | cons h hs ih =>
    have hfirst := K.runHook_eq hb hown hc hlog hk v (hh h List.mem_cons_self)
    have hshelf := runHook_shelf σ v h
    have hclaims : (σ.runHook v h).1.claims = σ.claims := by rw [hshelf]
    have hcontents : (σ.runHook v h).1.contents = σ.contents := by rw [hshelf]
    have hown' : ∀ y ∈ (σ.runHook v h).1.claims, y.repository = some r ∧ K.Admits y.identifier := by
      rw [hclaims]
      exact hown
    have hrest := ih (s := { s with log := (σ.runHook v h).1.log }) hb hown'
      (by rw [hclaims]; exact hc) rfl
      (by rw [hcontents]; exact K.keeps_besides (s := s) ⟨rfl, rfl, rfl, rfl⟩ hk)
      (fun h' hmem => hh h' (List.mem_cons_of_mem h hmem))
    rw [Store.runHooks, Shelf.runHooks]
    dsimp only
    rw [hfirst]
    dsimp only
    rw [hrest]

/-- Contents stay when resources are given back. -/
lemma keeps_releaseAll {C : String → Option Bytes} (h : K.Keeps s C) (rs : List Resource) :
    K.Keeps (s.releaseAll rs) C := by
  induction rs generalizing s with
  | nil => exact h
  | cons r rs ih => exact ih (K.keeps_release r h)

end Keeper

end ClaimStore
