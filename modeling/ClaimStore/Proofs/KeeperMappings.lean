import ClaimStore.Proofs.Keeper

/-!
# Mappings of keepers

While a mapping of a keeper is open, the store answers to its uses as the shelf does: both show the
same bytes. When the mapping is dropped the store is to callers what the shelf is.

## Main definitions

* `Keeper.Showing`, `Keeper.Over` — a mapping before and after it is unmapped.
* `Keeper.Maps` — a mapping, in the store and on the shelf.

## Main results

* `Keeper.Showing.unmap` — what unmapping does.
* `Keeper.Maps.use_eq` — a use of a mapping.
* `Keeper.Serves.discard`, `Keeper.Maps.drop` — the end of a handle, and of a mapping.
-/

set_option autoImplicit false

namespace ClaimStore

open Store

namespace Keeper

variable {κ : Type} [DecidableEq κ] [ToString κ] {b : Backend} (K : Keeper κ b)
  {r : RepositoryId} {c : ClaimId} {h : HandleId} {s s' : Store κ} {σ : Shelf}

/-! ### Mappings -/

/-- A mapping that shows bytes, in the store and on the shelf. -/
structure Showing (r : RepositoryId) (c : ClaimId) (h : HandleId) (s : Store κ)
    (μ : Shelf.Mapping) (m : Mapping) (l : Option Lease) (v : Bytes) : Prop extends
    Serves K r s μ.shelf where
  /-- The handle is the newest one. -/
  place_eq : h = μ.shelf.handles.length
  /-- The handle is the mapping. -/
  handles_eq : s.handles = μ.shelf.handles ++ [some (.mapping m)]
  /-- Both are read-only, or both are not. -/
  readOnly_eq : m.readOnly = μ.readOnly
  /-- The same bytes are shown. -/
  shown_eq : μ.shown = some v
  /-- The mapping holds a reference. -/
  claims_eq : s.claims = μ.shelf.claims.modify c fun x => { x with references := x.references + 1 }
  /-- The mapping has the hooks of the repository before those of callers. -/
  hooks_eq : m.hooks = ⟨K.before μ.readOnly μ.identifier ++ .hold c l :: μ.hooks, false⟩
  /-- The other hooks are those of callers. -/
  records : Records μ.hooks
  /-- The bytes are shown, and the rest is on the shelf. -/
  shows : K.Shows s μ.shelf.contents μ.identifier μ.readOnly m.backing v

/-- A mapping that was unmapped, in the store and on the shelf. -/
structure Over (r : RepositoryId) (h : HandleId) (s : Store κ) (μ : Shelf.Mapping)
    (m : Mapping) : Prop extends Serves K r s μ.shelf where
  /-- The handle is the newest one. -/
  place_eq : h = μ.shelf.handles.length
  /-- The handle is the mapping. -/
  handles_eq : s.handles = μ.shelf.handles ++ [some (.mapping m)]
  /-- Both are read-only, or both are not. -/
  readOnly_eq : m.readOnly = μ.readOnly
  /-- Nothing is shown. -/
  shown_eq : μ.shown = none
  /-- The reference was given back. -/
  claims_eq : s.claims = μ.shelf.claims
  /-- The hooks were run. -/
  hooks_eq : m.hooks = .spent
  /-- The view has ended. -/
  closed : ∃ k : Backing, m.backing = k.closed
  /-- The contents are on the shelf. -/
  keeps : K.Keeps s μ.shelf.contents

/-- A mapping that is open, in the store and on the shelf. -/
def Maps (r : RepositoryId) (c : ClaimId) (h : HandleId) (s : Store κ) (μ : Shelf.Mapping) : Prop :=
  (∃ m l v, K.Showing r c h s μ m l v) ∨ ∃ m, K.Over r h s μ m

variable {μ : Shelf.Mapping} {m : Mapping} {l : Option Lease} {v : Bytes}

variable {K}

/-- The handle is the mapping. -/
lemma Showing.mapping?_eq (hs : K.Showing r c h s μ m l v) : s.mapping? h = some m := by
  rw [mapping?_eq_some, hs.place_eq]
  exact handle?_of_concat hs.handles_eq

/-- It stays the mapping that was unmapped. -/
lemma Over.mapping?_eq (ho : K.Over r h s μ m) : s.mapping? h = some m := by
  rw [mapping?_eq_some, ho.place_eq]
  exact handle?_of_concat ho.handles_eq

/-- The mapping shows the bytes of the shelf. -/
lemma Showing.view?_eq (hs : K.Showing r c h s μ m l v) : s.view? m = some v :=
  K.view?_eq hs.shows

/-- A mapping that was unmapped shows nothing. -/
lemma Over.view?_eq (ho : K.Over r h s μ m) : s.view? m = none := by
  obtain ⟨k, hk⟩ := ho.closed
  exact view?_closed s hk

/-- A mapping goes on showing after a step behind the scenes that replaced it. -/
lemma Showing.replace (hs : K.Showing r c h s μ m l v) {s₁ : Store κ} (hb : Behind s s₁)
    {k : Backing} {v' : Bytes} (hsound : (s₁.setHandle h (.mapping { m with backing := k })).Sound)
    (hshows : K.Shows s₁ μ.shelf.contents μ.identifier μ.readOnly k v') :
    K.Showing r c h (s₁.setHandle h (.mapping { m with backing := k }))
      { μ with shown := some v' } { m with backing := k } l v' where
  toServes := hs.toServes.congr hsound hb.repositories_eq hb.log_eq
  place_eq := hs.place_eq
  handles_eq := by
    show s₁.handles.set h _ = _
    rw [hb.handles_eq, hs.handles_eq, hs.place_eq, set_concat]
  readOnly_eq := hs.readOnly_eq
  shown_eq := rfl
  claims_eq := hb.claims_eq.trans hs.claims_eq
  hooks_eq := hs.hooks_eq
  records := hs.records
  shows := K.shows_besides (s := s₁) ⟨rfl, rfl, rfl, rfl⟩ hshows

/-- Other bytes in a mapping that shows some. -/
lemma Showing.setView (hs : K.Showing r c h s μ m l v) (hro : μ.readOnly = false) {v' : Bytes}
    (hsize : v'.size = v.size) :
    ∃ m', K.Showing r c h (s.setView h m v') { μ with shown := some v' } m' l v' := by
  have hshows := hs.shows
  rw [hro] at hshows
  have hm := hs.mapping?_eq
  have hsound : (s.setView h m v').Sound := by
    refine (hs.sound.setView (mapping?_eq_some.1 hm) ?_ hs.view?_eq hsize).sound
    rw [hs.readOnly_eq, hro]
  obtain ⟨s₁, k, hb, heq, hshows'⟩ := K.setView_eq hshows hsize hm
  rw [heq] at hsound ⊢
  exact ⟨_, hs.replace hb hsound (hro ▸ hshows')⟩

/-- The contents and the callers of a shelf with bytes put on it. -/
lemma settled_parts (μ : Shelf.Mapping) (v : Bytes) :
    (μ.settled v).claims = μ.shelf.claims ∧ (μ.settled v).handles = μ.shelf.handles ∧
      (μ.settled v).log = μ.shelf.log ∧ (μ.settled v).contents = if μ.readOnly then
        μ.shelf.contents else Shelf.update μ.shelf.contents μ.identifier (some v) := by
  unfold Shelf.Mapping.settled
  split <;> exact ⟨rfl, rfl, rfl, rfl⟩

/-- **The hooks of the repository** put the bytes of a mapping on the shelf, and give back what it
holds of the claim. -/
lemma Showing.settle (hs : K.Showing r c h s μ m l v) :
    (s.writeBack m).view? m = some v ∧ ∃ s₁, s₁.claims = (μ.settled v).claims ∧
      s₁.handles = s.handles ∧ s₁.log = (μ.settled v).log ∧ s₁.repositories = s.repositories ∧
      K.Keeps s₁ (μ.settled v).contents ∧
      ∀ hooks, (s.writeBack m).runHooks v (K.before μ.readOnly μ.identifier ++ .hold c l :: hooks) =
        s₁.runHooks v hooks := by
  have hshows := hs.shows
  rw [← hs.readOnly_eq] at hshows
  obtain ⟨hview, s₁, hb, hbefore, hkeeps⟩ := K.settle hshows
  rw [hs.readOnly_eq] at hbefore hkeeps
  obtain ⟨s₂, hb₂, hhold⟩ := releaseAll_hold s₁ c l
  obtain ⟨hclaims, -, hlog, hcontents⟩ := settled_parts μ v
  refine ⟨hview, s₂.release (.reference c), ?_, ?_, ?_, ?_, ?_, fun hooks => ?_⟩
  · show s₂.claims.modify c _ = _
    rw [hclaims, hb₂.claims_eq, hb.claims_eq, hs.claims_eq, modify_references]
  · exact hb₂.handles_eq.trans hb.handles_eq
  · rw [hlog]
    exact hb₂.log_eq.trans (hb.log_eq.trans hs.log_eq)
  · exact hb₂.repositories_eq.trans hb.repositories_eq
  · rw [hcontents, ← hhold]
    exact K.keeps_releaseAll hkeeps _
  · rw [runHooks_append, hbefore]
    dsimp only
    rw [Store.runHooks, Store.runHook, hhold]
    rfl

/-- **A mapping that is unmapped** puts its bytes on the shelf, and runs the hooks of callers.

**Proof sketch.** The view is settled first: its bytes go on the shelf, and the hook of the backend
gives back what the mapping holds. Then the hooks of callers run on both sides, and see the same. At
last the view ends, behind the scenes. -/
lemma Showing.unmap (hs : K.Showing r c h s μ m l v) :
    .of (fun _ => .done) (s.unmap h).2 = μ.unmap.2 ∧
      ∃ m', K.Over r h (s.unmap h).1 μ.unmap.1 m' := by
  have hsound := (hs.sound.unmap h).sound
  obtain ⟨hview, s₁, hclaims, hhandles, hlog, hrep, hkeeps, hhooks⟩ := hs.settle
  obtain ⟨hσclaims, hσhandles, -, -⟩ := settled_parts μ v
  have hback : s₁.backend? r = some b := (backend?_congr hrep r).trans hs.backend_eq
  have hown : ∀ y ∈ (μ.settled v).claims, y.repository = some r ∧ K.Admits y.identifier :=
    hσclaims ▸ hs.own
  have hrun := K.runHooks_eq hback hown hclaims hlog hkeeps v hs.records
  have hshelf := runHooks_shelf (μ.settled v) v μ.hooks
  -- the state after the hooks of callers, and after the view has ended
  obtain ⟨s₂, hs₂⟩ : ∃ s₂ : Store κ, s₂ =
    { s₁ with log := ((μ.settled v).runHooks v μ.hooks).1.log } := ⟨_, rfl⟩
  have hkeeps₂ : K.Keeps s₂ (μ.settled v).contents :=
    K.keeps_besides (s := s₁) (by rw [hs₂]; exact ⟨rfl, rfl, rfl, rfl⟩) hkeeps
  obtain ⟨s₃, hs₃⟩ : ∃ s₃ : Store κ, s₃ = s₂.releaseAll m.backing.viewResources := ⟨_, rfl⟩
  have hkeeps₃ : K.Keeps s₃ (μ.settled v).contents := hs₃ ▸ K.keeps_releaseAll hkeeps₂ _
  have hbehind : Behind s₂ s₃ :=
    hs₃ ▸ behind_releaseAll s₂ (reference_not_mem_viewResources m.backing)
  have hunmap : s.unmap h = (s₃.setHandle h
      (.mapping { m with backing := m.backing.closed, hooks := .spent }),
        unlessFailed ((μ.settled v).runHooks v μ.hooks).2) := by
    unfold Store.unmap
    simp only [hs.mapping?_eq]
    rw [hview, hs.hooks_eq]
    simp only [Option.getD_some]
    rw [hhooks, hrun, hs₃, hs₂]
  have hμ : μ.unmap =
      ({ μ with shelf := ((μ.settled v).runHooks v μ.hooks).1, shown := none, hooks := [] },
        .of (fun _ => .done) (unlessFailed ((μ.settled v).runHooks v μ.hooks).2)) := by
    unfold Shelf.Mapping.unmap
    simp only [hs.shown_eq]
  rw [hunmap] at hsound
  rw [hunmap, hμ]
  refine ⟨rfl, { m with backing := m.backing.closed, hooks := .spent }, ?_⟩
  rw [hshelf]
  exact {
    sound := hsound
    backend_eq := (backend?_congr hbehind.repositories_eq r).trans (hs₂ ▸ hback)
    own := hown
    references := hσhandles ▸ hs.references
    log_eq := hbehind.log_eq.trans (by rw [hs₂])
    place_eq := hσhandles ▸ hs.place_eq
    handles_eq := by
      show s₃.handles.set h _ = (μ.settled v).handles ++ _
      rw [hbehind.handles_eq, hs₂, hσhandles]
      show s₁.handles.set h _ = _
      rw [hhandles, hs.handles_eq, hs.place_eq, set_concat]
    readOnly_eq := hs.readOnly_eq
    shown_eq := rfl
    claims_eq := hbehind.claims_eq.trans (hs₂ ▸ hclaims)
    hooks_eq := rfl
    closed := ⟨m.backing, rfl⟩
    keeps := K.keeps_besides (s := s₃) ⟨rfl, rfl, rfl, rfl⟩ hkeeps₃ }

/-! ### Uses of a mapping that shows bytes -/

/-- The bytes can be changed unless the mapping is read-only. -/
lemma Showing.mutableView?_eq (hs : K.Showing r c h s μ m l v) :
    s.mutableView? m = if μ.readOnly then none else some v := by
  rw [mutableView?, hs.readOnly_eq, hs.view?_eq]

/-- The bytes that are lent out are those on the shelf. -/
lemma Showing.data_eq (hs : K.Showing r c h s μ m l v) : s.data h = μ.shown := by
  unfold Store.data
  simp only [hs.mapping?_eq]
  rw [hs.view?_eq, hs.shown_eq]

/-- A read at an offset answers as on the shelf. -/
lemma Showing.readAt_eq (hs : K.Showing r c h s μ m l v) (offset len : Nat) :
    .of .bytes (s.readAt h offset len) = μ.readAt offset len := by
  unfold Store.readAt Store.data Shelf.Mapping.readAt
  simp only [hs.mapping?_eq, hs.view?_eq, hs.shown_eq]
  split <;> rfl

/-- A mapping that shows bytes is open. -/
lemma Showing.maps (hs : K.Showing r c h s μ m l v) : K.Maps r c h s μ :=
  .inl ⟨m, l, v, hs⟩

/-- A write at an offset answers as on the shelf, and the mapping stays open. -/
lemma Showing.writeAt_eq (hs : K.Showing r c h s μ m l v) (offset : Nat) (p : Bytes) :
    .of (fun _ => .done) (s.writeAt h offset p).2 = (μ.writeAt offset p).2 ∧
      K.Maps r c h (s.writeAt h offset p).1 (μ.writeAt offset p).1 := by
  unfold Store.writeAt Shelf.Mapping.writeAt
  simp only [hs.mapping?_eq, hs.mutableView?_eq, hs.shown_eq, hs.readOnly_eq]
  cases hro : μ.readOnly with
  | true => exact ⟨rfl, hs.maps⟩
  | false =>
    simp only [Bool.false_eq_true, if_false]
    split
    · next hle =>
      obtain ⟨m', hs'⟩ := hs.setView hro (Bytes.size_patch hle)
      rw [hro] at hs'
      exact ⟨rfl, hs'.maps⟩
    · exact ⟨rfl, hs.maps⟩

/-- A fill answers as on the shelf, and the mapping stays open. -/
lemma Showing.fill_eq (hs : K.Showing r c h s μ m l v) (byte : UInt8) :
    .ofOption .count (s.fillView h byte).2 = (μ.fill byte).2 ∧
      K.Maps r c h (s.fillView h byte).1 (μ.fill byte).1 := by
  unfold Store.fillView Shelf.Mapping.fill
  simp only [hs.mapping?_eq, hs.mutableView?_eq, hs.shown_eq]
  cases hro : μ.readOnly with
  | true => exact ⟨rfl, hs.maps⟩
  | false =>
    obtain ⟨m', hs'⟩ := hs.setView hro (Bytes.size_replicate v.size byte)
    rw [hro] at hs'
    exact ⟨rfl, hs'.maps⟩

/-- An open that was refused tells so. -/
lemma full_of_refused {α : Type} {f : α → Reply} {o : Except Failure α}
    (h : K.Limited ∧ Refused o) : K.Full (Reply.of f o) := by
  obtain ⟨hlimited, requested, available, rfl⟩ := h
  exact ⟨hlimited, rfl⟩

/-- A change of length answers as on the shelf, and the mapping stays open, unless the backend is
full. -/
lemma Showing.resize_eq (hs : K.Showing r c h s μ m l v) {n : UInt64} (hn : K.AdmitsLength n) :
    K.Full (Reply.of .bytes (s.resize h n).2) ∨
      (.of .bytes (s.resize h n).2 = (μ.resize n.toNat).2 ∧
        K.Maps r c h (s.resize h n).1 (μ.resize n.toNat).1) := by
  have hm := hs.mapping?_eq
  unfold Shelf.Mapping.resize
  simp only [hs.shown_eq]
  cases hro : μ.readOnly with
  | true =>
    have hfail : s.resize h n = (s, .error (.content (.notSupported "resize"))) := by
      unfold Store.resize
      simp only [hm, hs.readOnly_eq, hro, if_true]
    rw [hfail]
    exact .inr ⟨rfl, hs.maps⟩
  | false =>
    have hshows := hs.shows
    rw [hro] at hshows
    rcases K.resize_eq hshows hn hm (hs.readOnly_eq.trans hro) with
      hfull | ⟨s₁, k, hb, heq, hshows'⟩
    · exact .inl (full_of_refused hfull)
    · have hsound := (hs.sound.resize h n).sound
      rw [heq] at hsound ⊢
      refine .inr ⟨rfl, ?_⟩
      have hs' := hs.replace hb hsound (hro ▸ hshows')
      rw [hro] at hs'
      exact hs'.maps

/-- A hook that waits. -/
lemma Showing.register_eq (hs : K.Showing r c h s μ m l v) (name : String)
    (failure : Option String) (probe : Option ClaimId) :
    K.Maps r c h (s.registerHook h (.record name failure probe))
      (μ.register (.record name failure probe)) := by
  have hsound := (hs.sound.registerHook h name failure probe).sound
  have heq : s.registerHook h (.record name failure probe) =
      s.setHandle h (.mapping { m with hooks := m.hooks.push (.record name failure probe) }) := by
    unfold Store.registerHook Store.register
    simp only [hs.mapping?_eq, hs.hooks_eq, Bool.false_eq_true, if_false]
  rw [heq] at hsound ⊢
  unfold Shelf.Mapping.register
  simp only [hs.shown_eq]
  refine .inl ⟨{ m with hooks := m.hooks.push (.record name failure probe) }, l, v, {
    sound := hsound
    backend_eq := hs.backend_eq
    own := hs.own
    references := hs.references
    log_eq := hs.log_eq
    place_eq := hs.place_eq
    handles_eq := ?_
    readOnly_eq := hs.readOnly_eq
    shown_eq := rfl
    claims_eq := hs.claims_eq
    hooks_eq := ?_
    records := ?_
    shows := K.shows_besides (s := s) ⟨rfl, rfl, rfl, rfl⟩ hs.shows }⟩
  · show s.handles.set h _ = _
    rw [hs.handles_eq, hs.place_eq, set_concat]
  · show m.hooks.push _ = _
    rw [hs.hooks_eq, UnmapHooks.push]
    simp only [List.append_assoc, List.cons_append]
  · intro g hg
    rcases List.mem_append.1 hg with hg | hg
    · exact hs.records g hg
    · exact ⟨name, failure, probe, List.mem_singleton.1 hg⟩

/-! ### Uses of a mapping that was unmapped -/

/-- A mapping that was unmapped is still a handle of the shelf. -/
lemma Over.maps (ho : K.Over r h s μ m) : K.Maps r c h s μ := .inr ⟨m, ho⟩

/-- It can change nothing. -/
lemma Over.mutableView?_eq (ho : K.Over r h s μ m) : s.mutableView? m = none := by
  rw [mutableView?, ho.view?_eq, ite_self]

/-- Its size is that of what is not mapped. -/
lemma Over.mappingSize_eq (ho : K.Over r h s μ m) : s.mappingSize m = Limits.unmappedSize := by
  obtain ⟨k, hk⟩ := ho.closed
  exact mappingSize_closed s hk

/-- It lends out nothing. -/
lemma Over.data_eq (ho : K.Over r h s μ m) : s.data h = μ.shown := by
  unfold Store.data
  simp only [ho.mapping?_eq]
  rw [ho.view?_eq, ho.shown_eq]

/-- It refuses every change of length, and says why as the shelf does. -/
lemma Over.resize_eq (ho : K.Over r h s μ m) (n : UInt64) :
    ∃ f, s.resize h n = (s, .error f) ∧
      f.complaint = .kind (if μ.readOnly then .notSupported else .invalidMapping) := by
  unfold Store.resize
  simp only [ho.mapping?_eq, ho.readOnly_eq]
  cases μ.readOnly with
  | true => exact ⟨_, rfl, rfl⟩
  | false =>
    obtain ⟨k, hk⟩ := ho.closed
    rw [hk]
    cases k with
    | file b => exact ⟨_, rfl, rfl⟩
    | entry b =>
      obtain ⟨borrow, size, view⟩ := b
      cases borrow <;> exact ⟨_, rfl, rfl⟩
    | buffer b => exact ⟨_, rfl, rfl⟩

/-- A mapping that was unmapped is not unmapped again. -/
lemma Over.unmap_eq (ho : K.Over r h s μ m) : s.unmap h = (s, .ok ()) := by
  obtain ⟨k, hk⟩ := ho.closed
  have hback : s.writeBack m = s := by
    unfold writeBack
    rw [hk]
    cases m.readOnly <;> cases k <;> rfl
  have hclosed : ({ m with backing := m.backing.closed, hooks := .spent } : Mapping) = m := by
    obtain ⟨backing, readOnly, hooks⟩ := m
    obtain rfl : backing = k.closed := hk
    obtain rfl : hooks = .spent := ho.hooks_eq
    cases k <;> rfl
  have hview : s.releaseAll m.backing.viewResources = s := by
    rw [hk]
    cases k with
    | file | buffer => rfl
    | entry b =>
      obtain ⟨borrow, size, view⟩ := b
      cases borrow <;> rfl
  have hplace : s.setHandle h (.mapping m) = s := by
    unfold Store.setHandle
    rw [ho.handles_eq, ho.place_eq, set_concat, ← ho.handles_eq]
  unfold Store.unmap
  simp only [ho.mapping?_eq]
  rw [hback, ho.hooks_eq]
  show ((s.releaseAll m.backing.viewResources).setHandle h _, _) = _
  rw [hclosed, hview, hplace]
  rfl

/-- A hook that is late. -/
lemma Over.register_eq (ho : K.Over r h s μ m) (name : String) (failure : Option String)
    (probe : Option ClaimId) :
    K.Over r h (s.registerHook h (.record name failure probe))
      (μ.register (.record name failure probe)) m := by
  have hsound := (ho.sound.registerHook h name failure probe).sound
  have hrun := K.runHook_eq ho.backend_eq ho.own ho.claims_eq ho.log_eq ho.keeps .empty
    ⟨name, failure, probe, rfl⟩
  have hshelf := runHook_shelf μ.shelf .empty (.record name failure probe)
  have heq : s.registerHook h (.record name failure probe) =
      ({ s with log := (μ.shelf.runHook .empty (.record name failure probe)).1.log } :
        Store κ).setHandle h (.mapping m) := by
    unfold Store.registerHook Store.register
    simp only [ho.mapping?_eq]
    rw [ho.hooks_eq]
    simp only [UnmapHooks.spent, if_true]
    rw [hrun]
    obtain ⟨backing, readOnly, hooks⟩ := m
    obtain rfl : hooks = .spent := ho.hooks_eq
    rfl
  rw [heq] at hsound ⊢
  unfold Shelf.Mapping.register
  simp only [ho.shown_eq]
  rw [hshelf]
  exact {
    sound := hsound
    backend_eq := ho.backend_eq
    own := ho.own
    references := ho.references
    log_eq := rfl
    place_eq := ho.place_eq
    handles_eq := by
      show s.handles.set h _ = _
      rw [ho.handles_eq, ho.place_eq, set_concat]
    readOnly_eq := ho.readOnly_eq
    shown_eq := rfl
    claims_eq := ho.claims_eq
    hooks_eq := ho.hooks_eq
    closed := ho.closed
    keeps := K.keeps_besides (s := s) ⟨rfl, rfl, rfl, rfl⟩ ho.keeps }

/-- **A use of a mapping that shows bytes** has the same reply in the store and on the shelf. -/
lemma Showing.use_eq (hs : K.Showing r c h s μ m l v) {u : MappingUse}
    (hu : ∀ n, u = .resize n → K.AdmitsLength n) :
    K.Full (s.useMapping h u).2 ∨
      ((s.useMapping h u).2 = (μ.use u).2 ∧ K.Maps r c h (s.useMapping h u).1 (μ.use u).1) := by
  cases u with
  | data => exact .inr ⟨congrArg (Reply.ofOption .bytes) hs.data_eq, hs.maps⟩
  | size =>
    refine .inr ⟨?_, hs.maps⟩
    simp only [useMapping, Shelf.Mapping.use, hs.mapping?_eq, hs.shown_eq, Option.map_some,
      Option.getD_some, K.mappingSize_eq hs.shows, Reply.ofOption]
  | readAt offset len => exact .inr ⟨hs.readAt_eq offset len, hs.maps⟩
  | writeAt offset p => exact .inr (hs.writeAt_eq offset p)
  | fill byte => exact .inr (hs.fill_eq byte)
  | resize n => exact hs.resize_eq (hu n rfl)
  | unmap =>
    obtain ⟨hreply, m', ho⟩ := hs.unmap
    exact .inr ⟨hreply, .inr ⟨m', ho⟩⟩
  | hook name failure probe => exact .inr ⟨rfl, hs.register_eq name failure probe⟩

/-- **A use of a mapping that was unmapped** has the same reply in the store and on the shelf. -/
lemma Over.use_eq (ho : K.Over r h s μ m) (u : MappingUse) :
    (s.useMapping h u).2 = (μ.use u).2 ∧ K.Maps r c h (s.useMapping h u).1 (μ.use u).1 := by
  cases u with
  | data => exact ⟨congrArg (Reply.ofOption .bytes) ho.data_eq, ho.maps⟩
  | size =>
    refine ⟨?_, ho.maps⟩
    simp only [useMapping, Shelf.Mapping.use, ho.mapping?_eq, ho.shown_eq, Option.map_some,
      Option.map_none, Option.getD_none, ho.mappingSize_eq, Reply.ofOption]
  | readAt offset len =>
    refine ⟨?_, ho.maps⟩
    simp only [useMapping, Shelf.Mapping.use, Store.readAt, Shelf.Mapping.readAt, ho.data_eq,
      ho.shown_eq]
    rfl
  | writeAt offset p =>
    simp only [useMapping, Shelf.Mapping.use, Store.writeAt, Shelf.Mapping.writeAt,
      ho.mapping?_eq, ho.mutableView?_eq, ho.shown_eq, ho.readOnly_eq]
    cases μ.readOnly <;> exact ⟨rfl, ho.maps⟩
  | fill byte =>
    simp only [useMapping, Shelf.Mapping.use, Store.fillView, Shelf.Mapping.fill,
      ho.mapping?_eq, ho.mutableView?_eq, ho.shown_eq, ite_self]
    exact ⟨rfl, ho.maps⟩
  | resize n =>
    obtain ⟨f, hf, hcomplaint⟩ := ho.resize_eq n
    simp only [useMapping, Shelf.Mapping.use, Shelf.Mapping.resize, hf, ho.shown_eq, Reply.of,
      hcomplaint]
    cases μ.readOnly <;> exact ⟨rfl, ho.maps⟩
  | unmap =>
    simp only [useMapping, Shelf.Mapping.use, Shelf.Mapping.unmap, ho.unmap_eq, ho.shown_eq]
    exact ⟨rfl, ho.maps⟩
  | hook name failure probe => exact ⟨rfl, (ho.register_eq name failure probe).maps⟩

/-- **A use of a mapping has the same reply in the store and on the shelf.** -/
lemma Maps.use_eq (hm : K.Maps r c h s μ) {u : MappingUse}
    (hu : ∀ n, u = .resize n → K.AdmitsLength n) :
    K.Full (s.useMapping h u).2 ∨
      ((s.useMapping h u).2 = (μ.use u).2 ∧ K.Maps r c h (s.useMapping h u).1 (μ.use u).1) := by
  rcases hm with ⟨m, l, v, hs⟩ | ⟨m, ho⟩
  · exact hs.use_eq hu
  · exact .inr (ho.use_eq u)

/-! ### The end of a handle -/

/-- **A handle that gives all back** leaves the store as it is to callers without the handle. -/
lemma Serves.discard (hs : K.Serves r s σ) {a : Handle}
    (hl : s.handles = σ.handles ++ [some a])
    (hclaims : (s.releaseAll a.resources).claims = σ.claims) (hk : K.Keeps s σ.contents) :
    K.Mirrors r (s.discard σ.handles.length) σ.addPlace := by
  have hsound := (hs.sound.discard σ.handles.length).sound
  obtain ⟨hhandles, hlog, hrep⟩ := releaseAll_frame s a.resources
  have heq : s.discard σ.handles.length =
      { s.releaseAll a.resources with handles := σ.handles ++ [none] } := by
    unfold Store.discard
    simp only [handle?_of_concat hl]
    rw [hhandles, hl, set_concat]
  rw [heq] at hsound ⊢
  exact {
    sound := hsound
    backend_eq := (backend?_congr hrep r).trans hs.backend_eq
    own := hs.own
    references := by
      intro o ho
      rcases List.mem_append.1 ho with ho | ho
      · exact hs.references o ho
      · exact .inl (List.mem_singleton.1 ho)
    log_eq := hlog.trans hs.log_eq
    claims_eq := hclaims
    handles_eq := rfl
    keeps := K.keeps_besides (s := s.releaseAll a.resources) ⟨rfl, rfl, rfl, rfl⟩
      (K.keeps_releaseAll hk _) }

/-- A mapping that was unmapped is dropped. -/
lemma Over.discard (ho : K.Over r h s μ m) : K.Mirrors r (s.discard h) μ.shelf.addPlace := by
  obtain ⟨k, hk⟩ := ho.closed
  rw [ho.place_eq]
  refine ho.toServes.discard ho.handles_eq ?_ ho.keeps
  have hres : m.resources = k.closed.keptResources := by
    rw [Mapping.resources, ho.hooks_eq, hk]
    cases k with
    | file | buffer => rfl
    | entry b =>
      obtain ⟨borrow, size, view⟩ := b
      cases borrow <;> rfl
  show (s.releaseAll m.resources).claims = _
  rw [hres]
  exact ((behind_releaseAll s (reference_not_mem_keptResources k.closed)).claims_eq).trans
    ho.claims_eq

/-- **A mapping that is dropped** was unmapped, and leaves nothing but an empty place. -/
lemma Maps.drop (hm : K.Maps r c h s μ) : K.Mirrors r (s.drop h) μ.unmap.1.shelf.addPlace := by
  have hdrop : ∀ {m}, s.mapping? h = some m → s.drop h = (s.unmap h).1.discard h := by
    intro m hm
    unfold Store.drop
    rw [mapping?_eq_some.1 hm]
  rcases hm with ⟨m, l, v, hs⟩ | ⟨m, ho⟩
  · obtain ⟨-, m', ho⟩ := hs.unmap
    rw [hdrop hs.mapping?_eq]
    exact ho.discard
  · have hμ : μ.unmap.1 = μ := by
      unfold Shelf.Mapping.unmap
      rw [ho.shown_eq]
    rw [hdrop ho.mapping?_eq, ho.unmap_eq, hμ]
    exact ho.discard

end Keeper

end ClaimStore
