import ClaimStore.Proofs.EntryRoom
import ClaimStore.Proofs.FreeRows
import ClaimStore.Proofs.Openable
import ClaimStore.Proofs.StoredContent
import ClaimStore.Proofs.ValueViews

/-!
# Content that is mapped writable

A writable mapping of `n` bytes shows the stored content, cut or zero-padded to `n` bytes, in every
backend. What is stored after it was unmapped without a write is what it showed where the content is
a value or a row. A file is different: a writable mapping extends it to `n` bytes where it is
shorter and never cuts it, so that a longer one is stored as before.

## Main definitions

* `Backend.left` — what a writable mapping leaves behind.
* `Store.maxBufferBytes`, `Store.maxRowBytes` — what memory and a database can hold.
* `Store.Idle`, `Store.CanHold` — nobody is in the way of a mapping, and neither is a limit.
* `Store.Rewrites` — content that is mapped writable and unmapped.

## Main results

* `Store.MapsWritable.unmap_eq` — a mapping that is unmapped leaves behind what it is said to.
* `Store.rewriting_runUnder` — content that is mapped writable, after every run.
* `Store.not_cutting_file` — a file is not cut.

## Design

What memory and a database can hold is not asked when a mapping is made: a buffer that is longer
than memory can hold ends the thread that asks for it, and a row that a database does not take is
refused when it is stored. So success is stated for lengths that they can hold. -/

set_option autoImplicit false

namespace ClaimStore

/-- **What a writable mapping of `n` bytes leaves behind** of stored bytes, if nothing is written
through it: a file is extended and never cut. -/
def Backend.left (b : Backend) (n : Nat) (v : Bytes) : Bytes :=
  match b with
  | .files .. => v.fit (max n v.size)
  | .volatile .. | .database .. => v.fit n

/-- What a mapping leaves behind is what it showed, unless it showed a part of a file. -/
lemma Backend.left_eq {b : Backend} {n : Nat} {v : Bytes}
    (h : v.size ≤ n ∨ ∀ D w g, b ≠ .files D w g) : b.left n v = v.fit n := by
  cases b with
  | files D w g =>
    show v.fit (max n v.size) = _
    rw [Nat.max_eq_left (h.resolve_right fun hne => hne D w g rfl)]
  | volatile => rfl
  | database => rfl

namespace Store

variable {κ : Type} [DecidableEq κ] {s s' : Store κ} {l : Ledger} {r : RepositoryId} {c : ClaimId}
  {b : Backend} {D : Path} {w g : RegistryId} {t : TableId} {d : DatabaseId} {x : String}
  {n : UInt64} {u v : Bytes} {m : Mapping}

/-! ### Writable mappings -/

/-- **A writable mapping** of the content of an identifier, which shows bytes and is going to leave
bytes behind. -/
inductive MapsWritable (s : Store κ) (x : String) (v : Bytes) : Bytes → Backend → Mapping → Prop
  /-- In a file, the first bytes are shown. -/
  | file {D p : Path} {w g : RegistryId} {id : FileId} {k : Option Gate} {n : Nat}
      (sound : s.disk.Sound) (resolve_eq : s.disk.resolve (contentPath D x) = .ok (.file id))
      (view_eq : s.disk.view id n = v) (size_eq : v.size = n) :
      MapsWritable s x v (s.disk.bytes id) (.files D w g)
        ⟨.file ⟨p, some (.file id), if n = 0 then .empty else .mapped, n, k⟩, false, .empty⟩
  /-- In an entry, its value is shown. -/
  | entry {t : TableId} {w : RegistryId} {C : String → Option Bytes} {k : Backing}
      (shows : ShowsEntry t s C x false k v) :
      MapsWritable s x v v (.volatile t w) ⟨k, false, .empty⟩
  /-- Of a row, a copy is shown. -/
  | row {d : DatabaseId} {p : Path} {w : RegistryId} (lt_length : d < s.databases.length) :
      MapsWritable s x v v (.database d p w)
        ⟨.buffer ⟨some v, none⟩, false, .push .empty (.store d x)⟩

namespace MapsWritable

/-- It stays while something else changes. -/
lemma besides (h : MapsWritable s x v u b m) (hb : Besides s s') : MapsWritable s' x v u b m := by
  cases h with
  | file hd hresolve hview hsize =>
    rw [← hb.disk_eq] at hd hresolve hview ⊢
    exact .file hd hresolve hview hsize
  | entry hshows => exact .entry (showsEntry_congr hshows hb.tables_eq)
  | row hlt => exact .row (hb.databases_eq ▸ hlt)

/-- A writable mapping is not read-only. -/
lemma readOnly_eq (h : MapsWritable s x v u b m) : m.readOnly = false := by
  cases h <;> rfl

/-- The bytes shown. -/
lemma view?_eq (h : MapsWritable s x v u b m) : s.view? m = some v := by
  cases h with
  | @file D p w g id k n hd hresolve hview hsize =>
    by_cases hn : n = 0
    · subst hn
      have hempty : v = .empty := Bytes.size_eq_zero_iff.1 hsize
      rw [hempty]
      rfl
    · rw [if_neg hn]
      exact congrArg some hview
  | entry hshows => exact showsEntry_view? (m := ⟨_, false, .empty⟩) hshows
  | row => rfl

/-- The size shown. -/
lemma mappingSize_eq (h : MapsWritable s x v u b m) : s.mappingSize m = v.size := by
  cases h with
  | @file D p w g id k n hd hresolve hview hsize =>
    rw [hsize]
    by_cases hn : n = 0
    · rw [if_pos hn]
      rfl
    · rw [if_neg hn]
      rfl
  | entry hshows => exact showsEntry_mappingSize (m := ⟨_, false, .empty⟩) hshows
  | row => rfl

/-- **What is left behind** once it was written back, the hooks were run that store its bytes, and
its view was given back.

**Proof sketch.** By the backing. A file has its bytes already, and an entry holds them as its
value, which is unlocked; the hook of a row stores them. -/
lemma settle (h : MapsWritable s x v u b m) :
    ∃ s₁, Behind s s₁ ∧ (s.writeBack m).runHooks (((s.writeBack m).view? m).getD .empty)
        m.hooks.pending = (s₁, none) ∧
      ∀ s₂, Besides s₁ s₂ → (s₂.releaseAll m.backing.viewResources).Rests b x u := by
  cases h with
  | @file D p w g id k n hd hresolve hview hsize =>
    refine ⟨s.writeBack _, ?_, rfl, fun s₂ hb => ?_⟩
    · exact ⟨rfl, rfl, rfl, rfl⟩
    show ∃ id', s₂.disk.resolve _ = _ ∧ s₂.disk.bytes id' = _
    rw [hb.disk_eq]
    refine ⟨id, ?_⟩
    by_cases hn : n = 0
    · rw [if_pos hn]
      exact ⟨hresolve, rfl⟩
    · rw [if_neg hn]
      refine ⟨Disk.resolve_modify hd hresolve id _, ?_⟩
      show (s.disk.modify id (·.flush n)).bytes id = _
      rw [Disk.bytes_modify]
      split
      · exact FileData.bytes_flush _ n
      · rfl
  | @entry t w C k hshows =>
    obtain ⟨e, i, rfl, hfind, hhas⟩ := hshows
    have hhas : HasEntries s t (Shelf.update C x (some u)) := hhas
    refine ⟨s, .refl s, rfl, fun s₂ hb => ?_⟩
    have hhas₂ := hhas.congr hb.tables_eq
    have htable : (s₂.release (.writeLock t e)).table t = (s.table t).endWrite e := by
      refine (congrArg (table · t) (s₂.release_resource t e .writeLock)).trans ?_
      rw [table_setTable_self hhas₂.lt_length, table, table, hb.tables_eq]
    refine ⟨_, hhas₂.release (.writeLock t e), Shelf.update_self .., fun e' he' => ?_⟩
    change ((s₂.release (.writeLock t e)).table t).find? _ = _ at he'
    show ((s₂.release (.writeLock t e)).table t).tally e' _ = 0
    rw [htable] at he' ⊢
    have hsame := EntryTable.find?_modify (f := fun c => { c with lock := c.lock.endWrite })
      (s.table t) e (fun _ => rfl) (fun _ => rfl) (.text x)
    obtain rfl := Option.some.inj ((hfind.symm.trans hsame.symm).trans he')
    rw [EntryTable.tally_endWrite, if_pos ⟨rfl, rfl⟩]
    exact Nat.sub_eq_zero_of_le (tally_writeLock_le _ e)
  | @row d p w hlt =>
    refine ⟨s.modifyDatabase d (·.put x u), ⟨rfl, rfl, rfl, rfl⟩, rfl, fun s₂ hb => ?_⟩
    show s₂.row? d x = some u
    rw [row?, hb.databases_eq]
    exact (row?_put hlt x u x).trans (if_pos rfl)

end MapsWritable

/-- **A mapping that is unmapped** leaves behind what it is said to, and the claims and repositories
as they were before it was made.

**Proof sketch.** The hook that holds the claim and the lease comes last. What runs before it leaves
the bytes at rest, and what runs after it gives back only. -/
lemma MapsWritable.unmap_eq (h : MapsWritable s x v u b m) (c : ClaimId) (g : RegistryId)
    (y : String) :
    ∃ s', (s.addHeldMapping m c (some (.write g y))).1.unmap s.handles.length = (s', .ok ()) ∧
      s'.Rests b x u ∧ s'.claims = s.claims ∧ s'.repositories = s.repositories := by
  obtain ⟨s₀, hs₀⟩ : ∃ s₀, s₀ = (s.addHeldMapping m c (some (.write g y))).1 := ⟨_, rfl⟩
  obtain ⟨m', hm'⟩ : ∃ m' : Mapping, m' =
    { m with hooks := m.hooks.push (.hold c (some (.write g y))) } := ⟨_, rfl⟩
  have hadded : s₀.mapping? s.handles.length = some m' := by
    rw [hs₀, hm', mapping?_eq_some]
    exact handle?_of_concat rfl
  have hbesides : Besides s s₀ := by
    rw [hs₀]
    exact ⟨rfl, rfl, rfl, rfl⟩
  obtain ⟨s₁, hbehind, hruns, hrests⟩ := (h.besides hbesides).settle
  -- the hook that holds the claim and the lease comes last
  have hhooks : (s₀.writeBack m').runHooks (((s₀.writeBack m').view? m').getD .empty)
      m'.hooks.pending = (s₁.releaseAll (Hook.hold c (some (.write g y))).resources, none) := by
    rw [hm']
    show (s₀.writeBack m).runHooks (((s₀.writeBack m).view? m).getD .empty)
      (m.hooks.pending ++ [.hold c (some (.write g y))]) = _
    rw [runHooks_append, hruns]
    rfl
  have hviews := behind_releaseAll (s₁.releaseAll (Hook.hold c (some (.write g y))).resources)
    fun c' => reference_not_mem_viewResources m'.backing c'
  rw [← hs₀, unmap, hadded]
  dsimp only
  rw [hhooks]
  refine ⟨_, rfl, ?_, ?_, ?_⟩
  · have hrest := hrests (s₁.releaseAll (Hook.hold c (some (.write g y))).resources)
      ⟨rfl, rfl, rfl, rfl⟩
    rw [hm']
    exact hrest.besides ⟨rfl, rfl, rfl, rfl⟩
  · refine hviews.claims_eq.trans ?_
    show s₁.claims.modify c _ = _
    rw [hbehind.claims_eq, hs₀]
    exact modify_references s.claims c
  · refine hviews.repositories_eq.trans ?_
    show s₁.repositories = _
    rw [hbehind.repositories_eq, hs₀]
    rfl

/-! ### Opens -/

/-- **A file that is mapped writable.** -/
lemma mapInFiles_openable (hd : s.disk.Sound)
    (hlease : (s.writerRegistry w).isWriting (s.identifier c) = false)
    (hopen : s.disk.Openable (contentPath D (s.identifier c)))
    (hv : (s.disk.fileBytes? (contentPath D (s.identifier c))).getD .empty = v)
    (hn : n.toNat ≤ Disk.maxFileLength ∨ n.toNat ≤ v.size) :
    ∃ s' m, Behind s s' ∧ s.mapInFiles D w g c n false =
        succeed (s'.addHeldMapping m c (some (.write w (s.identifier c)))) ∧
      MapsWritable s' (s.identifier c) (v.fit n.toNat) (v.fit (max n.toNat v.size)) (.files D w g)
        m := by
  obtain ⟨leased, hleased, hb, -⟩ := takeWriteLease_free hlease
  obtain ⟨d', id, hopened, hresolve, hbytes, hview⟩ := FileBacking.openWritable_eq hd hopen hv hn
  have hd' : d'.Sound := (FileBacking.changes_openWritable hd hopened).1.extends.sound hd
  have hbacking : FileBacking.ofOpened (contentPath D (s.identifier c)) (.file id) n.toNat = .ok
      ⟨contentPath D (s.identifier c), some (.file id),
        if n.toNat = 0 then .empty else .mapped, n.toNat, none⟩ := by
    unfold FileBacking.ofOpened
    split
    · next hzero => rw [hzero]
    · rfl
  have hmaps := MapsWritable.file (s := { leased with disk := d' }) (D := D) (w := w) (g := g)
    (p := contentPath D (s.identifier c)) (k := some (.readers g (s.identifier c))) hd' hresolve
    hview (Bytes.size_fit _ _)
  rw [← hbytes]
  refine ⟨{ leased with disk := d' }, _,
    ⟨hb.claims_eq, hb.handles_eq, hb.log_eq, hb.repositories_eq⟩, ?_, hmaps⟩
  unfold mapInFiles
  simp only [Bool.false_eq_true, if_false, hleased]
  rw [hopened, hbacking]

/-- **An entry that is mapped writable**, where there is room for it. -/
lemma mapInTable_hasRoom [ToString κ] {C : String → Option Bytes} (h : HasEntries s t C)
    (ht : (s.table t).Exact) (hfree : (s.table t).Unlocked (s.identifier c))
    (hlease : (s.writerRegistry w).isWriting (s.identifier c) = false)
    (hroom : (s.table t).HasRoom (s.identifier c) n) :
    ∃ s' m, Behind s s' ∧ s.mapInTable t w c n false =
        succeed (s'.addHeldMapping m c (some (.write w (s.identifier c)))) ∧
      MapsWritable s' (s.identifier c) (((C (s.identifier c)).getD .empty).fit n.toNat)
        (((C (s.identifier c)).getD .empty).fit n.toNat) (.volatile t w) m := by
  rcases mapInTable_writable h hfree hlease n with
    ⟨requested, available, hfull⟩ | ⟨s', e, hb, heq, hshows⟩
  · obtain ⟨leased, hleased, -, -⟩ := takeWriteLease_free hlease
    refine absurd ⟨requested, available, ?_⟩ (hroom.not_isFull ht)
    unfold mapInTable at hfull
    simp only [Bool.false_eq_true, if_false, hleased] at hfull
    split at hfull
    · next hwith =>
      rw [hwith]
      exact congrArg Except.error (Failure.content.inj (Except.error.inj hfull))
    · cases hfull
  · exact ⟨s', entryMapping t e n false, hb, heq, .entry hshows⟩

/-- **A row that is mapped writable.** -/
lemma mapInRows_writable [ToString κ] (hlt : d < s.databases.length) {p : Path}
    (hlease : (s.writerRegistry w).isWriting (s.identifier c) = false) (n : UInt64) :
    ∃ s' m, Behind s s' ∧ s.mapInRows d w c n false =
        succeed (s'.addHeldMapping m c (some (.write w (s.identifier c)))) ∧
      MapsWritable s' (s.identifier c) (((s.row? d (s.identifier c)).getD .empty).fit n.toNat)
        (((s.row? d (s.identifier c)).getD .empty).fit n.toNat) (.database d p w) m := by
  obtain ⟨leased, hleased, hb, hbes⟩ := takeWriteLease_free hlease
  refine ⟨leased, _, hb, ?_, .row (hbes.databases_eq ▸ hlt)⟩
  unfold mapInRows
  simp only [Bool.false_eq_true, if_false, hleased]

/-! ### Content that is mapped writable and unmapped -/

/-- The longest buffer that memory can hold. -/
def maxBufferBytes : Nat := 2 ^ 63 - 1

/-- The most bytes that a database takes for an identifier and its row: no value is longer than
three binary gigabytes. -/
def maxRowBytes : Nat := 3 * 2 ^ 30

section Rewriting

variable [ToString κ]

/-- **Nobody is in the way of a writable mapping**: the identifier has no live writer in its
repository, and no handle is inside the lock of its value. -/
structure Idle (l : Ledger) (s : Store κ) (r : RepositoryId) (b : Backend) (x : String) : Prop where
  /-- No writer and no writable mapping is live. -/
  writesTo_eq : ∀ h, l.writesTo r x h = false
  /-- No handle reads or writes the value. -/
  unused : ∀ t w e, b = .volatile t w → (s.table t).find? (.text x) = some e → ∀ h,
    s.readsValue t e h = false ∧ s.writesValue t e h = false

omit [ToString κ] in
/-- While nobody is in the way, the lease is free. -/
lemma Idle.isWriting_eq (h : Idle l s r b x) (hs : s.Sound) (ht : Tells l s)
    (hb : s.backendOf? r = some b) : (s.writerRegistry b.writers).isWriting x = false := by
  refine Bool.eq_false_iff.2 fun hw => ?_
  obtain ⟨i, hi⟩ := (ht.isWriting_iff hs hb).1 hw
  rw [h.writesTo_eq i] at hi
  cases hi

omit [ToString κ] in
/-- While nobody is in the way, nobody is inside the lock of the value. -/
lemma Idle.unlocked (h : Idle l s r (.volatile t w) x) (hs : s.Sound) : (s.table t).Unlocked x := by
  intro e he
  have hnobody := h.unused t w e rfl he
  refine ⟨Nat.eq_zero_of_not_pos fun hpos => ?_, Nat.eq_zero_of_not_pos fun hpos => ?_⟩
  · obtain ⟨i, hi⟩ := hs.readLock_pos_iff.1 hpos
    rw [(hnobody i).1] at hi
    cases hi
  · obtain ⟨i, hi⟩ := hs.writeLock_pos_iff.1 hpos
    rw [(hnobody i).2] at hi
    cases hi

/-- **A backend can hold `n` bytes** under an identifier: the file can be opened for writing and is
as long already or may become so long; or memory can hold a value of this length, and the limits of
the table leave room; or the database takes a row of this length under the identifier. -/
def CanHold (s : Store κ) (b : Backend) (x : String) (n : UInt64) : Prop :=
  match b with
  | .files D _ _ => s.disk.Openable (contentPath D x) ∧ (n.toNat ≤ Disk.maxFileLength ∨
      n.toNat ≤ ((s.disk.fileBytes? (contentPath D x)).getD .empty).size)
  | .volatile t _ => n.toNat ≤ maxBufferBytes ∧ (s.table t).HasRoom x n
  | .database .. => x.utf8ByteSize + n.toNat ≤ maxRowBytes

/-- **Content that is mapped writable and then unmapped**: the mapping shows `v`, and afterwards `u`
is stored. -/
structure Rewrites (s : Store κ) (r : RepositoryId) (b : Backend) (c : ClaimId) (n : UInt64)
    (v u : Bytes) : Prop where
  /-- A mapping is made. -/
  maps : (s.mapContent r c n false).2 = .ok s.handles.length
  /-- It is writable and shows these bytes. -/
  shows : ∃ m, (s.mapContent r c n false).1.mapping? s.handles.length = some m ∧
    m.readOnly = false ∧ (s.mapContent r c n false).1.view? m = some v ∧
      (s.mapContent r c n false).1.mappingSize m = v.size
  /-- It can be unmapped. -/
  unmaps : ((s.mapContent r c n false).1.unmap s.handles.length).2 = .ok ()
  /-- Afterwards all answers agree on what is stored. -/
  leaves : ((s.mapContent r c n false).1.unmap s.handles.length).1.Stores r b c u

/-- A mapping that is made is unmapped, and what it leaves behind is stored. -/
lemma MapsWritable.rewrites (h : MapsWritable s' (s.identifier c) v u b m)
    (hb : s.backend? r = some b) (hbehind : Behind s s')
    (hmap : s.mapIn b c n false =
      succeed (s'.addHeldMapping m c (some (.write w (s.identifier c))))) :
    s.Rewrites r b c n v u := by
  have hcontent : s.mapContent r c n false =
      succeed (s'.addHeldMapping m c (some (.write w (s.identifier c)))) := by
    rw [mapContent, inRepository, hb]
    exact hmap
  have hbesides : Besides s' (s'.addHeldMapping m c (some (.write w (s.identifier c)))).1 :=
    ⟨rfl, rfl, rfl, rfl⟩
  have hadded := h.besides hbesides
  obtain ⟨s₁, hunmap, hrests, hclaims, hrepositories⟩ := h.unmap_eq c w (s.identifier c)
  rw [hbehind.handles_eq] at hunmap
  refine ⟨?_, ?_, ?_, ?_⟩
  · rw [hcontent, ← hbehind.handles_eq]
    rfl
  · rw [hcontent, ← hbehind.handles_eq]
    refine ⟨_, mapping?_eq_some.2 (handle?_of_concat rfl), h.readOnly_eq, hadded.view?_eq,
      hadded.mappingSize_eq⟩
  · rw [hcontent]
    exact congrArg Prod.snd hunmap
  · rw [hcontent]
    show ((s'.addHeldMapping m c _).1.unmap s.handles.length).1.Stores r b c u
    rw [hunmap]
    have hidentifier : s₁.identifier c = s.identifier c := by
      rw [identifier, identifier, hclaims, hbehind.claims_eq]
    refine Rests.stores (hidentifier ▸ hrests) ?_
    rw [backend?_congr (hrepositories.trans hbehind.repositories_eq), hb]

/-- **Every backend maps what it can hold**, while nobody is in the way. -/
lemma rewrites_of_idle (hs : s.Sound) (ht : Tells l s) (hd : s.disk.Sound)
    (hrows : ∀ d p w, b = .database d p w → d < s.databases.length)
    (hb : s.backend? r = some b) (hidle : Idle l s r b (s.identifier c))
    (hcan : s.CanHold b (s.identifier c) n)
    (hv : (s.storedBytes? b (s.identifier c)).getD .empty = v) :
    s.Rewrites r b c n (v.fit n.toNat) (b.left n.toNat v) := by
  have hlease := hidle.isWriting_eq hs ht (backendOf?_of_backend? hb)
  cases b with
  | files D w g =>
    obtain ⟨hopen, hn⟩ := hcan
    have hv : (s.disk.fileBytes? (contentPath D (s.identifier c))).getD .empty = v := hv
    rw [hv] at hn
    obtain ⟨s', m, hbehind, hmap, hmaps⟩ := mapInFiles_openable (g := g) hd hlease hopen hv hn
    exact hmaps.rewrites hb hbehind hmap
  | volatile t w =>
    have hhas : HasEntries s t (s.table t).content :=
      ⟨(hs.knows hb).1, (hs.tables_sound t).toRegular, fun _ => rfl⟩
    obtain ⟨s', m, hbehind, hmap, hmaps⟩ :=
      mapInTable_hasRoom hhas (hs.tables_sound t).toExact (hidle.unlocked hs) hlease hcan.2
    subst hv
    exact hmaps.rewrites hb hbehind hmap
  | database d p w =>
    obtain ⟨s', m, hbehind, hmap, hmaps⟩ :=
      mapInRows_writable (p := p) (hrows d p w rfl) hlease n
    subst hv
    exact hmaps.rewrites hb hbehind hmap

/-! ### All states -/

/-- **What writable mappings show and leave behind in a state.** -/
structure Rewriting (l : Ledger) (s : Store κ) : Prop where
  /-- While nobody is in the way, content can be mapped with every size that its backend can hold.
  The mapping shows it cut or zero-padded, and leaves behind what its backend does. -/
  rewrites : ∀ r b c n v, s.backend? r = some b → Idle l s r b (s.identifier c) →
    s.CanHold b (s.identifier c) n → (s.storedBytes? b (s.identifier c)).getD .empty = v →
      s.Rewrites r b c n (v.fit n.toNat) (b.left n.toNat v)
  /-- What it leaves behind is what it showed, unless it showed only a part of a file. -/
  left_eq : ∀ (b : Backend) n v, v.size ≤ n ∨ (∀ D w g, b ≠ .files D w g) → b.left n v = v.fit n
  /-- A file that is there can be opened for writing. -/
  openable_file : ∀ p v, s.disk.fileBytes? p = some v → s.disk.Openable p
  /-- So can one that is missing, where nothing is in the way to it and no name is too long. -/
  openable_clear : ∀ D x, Nested x → (∀ n ∈ names x, n.utf8ByteSize ≤ Disk.maxNameBytes) →
    s.disk.ClearPath D x → s.disk.Openable (contentPath D x)

/-- **Content that is mapped writable, in every reachable state.** After every run, whatever fails
on the way, and in every backend: content that nobody has in use is mapped with every size that the
backend can hold; the mapping shows it cut or zero-padded to that size; and when it is unmapped
without a write, what it showed is stored, or, for a file that is longer, all of the file. -/
theorem rewriting_runUnder (name : String) (ops : List (Faults × Operation κ)) :
    Rewriting (ledgerOf name ops) ((onDirectory name : Store κ).runUnder ops) := by
  have hd := disk_sound_runUnder (κ := κ) name ops
  obtain ⟨⟨hs, ht⟩, hrows⟩ := ledger_induction (P := fun (s : Store κ) l => (s.Sound ∧ Tells l s) ∧
      ∀ r d p w, s.backendOf? r = some (.database d p w) → d < s.databases.length)
    (fun f s l op ⟨⟨hs, ht⟩, h⟩ => ⟨⟨hs.stepUnder f op, ht.stepUnder hs f op⟩,
      fun r d p w hb => ht.database_lt_stepUnder hs h f op hb⟩)
    ⟨⟨sound_onDirectory name, tells_empty name⟩, fun r d p w hb => nomatch hb⟩ ops
  refine ⟨fun r b c n v hb hidle hcan hv => ?_, fun b n v h => Backend.left_eq h,
    fun p v hp => ?_, fun D x hx hshort hclear => hx.openable hd hshort hclear⟩
  · refine rewrites_of_idle hs ht hd (fun d p w hdb => ?_) hb hidle hcan hv
    exact hrows r d p w (hdb ▸ backendOf?_of_backend? hb)
  · obtain ⟨id, hfile⟩ : ∃ id, ((onDirectory name : Store κ).runUnder ops).disk.resolve p =
        .ok (.file id) := by
      unfold Disk.fileBytes? at hp
      split at hp
      · next id h => exact ⟨id, h⟩
      · cases hp
      · cases hp
    exact Disk.openable_of_file hfile

end Rewriting

/-- The value of an entry and the bytes of a row are what a mapping showed, also where it showed
fewer bytes than there were. -/
example :
    let s (k : RepositoryKind) := (onDirectory "d" : Store).run
      [.openRepository k, .addClaim "x" (some 0), .writeClaim 0 false,
        .writeData 0 ⟨.ofList [1, 2, 3], Payload.size_three_lt⟩, .drop 0, .mapContent 0 0 1 false]
    (s (.volatile 10 1)).data 1 = some (.ofList [1]) ∧
      ((s (.volatile 10 1)).unmap 1).1.storedLength 0 0 = .ok (some 1) ∧
        (s (.database (.ofString "d/rows"))).data 1 = some (.ofList [1]) ∧
          ((s (.database (.ofString "d/rows"))).unmap 1).1.storedLength 0 0 = .ok (some 1) := by
  decide +kernel

/-- A run that stores three bytes in a file. -/
def threeBytes : List (Faults × Operation Nat) :=
  [(.quiet, .openRepository (.files (.ofString "d"))), (.quiet, .addClaim "x" (some 0)),
    (.quiet, .writeClaim 0 false),
    (.quiet, .writeData 0 ⟨.ofList [1, 2, 3], Payload.size_three_lt⟩), (.quiet, .drop 0)]

/-- Nobody has that file in use. -/
lemma idle_threeBytes : Idle (ledgerOf "d" threeBytes) ((onDirectory "d" : Store).runUnder threeBytes)
    0 (.files (.ofString "d") 0 0) "x" := by
  obtain ⟨hs, ht⟩ := tells_runUnder (κ := Nat) "d" threeBytes
  refine ⟨fun i => Bool.eq_false_iff.2 fun hw => ?_, nofun⟩
  have hwriting := (ht.isWriting_iff hs (r := 0) (b := .files (.ofString "d") 0 0)
    (by decide +kernel)).2 ⟨i, hw⟩
  revert hwriting
  decide +kernel

/-- That file can be opened for writing. -/
lemma openable_threeBytes : ((onDirectory "d" : Store).runUnder threeBytes).disk.Openable
    (contentPath (.ofString "d") "x") := by
  have hfile : ((onDirectory "d" : Store).runUnder threeBytes).disk.resolve
      (contentPath (.ofString "d") "x") = .ok (.file 0) := by decide +kernel
  exact Disk.openable_of_file hfile

/-- **A file is not cut**: after that run, a writable mapping of one byte leaves the three bytes
behind, and not the one that it showed. -/
theorem not_cutting_file : ¬ ∀ (ops : List (Faults × Operation Nat)) r b c n v,
    ((onDirectory "d" : Store).runUnder ops).backend? r = some b →
      Idle (ledgerOf "d" ops) ((onDirectory "d" : Store).runUnder ops) r b
        (((onDirectory "d" : Store).runUnder ops).identifier c) →
        ((onDirectory "d" : Store).runUnder ops).CanHold b
          (((onDirectory "d" : Store).runUnder ops).identifier c) n →
          (((onDirectory "d" : Store).runUnder ops).storedBytes? b
            (((onDirectory "d" : Store).runUnder ops).identifier c)).getD .empty = v →
            ((onDirectory "d" : Store).runUnder ops).Rewrites r b c n (v.fit n.toNat)
              (v.fit n.toNat) := by
  intro h
  have hsize := (h threeBytes 0 (.files (.ofString "d") 0 0) 0 1 (.ofList [1, 2, 3])
    (by decide +kernel) idle_threeBytes ⟨openable_threeBytes, .inl (by decide)⟩
    (by decide +kernel)).leaves.size_eq
  revert hsize
  decide +kernel

end Store

end ClaimStore
