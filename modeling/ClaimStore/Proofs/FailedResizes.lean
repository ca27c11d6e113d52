import ClaimStore.Proofs.FileResize

/-!
# Changes of length that fail

A change of length can fail at many places: the mapping is read-only or shows nothing, its bytes
cannot be written back, the gate does not agree, the budget of a table is used up, the component
behind a passthrough mapping refuses. In all these cases nothing changes. The view of a mapping of
a file, however, ends *before* the file gets its new length and is mapped again. Where one of these
two fails, the view is lost: the mapping shows nothing, although its file may hold all bytes that it
held, and the hooks that wait are given no bytes when it is unmapped.

## Main definitions

* `Store.SameContent` — nothing changed but what mappings wrote behind the ends of files.
* `Capability.SameMapping` — the answers of a mapping are the same.
* `Store.Tears` — a mapping loses its view over a change of length that fails.
* `Store.ResizeFailures` — what all changes of length that fail come to.

## Main results

* `Store.resizeFailures_of_inFile` — mappings that are inside their files.
* `resizeFailures_opened` — all mappings that were opened, after any steps.
* `Store.not_kept_newFileMapped` — a change of length that fails does not always change nothing.
-/

set_option autoImplicit false

namespace ClaimStore

/-! ### Nothing changes -/

/-- **A disk with the same names and the same files.** What mappings wrote behind the ends of files
may be lost. -/
structure Disk.SameFiles (d d' : Disk) : Prop where
  /-- The names are the same. -/
  directories_eq : d'.directories = d.directories
  /-- There are as many files. -/
  size_eq : d'.contents.size = d.contents.size
  /-- They hold the same bytes. -/
  bytes_eq : ∀ id, d'.bytes id = d.bytes id

/-- Writing back leaves the files as they are. -/
lemma Disk.sameFiles_flush (d : Disk) (id : FileId) (n : Nat) : d.SameFiles (d.flush id n) where
  directories_eq := rfl
  size_eq := Array.size_modify
  bytes_eq id' := bytes_flush d id id' n

/-- **The answers of a mapping are the same**, and so are the bytes that the hooks which wait are
given when it is unmapped or dropped. -/
structure Capability.SameMapping {σ : Type} (C : Capability σ) (s s' : σ) : Prop where
  /-- It shows the same bytes, if any. -/
  data_eq : C.data s' = C.data s
  /-- The same bytes can be changed. -/
  mutable_eq : (C.dataMut s').map Loan.bytes = (C.dataMut s).map Loan.bytes
  /-- It shows the same size. -/
  size_eq : C.size s' = C.size s
  /-- It is valid or not, as before. -/
  valid_eq : C.isValid s' = C.isValid s
  /-- It is read-only or not, as before. -/
  readOnly_eq : C.isReadOnly s' = C.isReadOnly s
  /-- The same hooks wait, and they run with the same bytes when it is unmapped. -/
  unmap_eq : ∀ f, calls (C.log (C.unmap f s').1) = calls (C.log (C.unmap f s).1)
  /-- Or when it is dropped. -/
  drop_eq : ∀ f, calls (C.log (C.drop f s')) = calls (C.log (C.drop f s))

/-- A mapping is the same as itself. -/
lemma Capability.SameMapping.refl {σ : Type} (C : Capability σ) (s : σ) : C.SameMapping s s :=
  ⟨rfl, rfl, rfl, rfl, rfl, fun _ => rfl, fun _ => rfl⟩

namespace Store

variable {κ : Type} {s s' : Store κ} {map : HandleId} {m : Mapping} {b : FileBacking} {id : FileId}
  {f : MappingFaults} {n : UInt64}

/-- **The same state**, but for what mappings wrote behind the ends of files. -/
def SameContent (s s' : Store κ) : Prop :=
  ∃ d, s.disk.SameFiles d ∧ s' = { s with disk := d }

/-- A state has the same content as itself. -/
lemma SameContent.refl (s : Store κ) : s.SameContent s :=
  ⟨s.disk, ⟨rfl, rfl, fun _ => rfl⟩, rfl⟩

/-- Writing back changes nothing else. -/
lemma sameContent_writeBack (s : Store κ) (m : Mapping) : s.SameContent (s.writeBack m) := by
  refine ⟨(s.writeBack m).disk, ?_, writeBack_eq s m⟩
  rcases writeBack_disk s m with h | ⟨b, id, -, -, h⟩
  · rw [h]
    exact ⟨rfl, rfl, fun _ => rfl⟩
  · rw [h]
    exact s.disk.sameFiles_flush id b.length

/-! ### How a change of length fails -/

/-- **A mapping loses its view over a change of its length that fails**: it is a writable one of a
file, what was changed through it can be written back, the gate agrees if it becomes shorter, and
then its file cannot be cut or extended, or cannot be mapped again. -/
structure Tears (s : Store κ) (m : Mapping) (b : FileBacking) (id : FileId) (f : MappingFaults)
    (n : UInt64) : Prop where
  /-- It is writable. -/
  readOnly_eq : m.readOnly = false
  /-- It is one of a file. -/
  backing_eq : m.backing = .file b
  /-- The file is open. -/
  opened_eq : b.opened = some (.file id)
  /-- It can be written back. -/
  writtenBack : f.refusal? m = none
  /-- The gate agrees. -/
  agreed : ∀ g, b.gate = some g → b.length ≤ n.toNat ∨ s.LetsShorten g
  /-- The file cannot have the length, or cannot be mapped again. -/
  fails : f.cut ≠ none ∨ Disk.maxFileLength < n.toNat ∨ f.remap ≠ none ∧ n.toNat ≠ 0

/-- **A change of the length of a file mapping that fails** leaves the state as it was, or as it is
when the mapping was written back, unless the mapping loses its view.

**Proof sketch.** Step by step. A mapping that cannot be written back changes nothing; a gate that
refuses leaves what was written back; after that the region has ended, and what can still fail is
the cut or the new mapping. -/
lemma failed_resizeFileWith (hm : s.mapping? map = some m) (hro : m.readOnly = false)
    (hb : m.backing = .file b) {e : Failure} (h : (s.resizeFileWith f map m b n).2 = .error e) :
    (s.resizeFileWith f map m b n).1 = s ∨ (s.resizeFileWith f map m b n).1 = s.writeBack m ∨
      ∃ id, s.Tears m b id f n := by
  unfold resizeFileWith at h ⊢
  split at h
  · next id ho =>
    split at h
    · exact .inl rfl
    · next hback =>
      dsimp only at h ⊢
      by_cases hgate : ∀ g, b.gate = some g → b.length ≤ n.toNat ∨ s.LetsShorten g
      · -- the gate agrees, so the file cannot be cut, or cannot be mapped again
        by_cases hfails : f.cut ≠ none ∨ Disk.maxFileLength < n.toNat ∨ f.remap ≠ none ∧ n.toNat ≠ 0
        · exact .inr (.inr ⟨id, hro, hb, ho, hback, hgate, hfails⟩)
        · obtain ⟨hcut, hrest⟩ := not_or.1 hfails
          obtain ⟨hmax, hremap⟩ := not_or.1 hrest
          have hset := (s.writeBack m).disk.setLength_eq id (Nat.not_lt.1 hmax)
          have hagreed : ∀ g, b.gate = some g →
              b.length ≤ n.toNat ∨ (s.writeBack m).LetsShorten g :=
            fun g hg => (hgate g hg).imp_right (letsShorten_writeBack s m g).2
          rw [cutFileWith_agreed hagreed, FileBacking.cutWith, Classical.not_not.1 hcut] at h
          dsimp only at h
          rw [FileBacking.cut, hset] at h
          dsimp only at h
          unfold FileBacking.remapWith at h
          split at h
          · cases h
          · next e' he' =>
            rw [if_pos (Classical.not_not.1 (not_and.1 hremap (by rw [he']; simp)))] at h
            cases h
      · obtain ⟨g, hg⟩ := not_forall.1 hgate
        obtain ⟨hg, hblocked⟩ := Classical.not_imp.1 hg
        obtain ⟨hn, hblocked⟩ := not_or.1 hblocked
        obtain ⟨e', he⟩ := cutFileWith_blocked hg (Nat.not_le.1 hn)
          (fun h => hblocked ((letsShorten_writeBack s m g).1 h)) f id
        rw [he]
        right; left
        have hself : ({ m with backing := .file b } : Mapping) = m := by rw [← hb]
        show (s.writeBack m).setHandle map (.mapping { m with backing := .file b }) = s.writeBack m
        rw [hself]
        exact setHandle_self (mapping?_eq_some.1 (mapping?_congr (handles_writeBack s m) ▸ hm))
  · exact .inl rfl
  · exact .inl rfl

/-- A file that cannot be cut or extended is left as it is, and the view ends all the same. -/
lemma cutWith_fails (d : Disk) (b : FileBacking) (id : FileId) {k : Nat}
    (h : f.cut ≠ none ∨ Disk.maxFileLength < k) : ∃ e,
      FileBacking.cutWith f id k (d, b) = ((d, { b with region := .unmapped }), .error e) := by
  rcases cutWith_cases f id k d b with hfails | ⟨d', hset, hcut⟩
  · exact hfails
  · -- a cut that succeeds is none that the faults refuse, and not to too great a length
    rcases h with hsome | hmax
    · unfold FileBacking.cutWith at hcut
      split at hcut
      · next hnone => exact absurd hnone hsome
      · cases hcut
    · exact absurd (Disk.setLength_ok hset).1 (Nat.not_le.2 hmax)

/-- **A mapping that loses its view**: the change of length fails, and the file holds what it held,
or has its new length where it could be cut.

**Proof sketch.** The gate agrees, so the file is cut first. Either that fails and the file is as it
was, or the file has its new length and mapping it again fails. The region ended before both. -/
lemma Tears.resizeWith_eq (ht : s.Tears m b id f n) (hm : s.mapping? map = some m)
    (hid : id < s.disk.contents.size) : ∃ d e, s.resizeWith f map n =
      (({ s.writeBack m with disk := d } : Store κ).setHandle map
        (.mapping { m with backing := .file { b with region := .unmapped } }), .error e) ∧
      d.directories = s.disk.directories ∧ ∀ i, d.bytes i =
        if i = id ∧ f.cut = none ∧ n.toNat ≤ Disk.maxFileLength then (s.disk.bytes id).fit n.toNat
        else s.disk.bytes i := by
  obtain ⟨same, hsame, hback⟩ := sameContent_writeBack s m
  have hdisk : (s.writeBack m).disk = same := by rw [hback]
  rw [resizeWith_file hm ht.readOnly_eq ht.backing_eq]
  unfold resizeFileWith
  rw [ht.opened_eq]
  dsimp only
  rw [ht.writtenBack]
  dsimp only
  rw [cutFileWith_agreed fun g hg => (ht.agreed g hg).imp_right (letsShorten_writeBack s m g).2]
  by_cases hcut : f.cut = none ∧ n.toNat ≤ Disk.maxFileLength
  · -- the file gets its new length, and it is mapping it again that fails
    have hset := (s.writeBack m).disk.setLength_eq id hcut.2
    obtain ⟨hremap, hn⟩ := (ht.fails.resolve_left (not_not_intro hcut.1)).resolve_left
      (Nat.not_lt.2 hcut.2)
    obtain ⟨e, he⟩ := Option.ne_none_iff_exists'.1 hremap
    refine ⟨same.modify id (·.setLength n.toNat), ioFailure "map" b.path e, ?_,
      hsame.directories_eq, fun i => ?_⟩
    · rw [FileBacking.cutWith, hcut.1]
      dsimp only
      rw [FileBacking.cut, hset, hdisk]
      dsimp only
      rw [FileBacking.remapWith, he]
      dsimp only
      rw [if_neg hn, ht.opened_eq]
      rfl
    · rw [Disk.bytes_modify, hsame.size_eq, hsame.bytes_eq]
      by_cases hi : i = id
      · subst hi
        rw [if_pos ⟨rfl, hid⟩, if_pos ⟨rfl, hcut⟩, ← hsame.bytes_eq]
        rfl
      · rw [if_neg fun h => hi h.1.symm, if_neg fun h => hi h.1]
  · have hfails : f.cut ≠ none ∨ Disk.maxFileLength < n.toNat := by
      rcases Classical.em (f.cut = none) with hnone | hsome
      · exact .inr (Nat.not_le.1 fun hle => hcut ⟨hnone, hle⟩)
      · exact .inl hsome
    obtain ⟨e, he⟩ := cutWith_fails (s.writeBack m).disk b id hfails
    refine ⟨same, e, ?_, hsame.directories_eq, fun i => ?_⟩
    · rw [he, hdisk, ht.opened_eq]
    · rw [if_neg fun h => hcut h.2, hsame.bytes_eq]

/-- A read-only mapping, and one of no file, is left as it is by a change of length that fails. -/
lemma same_resizeWith (hm : s.mapping? map = some m)
    (hfile : m.readOnly = true ∨ ∀ b, m.backing ≠ .file b) {e : Failure}
    (he : (s.resizeWith f map n).2 = .error e) : (s.resizeWith f map n).1 = s := by
  unfold resizeWith at he ⊢
  rw [hm] at he ⊢
  dsimp only at he ⊢
  by_cases hro : m.readOnly = true
  · rw [if_pos hro]
  · rw [if_neg hro] at he ⊢
    have hnone := hfile.resolve_left hro
    cases hb : m.backing with
    | file b => exact absurd hb (hnone b)
    | entry b =>
      rw [hb] at he
      unfold resizeEntry at he ⊢
      dsimp only at he ⊢
      split at he
      · split at he
        · rfl
        · cases he
      · rfl
    | buffer b =>
      rw [hb] at he
      unfold resizeBuffer at he ⊢
      dsimp only at he ⊢
      split at he
      · rfl
      · split at he
        · rfl
        · cases he

/-! ### What is left -/

section Left

variable [DecidableEq κ]

/-- A mapping inside its file answers as before when it was written back. -/
lemma sameMapping_writeBack (hm : s.mapping? map = some m) (hp : s.InFile m) :
    (capability map).SameMapping s (s.writeBack m) := by
  have hm' : (s.writeBack m).mapping? map = some m :=
    mapping?_congr (handles_writeBack s m) ▸ hm
  have hview : (s.writeBack m).view? m = s.view? m := view?_writeBack hp
  obtain ⟨same, hsame, hback⟩ := sameContent_writeBack s m
  have hp' : (s.writeBack m).InFile m := by
    intro b id hro hb ho
    obtain ⟨hlt, hle⟩ := hp b id hro hb ho
    rw [bytes_writeBack, (alters_writeBack s hb ho).size_eq]
    exact ⟨hlt, hle⟩
  have hlog : (s.writeBack m).log = s.log := by rw [hback]
  have hunmap : ∀ f : MappingFaults, calls ((s.writeBack m).unmapUnder f.toFaults map).1.log =
      calls (s.unmapUnder f.toFaults map).1.log := by
    intro f
    rw [calls_unmapUnder f.toFaults hm' hp', calls_unmapUnder f.toFaults hm hp, hview, hlog]
  refine ⟨?_, ?_, ?_, ?_, ?_, hunmap, fun f => ?_⟩
  · rw [data_capability hm', data_capability hm, hview]
  · rw [dataMut_capability hm', dataMut_capability hm, mutableView?, mutableView?, hview]
    split
    · rfl
    · cases s.view? m <;> rfl
  · rw [size_capability hm', size_capability hm, hback]
    rfl
  · rw [isValid_capability hm', isValid_capability hm]
  · rw [isReadOnly_capability hm', isReadOnly_capability hm]
  · show calls ((s.writeBack m).dropUnder f.toFaults map).log =
      calls (s.dropUnder f.toFaults map).log
    rw [log_dropUnder f.toFaults hm', log_dropUnder f.toFaults hm]
    exact hunmap f

/-- **What changes of the length of a mapping that fail come to.** -/
structure ResizeFailures (map : HandleId) (m : Mapping) (s : Store κ) : Prop where
  /-- Where the mapping does not lose its view, nothing changes: neither what is stored, nor what
  the mapping shows, nor what its hooks are going to be given. -/
  kept : ∀ f n e, (s.resizeWith f map n).2 = .error e → (∀ b id, ¬ s.Tears m b id f n) →
    s.SameContent (s.resizeWith f map n).1 ∧
      (capability map).SameMapping s (s.resizeWith f map n).1
  /-- A mapping of an entry or of a buffer, or one that is read-only, never loses its view: not
  even what is behind the ends of files changes. -/
  same : (m.readOnly = true ∨ ∀ b, m.backing ≠ .file b) → ∀ f n e,
    (s.resizeWith f map n).2 = .error e → (s.resizeWith f map n).1 = s
  /-- Where the mapping loses its view, the change of length fails, and the mapping shows nothing
  from then on. -/
  torn : ∀ f n b id, s.Tears m b id f n →
    (∃ e, (s.resizeWith f map n).2 = .error e) ∧
      (capability map).data (s.resizeWith f map n).1 = none ∧
      (capability map).dataMut (s.resizeWith f map n).1 = none ∧
      (capability map).size (s.resizeWith f map n).1 = Limits.unmappedSize
  /-- The hooks that wait are given no bytes when it is unmapped. -/
  hooks : ∀ f n b id, s.Tears m b id f n → ∀ f',
    calls ((capability map).log ((capability map).unmap f' (s.resizeWith f map n).1).1) =
      calls s.log ++ m.hooks.pending.filterMap (Hook.call? .empty)
  /-- All files hold what they held, but for one that got its new length and could not be mapped
  again. -/
  files : ∀ f n b id, s.Tears m b id f n →
    (s.resizeWith f map n).1.disk.directories = s.disk.directories ∧
      ∀ i, (s.resizeWith f map n).1.disk.bytes i =
        if i = id ∧ f.cut = none ∧ n.toNat ≤ Disk.maxFileLength then (s.disk.bytes id).fit n.toNat
        else s.disk.bytes i
  /-- So for a mapping that shows bytes, a change of length that fails changes nothing exactly if
  the mapping does not lose its view. -/
  kept_iff : ∀ f n e v, s.data map = some v → (s.resizeWith f map n).2 = .error e →
    (s.SameContent (s.resizeWith f map n).1 ∧
      (capability map).SameMapping s (s.resizeWith f map n).1 ↔ ∀ b id, ¬ s.Tears m b id f n)

/-- **A mapping that is inside its file keeps all that it shows**, unless it loses its view. -/
lemma kept_resizeWith (hm : s.mapping? map = some m) (hp : s.InFile m) {e : Failure}
    (he : (s.resizeWith f map n).2 = .error e) (ht : ∀ b id, ¬ s.Tears m b id f n) :
    s.SameContent (s.resizeWith f map n).1 ∧
      (capability map).SameMapping s (s.resizeWith f map n).1 := by
  have unchanged : (s.resizeWith f map n).1 = s → s.SameContent (s.resizeWith f map n).1 ∧
      (capability map).SameMapping s (s.resizeWith f map n).1 := by
    intro h
    rw [h]
    exact ⟨.refl s, .refl _ s⟩
  by_cases hfile : m.readOnly = true ∨ ∀ b, m.backing ≠ .file b
  · exact unchanged (same_resizeWith hm hfile he)
  · obtain ⟨hro, hb⟩ := not_or.1 hfile
    obtain ⟨b, hb⟩ := not_forall.1 hb
    have hro : m.readOnly = false := Bool.eq_false_iff.2 hro
    have hb : m.backing = .file b := Classical.not_not.1 hb
    have heq := resizeWith_file hm hro hb f n
    rw [heq] at he
    rcases failed_resizeFileWith hm hro hb he with h | h | ⟨id, h⟩
    · exact unchanged (heq ▸ h)
    · rw [heq, h]
      exact ⟨sameContent_writeBack s m, sameMapping_writeBack hm hp⟩
    · exact absurd h (ht b id)

omit [DecidableEq κ] in
/-- The mapping that is left where one loses its view. -/
lemma Tears.mapping?_eq (ht : s.Tears m b id f n) (hm : s.mapping? map = some m)
    (hp : s.InFile m) : (s.resizeWith f map n).1.mapping? map =
      some { m with backing := .file { b with region := .unmapped } } := by
  have hid := (hp b id ht.readOnly_eq ht.backing_eq ht.opened_eq).1
  obtain ⟨d, e, heq, -, -⟩ := ht.resizeWith_eq hm hid
  have hback : ({ s.writeBack m with disk := d } : Store κ).mapping? map = some m :=
    mapping?_congr (s := s) (handles_writeBack s m) ▸ hm
  rw [heq, mapping?_setHandle hback, if_pos rfl]

/-- **Changes of length that fail**, for a mapping that is inside its file. -/
theorem resizeFailures_of_inFile (hm : s.mapping? map = some m) (hp : s.InFile m) :
    ResizeFailures map m s := by
  have torn : ∀ f n b id, s.Tears m b id f n → (∃ e, (s.resizeWith f map n).2 = .error e) ∧
      (capability map).data (s.resizeWith f map n).1 = none ∧
      (capability map).dataMut (s.resizeWith f map n).1 = none ∧
      (capability map).size (s.resizeWith f map n).1 = Limits.unmappedSize := by
    intro f n b id ht
    have hid := (hp b id ht.readOnly_eq ht.backing_eq ht.opened_eq).1
    have hm' := ht.mapping?_eq hm hp
    obtain ⟨d, e, heq, -, -⟩ := ht.resizeWith_eq hm hid
    refine ⟨⟨e, by rw [heq]⟩, ?_, ?_, ?_⟩
    · rw [data_capability hm']
      rfl
    · rw [dataMut_capability hm', mutableView?]
      split <;> rfl
    · rw [size_capability hm']
      rfl
  refine ⟨fun f n e he ht => kept_resizeWith hm hp he ht,
    fun hfile f n e he => same_resizeWith hm hfile he, torn, ?_, ?_, ?_⟩
  · intro f n b id ht f'
    obtain ⟨m', ha⟩ := advances_resizeWith f hm n
    have hm' := ht.mapping?_eq hm hp
    obtain rfl := Option.some.inj (ha.mapping_eq.symm.trans hm')
    show calls ((s.resizeWith f map n).1.unmapUnder f'.toFaults map).1.log = _
    rw [calls_unmapUnder f'.toFaults hm' (ha.inFile hp), ha.log_eq]
    rfl
  · intro f n b id ht
    have hid := (hp b id ht.readOnly_eq ht.backing_eq ht.opened_eq).1
    obtain ⟨d, e, heq, hdirectories, hbytes⟩ := ht.resizeWith_eq hm hid
    rw [heq]
    exact ⟨hdirectories, hbytes⟩
  · intro f n e v hv he
    refine ⟨fun hkept b id ht => ?_, kept_resizeWith hm hp he⟩
    have hnone := (torn f n b id ht).2.1
    rw [hkept.2.data_eq] at hnone
    exact absurd (hv.symm.trans hnone) (by simp)

end Left

end Store

/-! ### Bytes of another component -/

/-- **Operations on a component that leave it as it is when a change of length fails.** -/
def PassthroughOps.RefusesInPlace {ρ : Type} (ops : PassthroughOps ρ) : Prop :=
  ∀ x n e, (ops.resize x n).2 = .error e → (ops.resize x n).1 = x

/-- The operations on a buffer are like that. -/
lemma PassthroughOps.refusesInPlace_buffer (capacity : Option Nat) :
    (buffer capacity).RefusesInPlace := by
  intro x n e he
  simp only [buffer] at he ⊢
  split at he
  · rfl
  · cases he

/-- A passthrough mapping of such a component is left as it is. -/
lemma Passthrough.resize_refused {ρ : Type} {ops : PassthroughOps ρ} (h : ops.RefusesInPlace)
    (p : Passthrough ρ) (n : UInt64) {e : Failure} (he : (p.resize ops n).2 = .error e) :
    (p.resize ops n).1 = p := by
  obtain ⟨state, readOnly, hooks⟩ := p
  cases readOnly with
  | true => rfl
  | false =>
    cases state with
    | none => rfl
    | some x =>
      have hsame := h x n
      simp only [Passthrough.resize, Bool.false_eq_true, if_false] at he ⊢
      split at he
      · next x' e' hx =>
        rw [hx] at hsame
        obtain rfl := hsame e' rfl
        rfl
      · cases he

/-! ### All mappings -/

namespace Store

variable {κ : Type} [DecidableEq κ] {s s' : Store κ} {map : HandleId} {m : Mapping}

omit [DecidableEq κ] in
/-- A mapping that was unmapped has no file that it could be inside. -/
lemma inFile_closed (h : m.backing.closed = m.backing) : s.InFile m := by
  intro b id _ hb ho
  rw [hb] at h
  rw [← Backing.file.inj h] at ho
  cases ho

/-- **A mapping that was opened stays inside its file**, whatever is done with it. -/
lemma OpensMapping.inFile_run [ToString κ] (hd : s.disk.Sound) (h : s.OpensMapping s' map)
    (steps : List (MappingFaults × MappingStep)) :
    ∃ m, ((capability map).run s' steps).mapping? map = some m ∧
      ((capability map).run s' steps).InFile m := by
  rcases (hookLaws map).live_or_over_run (.inl (h.live hd)) steps with
    ⟨m, hm, -, hp⟩ | ⟨m, hm, -, hclosed⟩
  · exact ⟨m, hm, hp⟩
  · exact ⟨m, hm, inFile_closed hclosed⟩

end Store

/-- **Changes of length that fail.** For every mapping of a file, an entry or a buffer, in every
state in which it is inside its file, a change of length that fails changes nothing exactly if the
mapping does not lose its view; and every mapping that was opened is inside its file after all
steps, whatever failed in them. A passthrough mapping is left as it is if its component is. -/
theorem resizeFailures_opened {κ : Type} [DecidableEq κ] [ToString κ] :
    (∀ (s : Store κ) (map : HandleId) (m : Mapping), s.mapping? map = some m → s.InFile m →
      Store.ResizeFailures map m s) ∧
    (∀ (s s' : Store κ) (map : HandleId), s.disk.Sound → s.OpensMapping s' map →
      ∀ steps, ∃ m, ((Store.capability map).run s' steps).mapping? map = some m ∧
        Store.ResizeFailures map m ((Store.capability map).run s' steps)) ∧
    ∀ (ρ : Type) (ops : PassthroughOps ρ), ops.RefusesInPlace →
      ∀ (x : Store κ × Passthrough ρ) f n e,
        ((Passthrough.capability ops).resize f x n).2 = .error e →
          ((Passthrough.capability ops).resize f x n).1 = x := by
  refine ⟨fun s map m hm hp => Store.resizeFailures_of_inFile hm hp, ?_, ?_⟩
  · intro s s' map hd h steps
    obtain ⟨m, hm, hp⟩ := h.inFile_run hd steps
    exact ⟨m, hm, Store.resizeFailures_of_inFile hm hp⟩
  · intro ρ ops h x f n e he
    exact Prod.ext rfl (Passthrough.resize_refused h x.2 n he)

namespace Store

/-- The state in which a new file of two bytes was mapped writable. -/
def newFileMapped : Store := ((onDirectory "d" : Store).mapFile (.ofString "/d/x") 2 false none).1

/-- That mapping. -/
def newFileMapping : Mapping :=
  ⟨.file ⟨.ofString "/d/x", some (.file 0), .mapped, 2, none⟩, false, .empty⟩

/-- It was opened. -/
lemma opensMapping_newFileMapped : (onDirectory "d" : Store).OpensMapping newFileMapped 0 :=
  .file (Prod.ext rfl (by decide +kernel))

/-- What fails for that mapping, which loses its view over a length that no file can have, and for a
passthrough mapping of two bytes that can be no more. -/
theorem resizeFailures_newFileMapped :
    newFileMapped.mapping? 0 = some newFileMapping ∧ newFileMapped.InFile newFileMapping ∧
      newFileMapped.Tears newFileMapping
        ⟨.ofString "/d/x", some (.file 0), .mapped, 2, none⟩ 0 .quiet 0x8000000000000000 ∧
      ResizeFailures 0 newFileMapping newFileMapped ∧
      (onDirectory "d" : Store).disk.Sound ∧
      (onDirectory "d" : Store).OpensMapping newFileMapped 0 ∧
      (∃ m, ((capability 0).run newFileMapped [(.quiet, .fill 7)]).mapping? 0 = some m ∧
        ResizeFailures 0 m ((capability 0).run newFileMapped [(.quiet, .fill 7)])) ∧
      (PassthroughOps.buffer (some 2)).RefusesInPlace ∧
      ((Passthrough.capability (.buffer (some 2))).resize .quiet
        (newFileMapped, .new (.ofList [1, 2]) false) 3).1 =
          (newFileMapped, .new (.ofList [1, 2]) false) := by
  have hd : (onDirectory "d" : Store).disk.Sound := disk_sound_runUnder "d" []
  have hm : newFileMapped.mapping? 0 = some newFileMapping := by decide +kernel
  obtain ⟨m, hm', -, hp⟩ := opensMapping_newFileMapped.live hd
  obtain rfl := Option.some.inj (hm.symm.trans hm')
  have hops := PassthroughOps.refusesInPlace_buffer (some 2)
  have htears : newFileMapped.Tears newFileMapping
      ⟨.ofString "/d/x", some (.file 0), .mapped, 2, none⟩ 0 .quiet 0x8000000000000000 :=
    ⟨rfl, rfl, rfl, rfl, fun _ h => (by cases h), .inr (.inl (by decide))⟩
  exact ⟨hm, hp, htears, resizeFailures_opened.1 _ 0 _ hm hp, hd, opensMapping_newFileMapped,
    resizeFailures_opened.2.1 _ _ 0 hd opensMapping_newFileMapped [(.quiet, .fill 7)], hops,
    resizeFailures_opened.2.2 _ _ hops (newFileMapped, .new (.ofList [1, 2]) false) .quiet 3 _ rfl⟩

/-- **A change of length that fails does not always change nothing**: after one to a length that no
file can have, a mapping of a new file shows nothing. -/
theorem not_kept_newFileMapped :
    ¬ ∀ (s s' : Store) (map : HandleId) (f : MappingFaults) (n : UInt64) (e : Failure),
      s.disk.Sound → s.OpensMapping s' map → (s'.resizeWith f map n).2 = .error e →
      (s'.resizeWith f map n).1.data map = s'.data map := by
  intro h
  have hsame := h _ _ 0 .quiet 0x8000000000000000 _ (disk_sound_runUnder "d" [])
    opensMapping_newFileMapped (by rfl)
  exact absurd hsame (by decide +kernel)

end Store

end ClaimStore
