import ClaimStore.Proofs.FileOpens

/-!
# Changes of the length of a mapped file

A change of length asks the readers of an identifier only where it makes the *mapping* shorter; one
that makes the mapping longer and the *file* shorter asks nobody. So mappings stay inside their
files unless a writable mapping that is shorter than its file is made longer and yet cuts the file
below a read-only mapping, and in that case one of them does not.

## Main definitions

* `Store.Cuts` — a change of length that asks nobody and cuts a file below a mapping.

## Main results

* `Store.resizeFile_cases` — what a change of length makes of a state.
* `Store.Tidy.resize` — a change of length that does not cut.
* `Store.Tidy.not_covered_of_cuts` — a change of length that does.
-/

set_option autoImplicit false

namespace ClaimStore

namespace Store

variable {κ : Type} {D : Path} {w g : RegistryId} {s s' : Store κ} {map : HandleId} {m : Mapping}
  {b : FileBacking} {id : FileId}

/-! ### Changes of length -/

/-- **A change of length that cuts a file below a mapping**: a writable mapping is made as long as
it is or longer, so that the readers are not asked, and there is a read-only mapping of the same
file that is longer than that. -/
def Cuts (s : Store κ) : Operation κ → Prop
  | .resize map n => ∃ m b i m' id, s.mapping? map = some m ∧ m.readOnly = false ∧
      m.backing = .file b ∧ b.opened = some (.file id) ∧ b.length ≤ n.toNat ∧
      n.toNat ≤ Disk.maxFileLength ∧ s.mapping? i = some m' ∧ m'.readOnly = true ∧
      m'.backing.isValid = true ∧ m'.opened? = some id ∧ n.toNat < s.mappingSize m'
  | _ => False

/-- A change of length is refused, or it takes place and nobody who was asked reads. -/
lemma cutFile_cases (s : Store κ) (id : FileId) (b : FileBacking) (n : Nat) :
    (∃ e, s.cutFile id b n = ((s.disk, b), .error e)) ∨
      (s.cutFile id b n = FileBacking.cut id n (s.disk, b) ∧
        (n < b.length → ∀ g x, b.gate = some (.readers g x) →
          (s.readerRegistry g).readers x = 0)) := by
  unfold cutFile
  cases hg : b.gate with
  | none => exact .inr ⟨rfl, fun _ g x h => nomatch h⟩
  | some gate =>
    dsimp only
    split
    · cases gate with
      | refuse claim => exact .inl ⟨_, rfl⟩
      | readers g x =>
        unfold passGate ReaderRegistry.exclusive
        dsimp only
        split
        · exact .inl ⟨_, rfl⟩
        · next hr =>
          refine .inr ⟨rfl, fun _ g' x' h => ?_⟩
          obtain ⟨rfl, rfl⟩ := Gate.readers.inj (Option.some.inj h)
          exact Nat.eq_zero_of_not_pos hr
    · next hle => exact .inr ⟨rfl, fun hlt => absurd hlt hle⟩

/-- A mapping of a file after its length was changed. -/
def resized (m : Mapping) (b : FileBacking) (n : Nat) : Mapping :=
  { m with backing := .file (FileBacking.remap { b with region := .unmapped } n) }

/-- The state after the length of a mapping and of its file was changed. -/
def afterCut (s : Store κ) (map : HandleId) (m : Mapping) (b : FileBacking) (n : Nat) (d : Disk) :
    Store κ :=
  ({ s.writeBack m with disk := d } : Store κ).setHandle map (.mapping (resized m b n))

/-- A mapping that is written back leaves the handles. -/
lemma handles_writeBack (s : Store κ) (m : Mapping) : (s.writeBack m).handles = s.handles :=
  (took_writeBack s m).handles_eq

/-- **What a change of length makes of a state**: mappings go on, or the file has the new length
and the mapping shows all of it. -/
lemma resizeFile_cases (hm : s.mapping? map = some m) (hb : m.backing = .file b) (n : UInt64) :
    Keeps s (s.resizeFile map m b n).1 ∨ ∃ id d, b.opened = some (.file id) ∧
      (s.writeBack m).disk.setLength id n.toNat = .ok d ∧
      (n.toNat < b.length → ∀ g x, b.gate = some (.readers g x) →
        (s.readerRegistry g).readers x = 0) ∧
      (s.resizeFile map m b n).1 = s.afterCut map m b n.toNat d := by
  have hback := keeps_writeBack s m
  have hm' : (s.writeBack m).mapping? map = some m :=
    mapping?_congr (handles_writeBack s m) ▸ hm
  have hreaders : (s.writeBack m).readerRegistry = s.readerRegistry := by
    unfold writeBack
    split <;> rfl
  unfold resizeFile
  split
  · next id ho =>
    dsimp only
    rcases cutFile_cases (s.writeBack m) id b n.toNat with ⟨e, he⟩ | ⟨hcut, hasked⟩
    · rw [he]
      refine .inl (hback.trans (keeps_setMapping hm' ?_))
      rw [← hb]
      exact .refl m
    · rw [hcut, FileBacking.cut]
      cases hset : (s.writeBack m).disk.setLength id n.toNat with
      | error e => exact .inl (hback.trans (keeps_setMapping hm' (Mapping.follows_unmapped hb)))
      | ok d => exact .inr ⟨id, d, ho, hset, hreaders ▸ hasked, rfl⟩
  · exact .inl (.refl s)
  · exact .inl (.refl s)

/-- A change of length that asks nobody takes place. -/
lemma resizeFile_of_le (s : Store κ) (map : HandleId) (m : Mapping)
    (ho : b.opened = some (.file id)) {n : UInt64} (hn : b.length ≤ n.toNat)
    (hmax : n.toNat ≤ Disk.maxFileLength) :
    ∃ d, (s.writeBack m).disk.setLength id n.toNat = .ok d ∧
      (s.resizeFile map m b n).1 = s.afterCut map m b n.toNat d := by
  have hset := (s.writeBack m).disk.setLength_eq id hmax
  refine ⟨_, hset, ?_⟩
  have hcut : (s.writeBack m).cutFile id b n.toNat =
      FileBacking.cut id n.toNat ((s.writeBack m).disk, b) := by
    unfold cutFile
    cases b.gate with
    | none => rfl
    | some gate => exact if_neg (Nat.not_lt.2 hn)
  unfold resizeFile
  rw [ho]
  dsimp only
  rw [hcut, FileBacking.cut, hset]
  rfl

/-- A mapping after one was replaced. -/
lemma mapping?_setHandle {m' : Mapping} (hm : s.mapping? map = some m) (i : HandleId) :
    (s.setHandle map (.mapping m')).mapping? i = if i = map then some m' else s.mapping? i := by
  have hhandle : (s.setHandle map (.mapping m')).handle? i =
      if i = map then some (.mapping m') else s.handle? i := by
    have hlen := (List.getElem?_eq_some_iff.1 (handle?_eq_some.1 (mapping?_eq_some.1 hm))).1
    unfold handle? setHandle
    by_cases hi : i = map
    · subst hi
      rw [List.getElem?_set_self hlen, if_pos rfl]
    · rw [List.getElem?_set_ne (Ne.symm hi), if_neg hi]
  rw [mapping?, hhandle]
  by_cases hi : i = map
  · rw [if_pos hi, if_pos hi]
  · rw [if_neg hi, if_neg hi]
    rfl

/-- Mappings after the length of one was changed. -/
lemma mapping?_afterCut (hm : s.mapping? map = some m) (b : FileBacking) (n : Nat) (d : Disk)
    (i : HandleId) :
    (s.afterCut map m b n d).mapping? i =
      if i = map then some (resized m b n) else s.mapping? i := by
  have hsame : ({ s.writeBack m with disk := d } : Store κ).mapping? = s.mapping? :=
    mapping?_congr (handles_writeBack s m)
  rw [afterCut, mapping?_setHandle (hsame ▸ hm), hsame]

/-- The sizes of files after the length of one was changed. -/
lemma size_setLength_writeBack {d : Disk} {n : Nat}
    (hset : (s.writeBack m).disk.setLength id n = .ok d) {id' : FileId}
    (hid : id' < s.disk.contents.size) :
    if id' = id then (d.bytes id').size = n else (s.disk.bytes id').size ≤ (d.bytes id').size := by
  have hback := keeps_writeBack s m
  obtain ⟨-, -, hsize⟩ := Disk.setLength_ok hset
  have hid' := Nat.lt_of_lt_of_le hid hback.disk_extends.contents_le
  rw [hsize id' hid']
  split
  · rfl
  · unfold writeBack
    split
    · next b' _ _ =>
      refine size_le_of_grows ?_ id'
      unfold FileBacking.flush
      split
      · exact Disk.grows_flush _ _ _
      · exact .refl _
    · exact Nat.le_refl _

/-- A mapping that was resized has open what it had. -/
lemma opened?_resized (m : Mapping) (ho : b.opened = some (.file id)) (n : Nat) :
    (resized m b n).opened? = some id :=
  Mapping.opened?_of_file rfl ho

/-- A mapping keeps its file and its lease when its length is changed. -/
lemma stays_resized (hb : m.backing = .file b) (ho : b.opened = some (.file id)) (n : Nat) :
    m.Stays (resized m b n) := by
  have hopened := Mapping.opened?_of_file hb ho
  refine ⟨fun _ => ⟨_, rfl⟩, fun _ _ => ⟨id, opened?_resized m ho n⟩,
    fun id' h => ⟨?_, rfl, ?_, rfl⟩⟩
  · rw [hopened, ← opened?_resized m ho n]
    exact h
  · rw [Mapping.gate?, Mapping.gate?, Mapping.file?, Mapping.file?, hb]
    rfl

/-- A change of length of a writable mapping of a file. -/
lemma resize_eq (hm : s.mapping? map = some m) (hb : m.backing = .file b)
    (hro : m.readOnly = false) (n : UInt64) :
    (s.resize map n).1 = (s.resizeFile map m b n).1 := by
  unfold Store.resize
  simp only [hm, hb, hro, Bool.false_eq_true, if_false]

/-- Mappings stay where the length of one is changed. -/
lemma stays_afterCut (hm : s.mapping? map = some m) (hb : m.backing = .file b)
    (ho : b.opened = some (.file id)) {n : Nat} {d : Disk}
    (hset : (s.writeBack m).disk.setLength id n = .ok d) : Stays s (s.afterCut map m b n d) := by
  have hback := keeps_writeBack s m
  have hext := hback.disk_extends.trans (Disk.setLength_ok hset).2.1
  refine ⟨hext, hback.backend_eq, hback.plain, fun i n' hn' => ?_⟩
  rw [mapping?_afterCut hm] at hn'
  split at hn'
  · next hi =>
    obtain rfl := Option.some.inj hn'
    exact ⟨m, hi ▸ hm, stays_resized hb ho n⟩
  · exact ⟨n', hn', (Mapping.Follows.refl n').stays⟩

/-- **Another mapping of a file whose length is changed** is not longer than the new length, unless
the change cuts the file below it: it is read-only, so that its reader was asked or nobody was. -/
lemma Tidy.size_le_of_shared (ht : Tidy D w g s) (hm : s.mapping? map = some m)
    (hro : m.readOnly = false) (hb : m.backing = .file b) (ho : b.opened = some (.file id))
    {n : UInt64} (hmax : n.toNat ≤ Disk.maxFileLength)
    (hasked : n.toNat < b.length → ∀ g x, b.gate = some (.readers g x) →
      (s.readerRegistry g).readers x = 0)
    (hcuts : ¬ Cuts s (.resize map n)) {i : HandleId} {m' : Mapping} (hi : i ≠ map)
    (hm' : s.mapping? i = some m') (hv : m'.backing.isValid = true) (ho' : m'.opened? = some id) :
    s.mappingSize m' ≤ n.toNat := by
  obtain ⟨x, hmaps⟩ := (ht.formed map m hm).maps id (Mapping.opened?_of_file hb ho)
  obtain ⟨y, hmaps'⟩ := (ht.formed i m' hm').maps id ho'
  obtain rfl := ht.agree map i m m' id x y hm hm' hmaps hmaps'
  -- two writable mappings of the file would be the same
  have hro' : m'.readOnly = true := by
    by_contra hw
    exact hi (ht.eq_of_writable hm' hm hmaps' hmaps (eq_false_of_ne_true hw) hro)
  have hnotasked : b.length ≤ n.toNat := by
    by_contra hlt
    have hgate : b.gate = some (.readers g x) := by
      have h := hmaps.gate_eq hro
      rw [Mapping.gate?, Mapping.file?, hb] at h
      exact h
    have hnone := hasked (Nat.lt_of_not_le hlt) g x hgate
    rw [ht.writable_of_maps hnone hm' hmaps'] at hro'
    cases hro'
  by_contra hlt
  exact hcuts ⟨m, b, i, m', id, hm, hro, hb, ho, hnotasked, hmax, hm', hro', hv, ho',
    Nat.lt_of_not_le hlt⟩

/-- **Mappings stay inside their files where the length of one is changed**, unless the change cuts
one.

**Proof sketch.** Another mapping of the same file is a read-only one, which the gate found none of,
or it fits into the new length. -/
lemma Tidy.covered_afterCut (ht : Tidy D w g s) (hc : Covered s) (hm : s.mapping? map = some m)
    (hro : m.readOnly = false) (hb : m.backing = .file b) (ho : b.opened = some (.file id))
    {n : UInt64} {d : Disk} (hset : (s.writeBack m).disk.setLength id n.toNat = .ok d)
    (hasked : n.toNat < b.length → ∀ g x, b.gate = some (.readers g x) →
      (s.readerRegistry g).readers x = 0)
    (hcuts : ¬ Cuts s (.resize map n)) : Covered (s.afterCut map m b n.toNat d) := by
  have hmax := (Disk.setLength_ok hset).1
  have hdisk : (s.afterCut map m b n.toNat d).disk = d := rfl
  intro i m' hm' hv
  rw [mapping?_afterCut hm] at hm'
  split at hm'
  · obtain rfl := Option.some.inj hm'
    obtain ⟨x, hmaps⟩ := (ht.formed map m hm).maps id (Mapping.opened?_of_file hb ho)
    have hsize := size_setLength_writeBack hset (ht.placed map m id x hm hmaps).1
    rw [if_pos rfl] at hsize
    refine ⟨id, opened?_resized m ho n.toNat, ?_⟩
    rw [mappingSize_file _ rfl hv, hdisk, hsize]
    exact Nat.le_refl _
  · next hi =>
    obtain ⟨id', ho', hle⟩ := hc i m' hm' hv
    obtain ⟨y, hmaps'⟩ := (ht.formed i m' hm').maps id' ho'
    obtain ⟨b', hb'⟩ := (ht.formed i m' hm').of_file
    have hsize := size_setLength_writeBack hset (ht.placed i m' id' y hm' hmaps').1
    have hshown : (s.afterCut map m b n.toNat d).mappingSize m' = s.mappingSize m' := by
      rw [mappingSize_file _ hb' hv, mappingSize_file s hb' hv]
    refine ⟨id', ho', ?_⟩
    rw [hshown, hdisk]
    by_cases hsame : id' = id
    · subst hsame
      rw [if_pos rfl] at hsize
      rw [hsize]
      exact ht.size_le_of_shared hm hro hb ho hmax hasked hcuts hi hm' hv ho'
    · rw [if_neg hsame] at hsize
      exact Nat.le_trans hle hsize

/-- **A change of length keeps the invariant**, and mappings stay inside their files unless it cuts
one. -/
lemma Tidy.resize (ht : Tidy D w g s) (map : HandleId) (n : UInt64)
    (hs' : (s.resize map n).1.Sound) : Tidy D w g (s.resize map n).1 ∧
      (Covered s → ¬ Cuts s (.resize map n) → Covered (s.resize map n).1) := by
  have hkept : Keeps s (s.resize map n).1 → Tidy D w g (s.resize map n).1 ∧
      (Covered s → ¬ Cuts s (.resize map n) → Covered (s.resize map n).1) :=
    fun h => ⟨ht.stays h.stays hs', fun hc _ => hc.keeps ht h⟩
  cases hm : s.mapping? map with
  | none =>
    apply hkept
    unfold Store.resize
    simp only [hm]
    exact .refl s
  | some m =>
    obtain ⟨b, hb⟩ := (ht.formed map m hm).of_file
    cases hro : m.readOnly with
    | true =>
      apply hkept
      unfold Store.resize
      simp only [hm, hro, if_true]
      exact .refl s
    | false =>
      have heq := resize_eq hm hb hro n
      rcases resizeFile_cases hm hb n with hk | ⟨id, d, ho, hset, hasked, hafter⟩
      · exact hkept (heq ▸ hk)
      · refine ⟨ht.stays ?_ hs', fun hc hcuts => ?_⟩ <;> rw [heq, hafter]
        · exact stays_afterCut hm hb ho hset
        · exact ht.covered_afterCut hc hm hro hb ho hset hasked hcuts

/-- **A change of length that cuts a file below a mapping leaves that mapping outside its file.** -/
lemma Tidy.not_covered_of_cuts (ht : Tidy D w g s) {map : HandleId} {n : UInt64}
    (h : Cuts s (.resize map n)) : ¬ Covered (s.resize map n).1 := by
  obtain ⟨m, b, i, m', id, hm, hro, hb, ho, hle, hmax, hm', hro', hv, ho', hlt⟩ := h
  have hi : i ≠ map := by
    rintro rfl
    obtain rfl := Option.some.inj (hm.symm.trans hm')
    rw [hro] at hro'
    cases hro'
  obtain ⟨d, hset, hafter⟩ := resizeFile_of_le s map m ho hle hmax
  rw [resize_eq hm hb hro, hafter]
  intro hc
  have hstill : (s.afterCut map m b n.toNat d).mapping? i = some m' := by
    rw [mapping?_afterCut hm, if_neg hi]
    exact hm'
  obtain ⟨id', ho'', hsize⟩ := hc i m' hstill hv
  obtain rfl := Option.some.inj (ho'.symm.trans ho'')
  obtain ⟨x, hmaps⟩ := (ht.formed i m' hm').maps id ho'
  obtain ⟨b', hb'⟩ := (ht.formed i m' hm').of_file
  have hcut := size_setLength_writeBack hset (ht.placed i m' id x hm' hmaps).1
  rw [if_pos rfl] at hcut
  rw [mappingSize_file s hb' hv] at hlt
  rw [mappingSize_file _ hb' hv] at hsize
  have hdisk : (s.afterCut map m b n.toNat d).disk = d := rfl
  rw [hdisk, hcut] at hsize
  exact absurd hsize (Nat.not_le_of_lt hlt)

end Store

end ClaimStore
