import ClaimStore.Proofs.DiskTree

/-!
# Changes aimed at one file

An operation on content in a file makes, changes or removes no other file than the one at the end of
its path. What is stored under another path stays, as long as that leads to another name; and if the
path leads downwards from the directory of its repository, all names outside that stay as well.

## Main definitions

* `Disk.Only` — a file has no name but the one that a path leads to.
* `Disk.Aims` — a change that an operation on the file of a path may make.
* `Disk.Spares` — all other files are as they were.
* `Disk.fileBytes?` — what is stored under a path.

## Main results

* `Disk.Changes.spares` — such changes spare all other files.
* `Disk.Changes.entries_eq` — such changes stay inside the directory of the repository.
* `Disk.Changes.fileBytes?_eq` — what is stored under other paths stays.
-/

set_option autoImplicit false

namespace ClaimStore

namespace Disk

variable {d d' d'' : Disk} {p q : Path} {i j k : DirectoryId} {n : String} {id : FileId}
  {c : Change}

/-! ### The name of a file -/

/-- **A file has no name but the one that the path leads to**, if it has a name at all. -/
def Only (d : Disk) (p : Path) (id : FileId) : Prop :=
  id < d.contents.size ∧ ∃ j n, d.locate p = .ok (.name j n) ∧
    ∀ i m, (d.entries i).lookup m = some (.file id) → i = j ∧ m = n

/-- A file that a path ends at has no name but the one that the path leads to. -/
lemma Ends.only (h : d.Ends p id) (hd : d.Sound) : d.Only p id := by
  obtain ⟨j, n, hl, hn⟩ := h
  exact ⟨hd.file_lt j n id hn, j, n, hl, fun i m hm => hd.name_inj i j m n id hm hn⟩

/-- It gets no other name later. -/
lemma Only.extends (h : d.Only p id) (he : d.Extends d') (hd : d.Sound) : d'.Only p id := by
  obtain ⟨hid, j, n, hl, hn⟩ := h
  exact ⟨Nat.lt_of_lt_of_le hid he.contents_le, j, n, he.locate_eq hd hl,
    fun i m hm => hn i m (he.file_eq i m id hid hm)⟩

/-! ### Changes with an aim -/

/-- **A change that an operation on the file of a path may make.** -/
inductive Aims (p : Path) (d : Disk) : Change → Prop
  /-- The file is opened for writing. -/
  | opening {c : Change} (opening : Opening p d c) : Aims p d c
  /-- It loses its name. -/
  | removing {j : DirectoryId} {n : String} (locate_eq : d.locate p = .ok (.name j n)) :
      Aims p d (.removeName j n)
  /-- It is changed by one who has it open. -/
  | modifying {id : FileId} {f : FileData → FileData} (only : d.Only p id) :
      Aims p d (.modify id f)

/-- **No file is made, changed or removed** but the one whose name the path leads to. -/
structure Spares (p : Path) (d d' : Disk) : Prop where
  /-- All other files are named as before. -/
  named_iff : ∀ i n, d'.locate p ≠ .ok (.name i n) → ∀ id,
    (d'.entries i).lookup n = some (.file id) ↔ (d.entries i).lookup n = some (.file id)
  /-- And hold what they held. -/
  bytes_eq : ∀ i n, d'.locate p ≠ .ok (.name i n) → ∀ id,
    (d.entries i).lookup n = some (.file id) → d'.bytes id = d.bytes id

namespace Spares

/-- The same disk spares everything. -/
lemma refl (p : Path) (d : Disk) : Spares p d d := ⟨fun _ _ _ _ => .rfl, fun _ _ _ _ _ => rfl⟩

/-- Two steps that spare the files of a path, one after the other, spare them. -/
lemma trans (h : Spares p d d') (h' : Spares p d' d'') (hd' : d'.Sound) (he : d'.Extends d'') :
    Spares p d d'' := by
  have before : ∀ {i n}, d''.locate p ≠ .ok (.name i n) → d'.locate p ≠ .ok (.name i n) :=
    fun hne hl => hne (he.locate_eq hd' hl)
  exact ⟨fun i n hne id => (h'.named_iff i n hne id).trans (h.named_iff i n (before hne) id),
    fun i n hne id hn => (h'.bytes_eq i n hne id ((h.named_iff i n (before hne) id).2 hn)).trans
      (h.bytes_eq i n (before hne) id hn)⟩

end Spares

/-- A change of what a file holds spares all others. -/
lemma spares_modify (hd : d.Sound) (ho : d.Only p id) (f : FileData → FileData) :
    Spares p d (d.after (.modify id f)) where
  named_iff _ _ _ _ := .rfl
  bytes_eq i n hne id' hn := by
    have hid : id ≠ id' := by
      rintro rfl
      obtain ⟨-, j, m, hl, hm⟩ := ho
      obtain ⟨rfl, rfl⟩ := hm i n hn
      exact hne ((extends_modify d id f).locate_eq hd hl)
    show (d.modify id f).bytes id' = d.bytes id'
    rw [bytes_modify, if_neg fun h => hid h.1]

/-- **A change with an aim spares all other files.** -/
lemma Aims.spares (h : Aims p d c) (hd : d.Sound) (ha : d.Admits c) : Spares p d (d.after c) := by
  have he := extends_after ha
  cases h with
  | opening h =>
    cases h with
    | above h =>
      obtain ⟨_, j, m, rfl, -⟩ := h
      refine ⟨fun i n _ id => ⟨fun hn => ?_, fun hn => ?_⟩, fun _ _ _ _ _ => rfl⟩
      · exact (lookup_addDirectory_cases hn).resolve_left (fun h => nomatch h)
      · show ((d.addDirectory j m).entries i).lookup n = _
        rw [entries_addDirectory]
        split
        · next hj => exact lookup_cons_free (hj.1 ▸ ha.lookup_eq) hn
        · exact hn
    | @make j m hl =>
      have elsewhere : ∀ {i n}, (d.after (.addFile j m)).locate p ≠ .ok (.name i n) →
          ¬ (i = j ∧ n = m) := fun hne h => hne (by rw [h.1, h.2]; exact he.locate_eq hd hl)
      refine ⟨fun i n hne id => ⟨fun hn => ?_, fun hn => ?_⟩, fun i n hne id hn => ?_⟩
      · exact (lookup_addFile_cases hn).resolve_left fun h => elsewhere hne ⟨h.1, h.2.1⟩
      · show ((d.addFile j m).2.entries i).lookup n = _
        rw [entries_addFile]
        split
        · next hj => exact lookup_cons_free (hj.1 ▸ ha.lookup_eq) hn
        · exact hn
      · exact bytes_addFile j m (hd.file_lt i n id hn)
    | modify hl hn => exact spares_modify hd (Ends.only ⟨_, _, hl, hn⟩ hd) _
  | @removing j m hl =>
    refine ⟨fun i n hne id => ?_, fun _ _ _ _ _ => rfl⟩
    have elsewhere : ¬ (j = i ∧ i < d.directories.size ∧ n = m) := fun h =>
      hne (by rw [← h.1, h.2.2]; exact he.locate_eq hd hl)
    show ((d.modifyEntries j fun l => l.filter fun x => x.1 != m).entries i).lookup n = _ ↔ _
    rw [lookup_removeName, if_neg elsewhere]
  | modifying ho => exact spares_modify hd ho _

/-- **Changes with an aim spare all other files.** -/
lemma Changes.spares (h : Changes (Aims p) d d') (hd : d.Sound) : Spares p d d' := by
  induction h with
  | refl => exact .refl p d
  | step before admits aims ih =>
    have hd' := before.extends.sound hd
    exact ih.trans (aims.spares hd' admits) hd' (extends_after admits)

/-! ### The directory of a repository -/

variable {D : Path} {x : String}

/-- A directory that is made along the path of an identifier that leads downwards is made inside the
directory of its repository, which is there. -/
lemma Making.inside (hx : Descends x) (hk : d.walk root D.components = .ok k)
    (h : Making (contentPath D x).components.dropLast d (.addDirectory j n))
    (hfree : (d.entries j).lookup n = none) : d.Inside k j := by
  obtain ⟨ps, _, _, hc, hw, hdot, hdots, hprefix⟩ := h
  obtain ⟨rfl, rfl⟩ := Change.addDirectory.inj hc
  rw [contentPath, Path.components_join hx.isRooted_eq,
    List.dropLast_append_of_ne_nil hx.components_ne_nil] at hprefix
  obtain ⟨ys, hys⟩ := hprefix
  rcases List.append_eq_append_iff.1 hys with ⟨zs, hD, -⟩ | ⟨zs, hps, hxs⟩
  · -- a directory on the way to that of the repository is not made
    rw [hD, walk_append, walk_concat, hw] at hk
    cases he : d.enter j n with
    | error e => simp [he, Except.bind] at hk
    | ok i =>
      rw [lookupName_ok (lookupName_of_enter hdot hdots he)] at hfree
      cases hfree
  · rcases List.eq_nil_or_concat' zs with rfl | ⟨zs, z, rfl⟩
    · rw [List.append_nil] at hps
      rw [← hps, walk_concat, hw] at hk
      rw [lookupName_ok (lookupName_of_enter hdot hdots hk)] at hfree
      cases hfree
    · rw [← List.append_assoc] at hps
      obtain ⟨rfl, -⟩ := List.append_inj' hps rfl
      rw [walk_append, hk] at hw
      refine ⟨zs.filter (· != "."), fun m hm => ?_, (d.walk_filter k zs).symm.trans hw⟩
      obtain ⟨hm, hmdot⟩ := List.mem_filter.1 hm
      refine ⟨bne_iff_ne.1 hmdot, fun h => hx.dots_notMem ?_⟩
      have hsub : zs ⊆ (Path.ofString x).components.dropLast := by
        rw [hxs]
        intro a ha
        simp [ha]
      exact List.dropLast_subset _ (hsub (h ▸ hm))

/-- An identifier that leads downwards leads to a name inside the directory of its repository. -/
lemma inside_of_locate (hx : Descends x) (hk : d.walk root D.components = .ok k)
    (h : d.locate (contentPath D x) = .ok (.name i n)) : d.Inside k i := by
  obtain ⟨k', ns, hk', hns, hxs⟩ := hx.walk_of_locate h
  obtain rfl := Except.ok.inj (hk.symm.trans hk')
  exact ⟨ns, hx.downwards_init hxs, hns⟩

/-- **A change with such an aim** stays inside the directory of the repository. -/
lemma Aims.entries_eq (h : Aims (contentPath D x) d c) (hx : Descends x) (ha : d.Admits c)
    (hk : d.walk root D.components = .ok k) (hi : ¬ d.Inside k i) :
    (d.after c).entries i = d.entries i := by
  have elsewhere : ∀ {j}, d.Inside k j → ¬ (j = i ∧ i < d.directories.size) :=
    fun hj h => hi (h.1 ▸ hj)
  cases h with
  | opening h =>
    cases h with
    | above h =>
      obtain ⟨_, j, m, rfl, -⟩ := id h
      show (d.addDirectory j m).entries i = _
      rw [entries_addDirectory, if_neg (elsewhere (h.inside hx hk ha.lookup_eq))]
    | @make j m hl =>
      show (d.addFile j m).2.entries i = _
      rw [entries_addFile, if_neg (elsewhere (inside_of_locate hx hk hl))]
    | modify => rfl
  | @removing j m hl =>
    exact (entries_modifyEntries ..).trans (if_neg (elsewhere (inside_of_locate hx hk hl)))
  | modifying => rfl

/-- **Changes with such an aim** stay inside the directory of the repository. -/
lemma Changes.entries_eq (h : Changes (Aims (contentPath D x)) d d') (hd : d.Sound)
    (hx : Descends x) (hk : d.walk root D.components = .ok k) (hi : ¬ d'.Inside k i) :
    d'.entries i = d.entries i := by
  induction h with
  | refl => rfl
  | step before admits aims ih =>
    have hd' := before.extends.sound hd
    have hk' := before.extends.walk_eq hd hd.root_lt hk
    have hi' := fun h : Inside _ k i =>
      hi (h.extends (extends_after admits) hd' (walk_lt hd' hd'.root_lt hk'))
    exact (aims.entries_eq hx admits hk' hi').trans (ih hi')

/-! ### What is stored under a path -/

/-- The bytes of the file that a path leads to. -/
def fileBytes? (d : Disk) (p : Path) : Option Bytes :=
  match d.resolve p with
  | .ok (.file id) => some (d.bytes id)
  | .ok (.directory _) | .error _ => none

/-- The path leads to the file. -/
lemma resolve_of_fileBytes? {b : Bytes} (h : d.fileBytes? p = some b) :
    ∃ id, d.resolve p = .ok (.file id) ∧ d.bytes id = b := by
  unfold fileBytes? at h
  split at h
  · next id hfile => exact ⟨id, hfile, Option.some.inj h⟩
  · cases h
  · cases h

/-- What is stored under a path is what the file holds that has the name that the path leads to. -/
lemma fileBytes?_eq_some {b : Bytes} : d.fileBytes? p = some b ↔
    ∃ j n id, d.locate p = .ok (.name j n) ∧ n.utf8ByteSize ≤ maxNameBytes ∧
      (d.entries j).lookup n = some (.file id) ∧ p.endsInSlash = false ∧ d.bytes id = b := by
  unfold fileBytes? resolve lookupName
  cases hl : d.locate p with
  | error e => simp
  | ok spot =>
    cases spot with
    | directory j => simp
    | name j n =>
      dsimp only
      by_cases hlong : maxNameBytes < n.utf8ByteSize
      · simp [hlong, Nat.not_le.2 hlong]
      · rw [if_neg hlong]
        cases hn : (d.entries j).lookup n with
        | none => simp [hn]
        | some y =>
          cases y with
          | directory i => simp [hn]
          | file id =>
            cases p.endsInSlash <;> simp [hn, Nat.le_of_not_lt hlong]

/-- A directory with a name in it is there. -/
lemma lt_of_lookup {y : Item} (h : (d.entries j).lookup n = some y) : j < d.directories.size := by
  refine Nat.lt_of_not_le fun hle => ?_
  rw [entries, Array.getElem?_eq_none hle] at h
  cases h

/-- Where a path leads depends on the walk alone. -/
lemma locate_of_walk_dropLast (h : d'.locate p = .ok (.name j n))
    (hw : d.walk root p.components.dropLast = .ok j) : d.locate p = .ok (.name j n) := by
  obtain ⟨cs, hcs, hw', hdot, hdots⟩ := walk_of_locate_name h
  unfold locate at h ⊢
  rw [hcs, List.dropLast_concat] at hw
  simp only [hcs, List.dropLast_concat, List.getLast?_concat, hw, hw', if_neg hdot,
    if_neg hdots] at h ⊢
  exact h

/-- **What is stored under other paths stays.** A path that leads downwards from a directory that
was there leads to no file that it did not lead to before.

**Proof sketch.** The name that the other path leads to afterwards is not that of the first, so it
is spared with the bytes of its file. It led there before as well: an old name stands in no new
directory, so the walk passes through none. -/
lemma Changes.fileBytes?_eq {y : String} (h : Changes (Aims p) d d') (hd : d.Sound) (t : d.Tree)
    (hy : Descends y) (hk : d.walk root D.components = .ok k)
    (hne : ∀ i n, d'.locate p = .ok (.name i n) →
      d'.locate (contentPath D y) ≠ .ok (.name i n)) :
    d'.fileBytes? (contentPath D y) = d.fileBytes? (contentPath D y) := by
  have he := h.extends
  have spares := h.spares hd
  have t' : d'.Tree := h.tree t hd
  refine Option.ext fun b => ?_
  rw [fileBytes?_eq_some, fileBytes?_eq_some]
  constructor
  · rintro ⟨j, n, id, hl, hshort, hn, hs, rfl⟩
    have haway : d'.locate p ≠ .ok (.name j n) := fun hp => hne j n hp hl
    have hold := (spares.named_iff j n haway id).1 hn
    refine ⟨j, n, id, locate_of_walk_dropLast hl ?_, hshort, hold, hs,
      (spares.bytes_eq j n haway id hold).symm⟩
    -- the walk leads to a directory that is not a new one
    obtain ⟨cs, hcs, hw, -⟩ := walk_of_locate_name hl
    rw [contentPath, Path.components_join hy.isRooted_eq] at hcs ⊢
    rw [List.dropLast_append_of_ne_nil hy.components_ne_nil, walk_append, hk]
    have hcut : cs = (D.components ++ (Path.ofString y).components).dropLast := by
      rw [hcs, List.dropLast_concat]
    rw [hcut, List.dropLast_append_of_ne_nil hy.components_ne_nil, walk_append,
      he.walk_eq hd hd.root_lt hk] at hw
    show d.walk k _ = .ok j
    rw [walk_filter]
    refine h.walk_back t' (fun m hm => ?_) (lt_of_lookup hold) ((walk_filter ..).symm.trans hw)
    obtain ⟨hm, hmdot⟩ := List.mem_filter.1 hm
    exact ⟨bne_iff_ne.1 hmdot, fun h => hy.dots_notMem (h ▸ List.dropLast_subset _ hm)⟩
  · rintro ⟨j, n, id, hl, hshort, hn, hs, rfl⟩
    have hl' := he.locate_eq hd hl
    have haway : d'.locate p ≠ .ok (.name j n) := fun hp => hne j n hp hl'
    exact ⟨j, n, id, hl', hshort, (spares.named_iff j n haway id).2 hn, hs,
      spares.bytes_eq j n haway id hn⟩

end Disk

end ClaimStore
