import ClaimStore.Store.Files
import ClaimStore.Proofs.Lease

/-!
# The laws of the disk

What the operations on a disk leave alone. Directories are only ever added, so a walk that leads
somewhere leads there for good; files only get a name when they are made, so that a file has one
name at most; and no operation but a change of length makes a file shorter.

## Main definitions

* `Disk.Sound` — names stand for what is there, and each file has one name at most.
* `Disk.Extends` — what every operation on a disk keeps.
* `Disk.Grows` — no file became shorter.

## Main results

* `Disk.extends_openCreating`, `Disk.extends_unlink`, `Disk.extends_makeParent` — names.
* `Disk.grows_writeAt`, `Disk.grows_append`, `Disk.grows_writeView` — bytes.
* `Disk.Extends.walk_eq` — walks lead where they led before.
-/

set_option autoImplicit false

namespace ClaimStore

/-! ### Lengths -/

/-- A string that another one is laid over does not become shorter. -/
lemma Bytes.size_le_patch (offset : Nat) (p b : Bytes) :
    b.size ≤ (Bytes.patch offset p b).size := by
  simp only [Bytes.patch, Bytes.size_append, Bytes.size_fit, Bytes.size_drop]
  omega

namespace Disk

/-! ### What is kept -/

/-- Names stand for what is there, and each file has one name at most. -/
structure Sound (d : Disk) : Prop where
  /-- There is a root. -/
  root_lt : root < d.directories.size
  /-- The parent of a directory is there. -/
  parent_lt : ∀ i, d.parent i < d.directories.size
  /-- A directory that is named is there. -/
  directory_lt : ∀ i name j, (d.entries i).lookup name = some (.directory j) →
    j < d.directories.size
  /-- A file that is named is there. -/
  file_lt : ∀ i name id, (d.entries i).lookup name = some (.file id) → id < d.contents.size
  /-- A file has one name at most. -/
  name_inj : ∀ i j name name' id, (d.entries i).lookup name = some (.file id) →
    (d.entries j).lookup name' = some (.file id) → i = j ∧ name = name'

/-- What every operation on a disk keeps. -/
structure Extends (d d' : Disk) : Prop where
  /-- Directories are never taken away. -/
  directories_le : d.directories.size ≤ d'.directories.size
  /-- Files are never taken away. -/
  contents_le : d.contents.size ≤ d'.contents.size
  /-- Directories keep their parents. -/
  parent_eq : ∀ i, i < d.directories.size → d'.parent i = d.parent i
  /-- Directories keep their names. -/
  directory_eq : ∀ i name j, (d.entries i).lookup name = some (.directory j) →
    (d'.entries i).lookup name = some (.directory j)
  /-- Files that were there get no new name. -/
  file_eq : ∀ i name id, id < d.contents.size → (d'.entries i).lookup name = some (.file id) →
    (d.entries i).lookup name = some (.file id)
  /-- A sound disk stays sound. -/
  sound : d.Sound → d'.Sound

/-- No file became shorter. -/
def Grows (d d' : Disk) : Prop :=
  ∀ id, id < d.contents.size → (d.bytes id).size ≤ (d'.bytes id).size

namespace Extends

/-- A disk extends itself. -/
lemma refl (d : Disk) : d.Extends d :=
  ⟨Nat.le_refl _, Nat.le_refl _, fun _ _ => rfl, fun _ _ _ h => h, fun _ _ _ _ h => h, fun h => h⟩

/-- Extensions compose. -/
lemma trans {d d' d'' : Disk} (h : d.Extends d') (h' : d'.Extends d'') : d.Extends d'' where
  directories_le := Nat.le_trans h.directories_le h'.directories_le
  contents_le := Nat.le_trans h.contents_le h'.contents_le
  parent_eq i hi :=
    (h'.parent_eq i (Nat.lt_of_lt_of_le hi h.directories_le)).trans (h.parent_eq i hi)
  directory_eq i name j hj := h'.directory_eq i name j (h.directory_eq i name j hj)
  file_eq i name id hid hl :=
    h.file_eq i name id hid (h'.file_eq i name id (Nat.lt_of_lt_of_le hid h.contents_le) hl)
  sound hd := h'.sound (h.sound hd)

/-- The names of a disk do not depend on what its files hold. -/
lemma of_directories {d d' : Disk} (hd : d'.directories = d.directories)
    (hc : d'.contents.size = d.contents.size) : d.Extends d' := by
  have hparent : d'.parent = d.parent := by
    funext i
    rw [parent, parent, hd]
  have hentries : d'.entries = d.entries := by
    funext i
    rw [entries, entries, hd]
  refine ⟨Nat.le_of_eq (by rw [hd]), Nat.le_of_eq hc.symm, fun _ _ => by rw [hparent],
    fun _ _ _ h => by rw [hentries, h], fun _ _ _ _ h => by rw [← hentries, h], fun h => ?_⟩
  exact ⟨by rw [hd]; exact h.root_lt, by rw [hd, hparent]; exact h.parent_lt,
    by rw [hd, hentries]; exact h.directory_lt, by rw [hc, hentries]; exact h.file_lt,
    by rw [hentries]; exact h.name_inj⟩

end Extends

/-- A step of a walk leads to a directory that is there. -/
lemma enter_lt {d : Disk} (hd : d.Sound) {i j : DirectoryId} {c : String}
    (hi : i < d.directories.size) (h : d.enter i c = .ok j) : j < d.directories.size := by
  unfold enter at h
  split at h
  · obtain rfl := Except.ok.inj h
    exact hi
  · split at h
    · obtain rfl := Except.ok.inj h
      exact hd.parent_lt i
    · unfold lookupName at h
      split at h
      · cases h
      · cases h
      · cases h
      · next next hl =>
        obtain rfl := Except.ok.inj h
        split at hl
        · cases hl
        · exact hd.directory_lt i c next (Except.ok.inj hl)

/-- A step of a walk leads where it led before. -/
lemma Extends.enter_eq {d d' : Disk} (h : d.Extends d') {i j : DirectoryId} {c : String}
    (hi : i < d.directories.size) (hj : d.enter i c = .ok j) : d'.enter i c = .ok j := by
  unfold enter at hj ⊢
  split
  · next hc => rwa [if_pos hc] at hj
  · next hc =>
    rw [if_neg hc] at hj
    split
    · next hc' =>
      rw [if_pos hc'] at hj
      rw [h.parent_eq i hi]
      exact hj
    · next hc' =>
      rw [if_neg hc'] at hj
      unfold lookupName at hj ⊢
      split at hj
      · cases hj
      · cases hj
      · cases hj
      · next next hl =>
        split at hl
        · cases hl
        · next hlong =>
          rw [if_neg hlong, h.directory_eq i c next (Except.ok.inj hl)]
          exact hj

/-- **A walk leads where it led before.** -/
lemma Extends.walk_eq {d d' : Disk} (h : d.Extends d') (hd : d.Sound) {cs : List String}
    {i j : DirectoryId} (hi : i < d.directories.size) (hj : d.walk i cs = .ok j) :
    d'.walk i cs = .ok j := by
  induction cs generalizing i with
  | nil => exact hj
  | cons c cs ih =>
    rw [walk] at hj ⊢
    cases hc : d.enter i c with
    | error e => simp [hc] at hj
    | ok next =>
      rw [hc] at hj
      rw [h.enter_eq hi hc]
      exact ih (enter_lt hd hi hc) hj

namespace Grows

/-- On the same disk no file is shorter. -/
lemma refl (d : Disk) : d.Grows d := fun _ _ => Nat.le_refl _

/-- Files that were not cut in either of two steps were not cut in both. -/
lemma trans {d d' d'' : Disk} (h : d.Grows d') (hle : d.contents.size ≤ d'.contents.size)
    (h' : d'.Grows d'') : d.Grows d'' :=
  fun id hid => Nat.le_trans (h id hid) (h' id (Nat.lt_of_lt_of_le hid hle))

/-- The same contents are as long. -/
lemma of_contents {d d' : Disk} (h : d'.contents = d.contents) : d.Grows d' := by
  intro id _
  have hbytes : d'.bytes id = d.bytes id := by rw [bytes, bytes, data, data, h]
  exact Nat.le_of_eq (congrArg Bytes.size hbytes.symm)

end Grows

/-! ### Names -/

/-- The names in a directory after those of one directory were changed. -/
lemma entries_modifyEntries (d : Disk) (p i : DirectoryId)
    (change : List (String × Item) → List (String × Item)) :
    (d.modifyEntries p change).entries i =
      if p = i ∧ i < d.directories.size then change (d.entries i) else d.entries i := by
  unfold modifyEntries entries
  by_cases h : p = i
  · subst h
    by_cases hlt : p < d.directories.size
    · simp [hlt, Array.getElem_modify]
    · simp [hlt]
  · simp [h, Array.getElem?_modify]

/-- Directories keep their parents when names are changed. -/
lemma parent_modifyEntries (d : Disk) (p i : DirectoryId)
    (change : List (String × Item) → List (String × Item)) :
    (d.modifyEntries p change).parent i = d.parent i := by
  unfold modifyEntries parent
  by_cases h : p = i
  · subst h
    by_cases hlt : p < d.directories.size
    · simp [hlt, Array.getElem_modify]
    · simp [hlt]
  · simp [h, Array.getElem?_modify]

/-- A change of the entries of a directory adds no directory. -/
@[simp] lemma size_modifyEntries (d : Disk) (p : DirectoryId)
    (change : List (String × Item) → List (String × Item)) :
    (d.modifyEntries p change).directories.size = d.directories.size := by
  simp [modifyEntries]

/-- A name that was free now stands for something new. -/
lemma lookup_cons_free {l : List (String × Item)} {name n : String} {x y : Item}
    (h : l.lookup name = none) (hy : l.lookup n = some y) : ((name, x) :: l).lookup n = some y := by
  have hne : n ≠ name := by
    rintro rfl
    rw [h] at hy
    cases hy
  rw [List.lookup_cons, beq_eq_false_iff_ne.2 hne]
  exact hy

/-- What a name stands for after one that was free was taken: the old thing, or the new one. -/
lemma lookup_cons_cases {l : List (String × Item)} {name n : String} {x y : Item}
    (h : ((name, x) :: l).lookup n = some y) : (n = name ∧ y = x) ∨ l.lookup n = some y := by
  rw [List.lookup_cons] at h
  split at h
  · next hn => exact .inl ⟨eq_of_beq hn, (Option.some.inj h).symm⟩
  · exact .inr h

/-! ### New names -/

/-- The names after a file was made. -/
lemma entries_addFile (d : Disk) (p i : DirectoryId) (name : String) :
    ((d.addFile p name).2.entries i) =
      if p = i ∧ i < d.directories.size then (name, .file d.contents.size) :: d.entries i
      else d.entries i :=
  d.entries_modifyEntries p i _

/-- A name after a file was made: it stands for the new file, or for what it stood for. -/
lemma lookup_addFile_cases {d : Disk} {p i : DirectoryId} {name n : String} {x : Item}
    (h : ((d.addFile p name).2.entries i).lookup n = some x) :
    (i = p ∧ n = name ∧ x = .file d.contents.size) ∨ (d.entries i).lookup n = some x := by
  rw [entries_addFile] at h
  split at h
  · next hp =>
    rcases lookup_cons_cases h with ⟨hn, hx⟩ | h
    · exact .inl ⟨hp.1.symm, hn, hx⟩
    · exact .inr h
  · exact .inr h

/-- **A file that is made under a free name** changes no other name. -/
lemma extends_addFile {d : Disk} {p : DirectoryId} {name : String}
    (h : (d.entries p).lookup name = none) : d.Extends (d.addFile p name).2 := by
  have hsize : (d.addFile p name).2.contents.size = d.contents.size + 1 := Array.size_push _
  have hdirs : (d.addFile p name).2.directories.size = d.directories.size :=
    size_modifyEntries d p _
  have hparent : ∀ i, (d.addFile p name).2.parent i = d.parent i :=
    fun i => parent_modifyEntries d p i _
  refine ⟨Nat.le_of_eq hdirs.symm, by rw [hsize]; exact Nat.le_succ _, fun i _ => hparent i,
    fun i n j hj => ?_, fun i n id hid hl => ?_, fun hd => ⟨?_, fun i => ?_, fun i n j hj => ?_,
      fun i n id hl => ?_, fun i j n n' id hl hl' => ?_⟩⟩
  · rw [entries_addFile]
    split
    · next hp =>
      rw [← hp.1] at hj ⊢
      exact lookup_cons_free h hj
    · exact hj
  · rcases lookup_addFile_cases hl with ⟨-, -, hx⟩ | hl
    · exact absurd (Item.file.inj hx) (Nat.ne_of_lt hid)
    · exact hl
  · rw [hdirs]
    exact hd.root_lt
  · rw [hdirs, hparent]
    exact hd.parent_lt i
  · rw [hdirs]
    rcases lookup_addFile_cases hj with ⟨-, -, hx⟩ | hj
    · cases hx
    · exact hd.directory_lt i n j hj
  · rw [hsize]
    rcases lookup_addFile_cases hl with ⟨-, -, hx⟩ | hl
    · rw [Item.file.inj hx]
      exact Nat.lt_succ_self _
    · exact Nat.lt_succ_of_lt (hd.file_lt i n id hl)
  · rcases lookup_addFile_cases hl with ⟨rfl, rfl, hx⟩ | hold <;>
      rcases lookup_addFile_cases hl' with ⟨rfl, rfl, hx'⟩ | hold'
    · exact ⟨rfl, rfl⟩
    · rw [Item.file.inj hx] at hold'
      exact absurd (hd.file_lt _ _ _ hold') (Nat.lt_irrefl _)
    · rw [Item.file.inj hx'] at hold
      exact absurd (hd.file_lt _ _ _ hold) (Nat.lt_irrefl _)
    · exact hd.name_inj i j n n' id hold hold'

/-- The bytes of old files after one was made. -/
lemma bytes_addFile {d : Disk} (p : DirectoryId) (name : String) {id : FileId}
    (hid : id < d.contents.size) : (d.addFile p name).2.bytes id = d.bytes id := by
  have hget : (d.addFile p name).2.contents[id]? = d.contents[id]? := by
    show (d.contents.push _)[id]? = _
    rw [Array.getElem?_push, if_neg (Nat.ne_of_lt hid)]
  rw [bytes, bytes, data, data, hget]

/-- The names after a directory was made. -/
lemma entries_addDirectory (d : Disk) (p i : DirectoryId) (name : String) :
    ((d.addDirectory p name).entries i) =
      if p = i ∧ i < d.directories.size then (name, .directory d.directories.size) :: d.entries i
      else d.entries i := by
  rw [← entries_modifyEntries d p i ((name, .directory d.directories.size) :: ·)]
  unfold addDirectory
  dsimp only
  generalize hm : d.modifyEntries p ((name, .directory d.directories.size) :: ·) = m
  have hsize : m.directories.size = d.directories.size := by
    rw [← hm, size_modifyEntries]
  unfold entries
  rcases Nat.lt_trichotomy i m.directories.size with hi | hi | hi
  · rw [Array.getElem?_push, if_neg (Nat.ne_of_lt hi)]
  · rw [Array.getElem?_push, if_pos hi, Array.getElem?_eq_none (Nat.le_of_eq hi.symm)]
  · rw [Array.getElem?_push, if_neg (Nat.ne_of_gt hi)]

/-- A name after a directory was made: it stands for the new one, or for what it stood for. -/
lemma lookup_addDirectory_cases {d : Disk} {p i : DirectoryId} {name n : String} {x : Item}
    (h : ((d.addDirectory p name).entries i).lookup n = some x) :
    x = .directory d.directories.size ∨ (d.entries i).lookup n = some x := by
  rw [entries_addDirectory] at h
  split at h
  · rcases lookup_cons_cases h with ⟨-, hx⟩ | h
    · exact .inl hx
    · exact .inr h
  · exact .inr h

/-- **A directory that is made under a free name** changes no other name. -/
lemma extends_addDirectory {d : Disk} {p : DirectoryId} (hp : p < d.directories.size)
    {name : String} (h : (d.entries p).lookup name = none) : d.Extends (d.addDirectory p name) := by
  have hdirs : (d.addDirectory p name).directories.size = d.directories.size + 1 := by
    rw [addDirectory, Array.size_push, size_modifyEntries]
  have hparent : ∀ i, (d.addDirectory p name).parent i =
      if i = d.directories.size then p else d.parent i := by
    intro i
    have hold := parent_modifyEntries d p i ((name, .directory d.directories.size) :: ·)
    have hsize := size_modifyEntries d p ((name, .directory d.directories.size) :: ·)
    unfold addDirectory
    dsimp only
    generalize d.modifyEntries p ((name, .directory d.directories.size) :: ·) = m at hold hsize
    unfold parent at hold ⊢
    dsimp only
    rw [Array.getElem?_push, ← hold]
    by_cases hi : i = d.directories.size
    · rw [hsize, if_pos hi, if_pos hi]
    · rw [hsize, if_neg hi, if_neg hi]
  refine ⟨by rw [hdirs]; exact Nat.le_succ _, Nat.le_refl _, fun i hi => ?_, fun i n j hj => ?_,
    fun i n id _ hl => ?_, fun hd => ⟨?_, fun i => ?_, fun i n j hj => ?_,
      fun i n id hl => ?_, fun i j n n' id hl hl' => ?_⟩⟩
  · rw [hparent, if_neg (Nat.ne_of_lt hi)]
  · rw [entries_addDirectory]
    split
    · next hp =>
      rw [← hp.1] at hj ⊢
      exact lookup_cons_free h hj
    · exact hj
  · exact (lookup_addDirectory_cases hl).resolve_left (fun hx => nomatch hx)
  · rw [hdirs]
    exact Nat.lt_succ_of_lt hd.root_lt
  · rw [hdirs, hparent]
    split
    · exact Nat.lt_succ_of_lt hp
    · exact Nat.lt_succ_of_lt (hd.parent_lt i)
  · rw [hdirs]
    rcases lookup_addDirectory_cases hj with hx | hj
    · rw [Item.directory.inj hx]
      exact Nat.lt_succ_self _
    · exact Nat.lt_succ_of_lt (hd.directory_lt i n j hj)
  · exact hd.file_lt i n id ((lookup_addDirectory_cases hl).resolve_left (fun hx => nomatch hx))
  · exact hd.name_inj i j n n' id
      ((lookup_addDirectory_cases hl).resolve_left (fun hx => nomatch hx))
      ((lookup_addDirectory_cases hl').resolve_left (fun hx => nomatch hx))

/-! ### Paths -/

/-- A walk leads to a directory that is there. -/
lemma walk_lt {d : Disk} (hd : d.Sound) {cs : List String} {i j : DirectoryId}
    (hi : i < d.directories.size) (h : d.walk i cs = .ok j) : j < d.directories.size := by
  induction cs generalizing i with
  | nil =>
    obtain rfl := Except.ok.inj h
    exact hi
  | cons c cs ih =>
    rw [walk] at h
    cases hc : d.enter i c with
    | error e => simp [hc] at h
    | ok next =>
      rw [hc] at h
      exact ih (enter_lt hd hi hc) h

/-- The directory of a last name is there. -/
lemma locate_lt {d : Disk} (hd : d.Sound) {p : Path} {i : DirectoryId} {name : String}
    (h : d.locate p = .ok (.name i name)) : i < d.directories.size := by
  unfold locate at h
  split at h
  · cases h
  · split at h
    · cases h
    · split at h
      · cases h
      · split at h
        · cases h
        · split at h
          · cases h
          · next i' hw =>
            split at h
            · cases h
            · split at h
              · cases h
              · obtain ⟨rfl, -⟩ := Spot.name.inj (Except.ok.inj h)
                exact walk_lt hd hd.root_lt hw

/-- A name that can be looked up stands for what the directory says. -/
lemma lookupName_ok {d : Disk} {i : DirectoryId} {name : String} {x : Option Item}
    (h : d.lookupName i name = .ok x) : (d.entries i).lookup name = x := by
  unfold lookupName at h
  split at h
  · cases h
  · exact Except.ok.inj h

/-- Making a directory extends a disk and changes no file. -/
lemma extends_makeDirectory {d d' : Disk} (hd : d.Sound) {p : Path}
    (h : d.makeDirectory p = .ok d') : d.Extends d' ∧ d'.contents = d.contents := by
  unfold makeDirectory at h
  split at h
  · cases h
  · cases h
  · next i name hp =>
    split at h
    · cases h
    · cases h
    · next hl =>
      obtain rfl := Except.ok.inj h
      exact ⟨extends_addDirectory (locate_lt hd hp) (lookupName_ok hl), rfl⟩

/-- Making a directory with its parents extends a disk and changes no file, also where it
fails. -/
lemma extends_makeWithParents (generations : Nat) {d : Disk} (hd : d.Sound) (p : Path) :
    d.Extends (d.makeWithParents generations p).1 ∧
      (d.makeWithParents generations p).1.contents = d.contents := by
  induction generations generalizing d p with
  | zero => exact ⟨.refl d, rfl⟩
  | succ generations ih =>
    unfold makeWithParents
    split
    · exact ⟨.refl d, rfl⟩
    · split
      · next d' h => exact extends_makeDirectory hd h
      · split
        · split
          · exact ⟨.refl d, rfl⟩
          · next q hq =>
            have hparents := ih hd q
            split
            · next d' e' h =>
              rw [h] at hparents
              exact hparents
            · next d' h =>
              rw [h] at hparents
              obtain ⟨hext, hcon⟩ := hparents
              split
              · next d'' h' =>
                obtain ⟨hext', hcon'⟩ := extends_makeDirectory (hext.sound hd) h'
                exact ⟨hext.trans hext', hcon'.trans hcon⟩
              · split <;> exact ⟨hext, hcon⟩
        · split <;> exact ⟨.refl d, rfl⟩

/-- The directories above a file extend the disk when they are made, and change no file. -/
lemma extends_makeParent {d : Disk} (hd : d.Sound) (p : Path) :
    d.Extends (d.makeParent p).1 ∧ (d.makeParent p).1.contents = d.contents := by
  unfold makeParent
  split
  · exact ⟨.refl d, rfl⟩
  · next q hq =>
    have hmade := extends_makeWithParents (q.depth + 1) hd q
    split <;> next h => rw [makeDirectories] at h; rw [h] at hmade; exact hmade

/-- **A file that is opened for writing** is found or made; the disk is extended, and no old file
is changed. -/
lemma extends_openCreating {d d' : Disk} {p : Path} {id : FileId}
    (h : d.openCreating p = .ok (id, d')) :
    d.Extends d' ∧ (∀ id', id' < d.contents.size → d'.bytes id' = d.bytes id') := by
  unfold openCreating at h
  split at h
  · cases h
  · cases h
  · next i name hp =>
    split at h
    · cases h
    · split at h
      · cases h
      · cases h
      · obtain ⟨rfl, rfl⟩ := Prod.mk.inj (Except.ok.inj h)
        exact ⟨.refl _, fun _ _ => rfl⟩
      · next hl =>
        have hadd := Except.ok.inj h
        have hd' : d' = (d.addFile i name).2 := by rw [hadd]
        rw [hd']
        exact ⟨extends_addFile (lookupName_ok hl), fun id' hid' => bytes_addFile i name hid'⟩

/-- The names in a directory after one was removed. -/
lemma lookup_removeName (d : Disk) (i : DirectoryId) (name : String) (j : DirectoryId)
    (n : String) :
    ((d.modifyEntries i fun l => l.filter fun x => x.1 != name).entries j).lookup n =
      if i = j ∧ j < d.directories.size ∧ n = name then none else (d.entries j).lookup n := by
  rw [entries_modifyEntries]
  by_cases hj : i = j ∧ j < d.directories.size
  · rw [if_pos hj, lookup_filter_ne]
    by_cases hn : n = name
    · rw [if_pos hn, if_pos ⟨hj.1, hj.2, hn⟩]
    · rw [if_neg hn, if_neg fun h => hn h.2.2]
  · rw [if_neg hj, if_neg fun h => hj ⟨h.1, h.2.1⟩]

/-- A name after one was removed stood for the same before. -/
lemma lookup_of_removeName {d : Disk} {i j : DirectoryId} {name n : String} {x : Item}
    (h : ((d.modifyEntries i fun l => l.filter fun x => x.1 != name).entries j).lookup n = some x) :
    (d.entries j).lookup n = some x := by
  rw [lookup_removeName] at h
  split at h
  · cases h
  · exact h

/-- **The name of a file that is removed** is the only one that changes. -/
lemma extends_removeName {d : Disk} {i : DirectoryId} {name : String} {id : FileId}
    (hname : (d.entries i).lookup name = some (.file id)) :
    d.Extends (d.modifyEntries i fun l => l.filter fun x => x.1 != name) := by
  have hparent := fun j => parent_modifyEntries d i j fun l => l.filter fun x => x.1 != name
  have hsize := size_modifyEntries d i fun l => l.filter fun x => x.1 != name
  refine ⟨Nat.le_of_eq hsize.symm, Nat.le_refl _, fun j _ => hparent j, fun j n k hk => ?_,
    fun j n id' _ hl => lookup_of_removeName hl, fun hd => ⟨?_, fun j => ?_,
      fun j n k hk => ?_, fun j n id' hl => hd.file_lt j n id' (lookup_of_removeName hl),
      fun j k n n' id' hl hl' =>
        hd.name_inj j k n n' id' (lookup_of_removeName hl) (lookup_of_removeName hl')⟩⟩
  · rw [lookup_removeName, if_neg]
    · exact hk
    · rintro ⟨rfl, -, rfl⟩
      rw [hname] at hk
      cases hk
  · rw [hsize]
    exact hd.root_lt
  · rw [hsize, hparent]
    exact hd.parent_lt j
  · rw [hsize]
    exact hd.directory_lt j n k (lookup_of_removeName hk)

/-- **A path that is removed** is that of a file, whose name goes. -/
lemma unlink_ok {d d' : Disk} {p : Path} (h : d.unlink p = .ok d') :
    ∃ i name id, d.locate p = .ok (.name i name) ∧ (d.entries i).lookup name = some (.file id) ∧
      d' = d.modifyEntries i fun l => l.filter fun x => x.1 != name := by
  unfold unlink at h
  split at h
  · cases h
  · cases h
  · next i name hp =>
    split at h
    · cases h
    · cases h
    · cases h
    · next id hl =>
      split at h
      · cases h
      · exact ⟨i, name, id, hp, lookupName_ok hl, (Except.ok.inj h).symm⟩

/-- Its name is not too long. -/
lemma short_of_unlink {d d' : Disk} {p : Path} (h : d.unlink p = .ok d') {i : DirectoryId}
    {name : String} (hp : d.locate p = .ok (.name i name)) :
    name.utf8ByteSize ≤ maxNameBytes := by
  refine Nat.le_of_not_lt fun hlong => ?_
  simp only [unlink, hp, lookupName, if_pos hlong] at h
  cases h

/-- A name that is taken out leaves its file, which may be open. -/
lemma extends_unlink {d d' : Disk} {p : Path} (h : d.unlink p = .ok d') :
    d.Extends d' ∧ d'.contents = d.contents := by
  obtain ⟨i, name, id, -, hname, rfl⟩ := unlink_ok h
  exact ⟨extends_removeName hname, rfl⟩

/-! ### Bytes -/

/-- What files hold after one was changed. -/
lemma data_modify (d : Disk) (id id' : FileId) (change : FileData → FileData) :
    (d.modify id change).data id' =
      if id = id' ∧ id' < d.contents.size then change (d.data id') else d.data id' := by
  unfold data Disk.modify
  by_cases h : id = id'
  · subst h
    by_cases hlt : id < d.contents.size
    · simp [hlt, Array.getElem_modify]
    · simp [hlt]
  · simp [h, Array.getElem?_modify]

/-- The bytes of a file after one was changed. -/
lemma bytes_modify (d : Disk) (id id' : FileId) (change : FileData → FileData) :
    (d.modify id change).bytes id' =
      if id = id' ∧ id' < d.contents.size then (change (d.data id')).bytes else d.bytes id' := by
  rw [bytes, data_modify]
  split <;> rfl

/-- A change of what files hold extends a disk. -/
lemma extends_modify (d : Disk) (id : FileId) (change : FileData → FileData) :
    d.Extends (d.modify id change) :=
  .of_directories rfl (by simp [Disk.modify])

/-- A change that makes no file shorter. -/
lemma grows_modify (d : Disk) (id : FileId) {change : FileData → FileData}
    (h : ∀ f, f.bytes.size ≤ (change f).bytes.size) : d.Grows (d.modify id change) := by
  intro id' _
  rw [bytes_modify]
  split
  · exact h (d.data id')
  · exact Nat.le_refl _

/-- A write at an offset cuts no file. -/
lemma grows_writeAt (d : Disk) (id : FileId) (offset : Nat) (b : Bytes) :
    d.Grows (d.writeAt id offset b) := by
  unfold writeAt
  split
  · exact .refl d
  · exact grows_modify d id fun f => Bytes.size_le_patch offset b f.bytes

/-- A write at an offset adds and takes away nothing. -/
lemma extends_writeAt (d : Disk) (id : FileId) (offset : Nat) (b : Bytes) :
    d.Extends (d.writeAt id offset b) := by
  unfold writeAt
  split
  · exact .refl d
  · exact extends_modify d id _

/-- An append cuts no file. -/
lemma grows_append (d : Disk) (id : FileId) (b : Bytes) : d.Grows (d.append id b) :=
  grows_modify d id fun f => Bytes.size_le_patch f.bytes.size b f.bytes

/-- A view that is written back cuts no file. -/
lemma grows_writeView (d : Disk) (id : FileId) (v : Bytes) : d.Grows (d.writeView id v) :=
  grows_modify d id fun f => Nat.le_of_eq (f.size_writeView v).symm

/-- A flush cuts no file. -/
lemma grows_flush (d : Disk) (id : FileId) (n : Nat) : d.Grows (d.flush id n) :=
  grows_modify d id fun f => Nat.le_of_eq (congrArg Bytes.size (f.bytes_flush n)).symm

/-- A sync cuts no file. -/
lemma grows_sync (d : Disk) (id : FileId) : d.Grows (d.sync id) :=
  grows_modify d id fun _ => Nat.le_refl _

/-- A file that can have a length is given it. -/
lemma setLength_eq (d : Disk) (id : FileId) {n : Nat} (h : n ≤ maxFileLength) :
    d.setLength id n = .ok (d.modify id (·.setLength n)) := by
  have hmax : maxFileLength ≤ maxLength := by decide
  unfold setLength
  rw [if_neg (Nat.not_lt.2 (Nat.le_trans h hmax)), if_neg (Nat.not_lt.2 h)]

/-- A file that was given a length has it, and no other file is changed. -/
lemma setLength_ok {d d' : Disk} {id : FileId} {n : Nat} (h : d.setLength id n = .ok d') :
    n ≤ maxFileLength ∧ d.Extends d' ∧
      ∀ id', id' < d.contents.size → (d'.bytes id').size = if id' = id then n
        else (d.bytes id').size := by
  unfold setLength at h
  split at h
  · cases h
  · split at h
    · cases h
    · next hlt =>
      obtain rfl := Except.ok.inj h
      refine ⟨Nat.le_of_not_lt hlt, extends_modify d id _, fun id' hid' => ?_⟩
      rw [bytes_modify]
      by_cases hid : id' = id
      · rw [if_pos ⟨hid.symm, hid'⟩, if_pos hid]
        exact Bytes.size_fit n _
      · rw [if_neg (fun h => hid h.1.symm), if_neg hid]

/-- A change of length changes no name. -/
lemma entries_setLength {d d' : Disk} {id : FileId} {n : Nat} (h : d.setLength id n = .ok d') :
    d'.entries = d.entries := by
  unfold setLength at h
  split at h
  · cases h
  · split at h
    · cases h
    · obtain rfl := Except.ok.inj h
      rfl

/-- A name on the disk that holds one empty directory stands for that directory. -/
lemma lookup_withDirectory {name n : String} {i : DirectoryId} {x : Item}
    (h : ((withDirectory name).entries i).lookup n = some x) : x = .directory 1 := by
  match i with
  | 0 =>
    rcases lookup_cons_cases h with ⟨-, hx⟩ | h
    · exact hx
    · cases h
  | 1 => cases h
  | i + 2 => cases h

/-- The disk that holds one empty directory is sound. -/
lemma sound_withDirectory (name : String) : (withDirectory name).Sound := by
  have hsize : (withDirectory name).directories.size = 2 := rfl
  refine ⟨hsize ▸ Nat.zero_lt_two, fun i => ?_, fun i n j h => ?_,
    fun i n id h => Item.noConfusion (lookup_withDirectory h),
    fun i _ n _ id h => Item.noConfusion (lookup_withDirectory h)⟩
  · have hparent : (withDirectory name).parent i = root := by
      match i with
      | 0 | 1 => rfl
      | i + 2 => rfl
    rw [hparent, hsize]
    exact Nat.zero_lt_two
  · obtain rfl := Item.directory.inj (lookup_withDirectory h)
    rw [hsize]
    exact Nat.one_lt_two

end Disk

end ClaimStore
