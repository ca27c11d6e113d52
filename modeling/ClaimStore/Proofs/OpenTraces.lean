import ClaimStore.Proofs.InterruptedOpens
import ClaimStore.Proofs.Openable

/-!
# What failed opens leave on the disk

An open of a file for writing makes the directories that are missing, and perhaps the file, before
the steps that can still fail. So an open that fails leaves new directories at least. These bring no
content to light and hide none: content is stored under a path that leads downwards exactly where it
was stored before. The file is another matter. Where it was made, or extended, before measuring,
cutting, extending or mapping it failed, it stays so: content that was absent is there then, and
content that was shorter has become longer.

## Main definitions

* `Disk.Widens` — a disk with more directories.
* `Disk.Gains` — something is stored under a path where nothing was stored, or something longer.
* `Store.LeavesTrace` — an open that fails leaves a trace in the content.

## Main results

* `Disk.Widens.resolve_cases` — where paths lead that lead downwards.
* `Disk.openMakingWith_ok_cases` — a file that is opened was there, or was made.
* `Store.Interrupts.widens`, `Store.Interrupts.traced` — what is left after an open that failed.
-/

set_option autoImplicit false

namespace ClaimStore

namespace Disk

variable {d d' d'' : Disk} {i j k : DirectoryId} {n : String} {cs : List String} {p : Path}
  {id : FileId}

/-! ### More directories -/

/-- **A disk with more directories.** All names stand for what they stood for, new names stand for
new directories, and the files hold what they held. -/
structure Widens (d d' : Disk) : Prop where
  /-- It extends the disk. -/
  extending : d.Extends d'
  /-- The files are the same. -/
  contents_eq : d'.contents = d.contents
  /-- Names stand for what they stood for. -/
  kept : ∀ i n x, (d.entries i).lookup n = some x → (d'.entries i).lookup n = some x
  /-- New names stand for new directories. -/
  new : ∀ i n x, (d'.entries i).lookup n = some x →
    (d.entries i).lookup n = some x ∨ ∃ j, x = .directory j ∧ d.directories.size ≤ j

/-- What is found below a new directory: nothing, or a new directory, unless a name is too long. -/
inductive Blank (d : Disk) (cs : List String) : Except Errno DirectoryId → Prop
  /-- Nothing is found. -/
  | missing : Blank d cs (.error .notFound)
  /-- A new directory is found. -/
  | made {j : DirectoryId} (le : d.directories.size ≤ j) : Blank d cs (.ok j)
  /-- A name is too long. -/
  | long {n : String} (mem : n ∈ cs) (lt : maxNameBytes < n.utf8ByteSize) :
      Blank d cs (.error .nameTooLong)

/-- What is blank along some components is blank along more. -/
lemma Blank.mono {cs' : List String} {r : Except Errno DirectoryId} (h : Blank d cs r)
    (hcs : cs ⊆ cs') : Blank d cs' r := by
  cases h with
  | missing => exact .missing
  | made le => exact .made le
  | long mem lt => exact .long (hcs mem) lt

namespace Widens

/-- A disk has the directories that it has. -/
lemma refl (d : Disk) : d.Widens d := ⟨.refl d, rfl, fun _ _ _ h => h, fun _ _ _ h => .inl h⟩

/-- More directories are added step after step. -/
lemma trans (h : d.Widens d') (h' : d'.Widens d'') : d.Widens d'' where
  extending := h.extending.trans h'.extending
  contents_eq := h'.contents_eq.trans h.contents_eq
  kept i n x hx := h'.kept i n x (h.kept i n x hx)
  new i n x hx := by
    rcases h'.new i n x hx with hx | ⟨j, rfl, hj⟩
    · exact h.new i n x hx
    · exact .inr ⟨j, rfl, Nat.le_trans h.extending.directories_le hj⟩

/-- A directory that is made widens a disk. -/
lemma addDirectory (h : d.Free j n) : d.Widens (d.addDirectory j n) where
  extending := extends_addDirectory h.parent_lt h.lookup_eq
  contents_eq := rfl
  kept i m x hx := by
    rw [entries_addDirectory]
    split
    · next hi =>
      obtain ⟨rfl, -⟩ := hi
      exact lookup_cons_free h.lookup_eq hx
    · exact hx
  new i m x hx := by
    rcases lookup_addDirectory_cases hx with rfl | hx
    · exact .inr ⟨_, rfl, Nat.le_refl _⟩
    · exact .inl hx

/-- **Making directories widens a disk.** -/
lemma of_making (h : Changes (Making cs) d d') : d.Widens d' := by
  induction h with
  | refl => exact .refl d
  | step before admits making ih =>
    obtain ⟨_, j, n, rfl, -⟩ := making
    exact ih.trans (addDirectory admits)

variable (h : d.Widens d')
include h

/-- Directories that are added leave the bytes of the files. -/
lemma bytes_eq (id : FileId) : d'.bytes id = d.bytes id := by
  rw [bytes, bytes, data, data, h.contents_eq]

/-- A name that is looked up stands for the same thing, or for a new directory if it was free. -/
lemma lookupName_cases (i : DirectoryId) (n : String) : d'.lookupName i n = d.lookupName i n ∨
    d.lookupName i n = .ok none ∧ ∃ j, d'.lookupName i n = .ok (some (.directory j)) ∧
      d.directories.size ≤ j := by
  unfold lookupName
  by_cases hlong : maxNameBytes < n.utf8ByteSize
  · rw [if_pos hlong, if_pos hlong]
    exact .inl rfl
  · rw [if_neg hlong, if_neg hlong]
    cases hx : (d.entries i).lookup n with
    | some x => exact .inl (by rw [h.kept i n x hx])
    | none =>
      cases hy : (d'.entries i).lookup n with
      | none => exact .inl rfl
      | some y =>
        rcases h.new i n y hy with hold | ⟨j, rfl, hj⟩
        · cases hold.symm.trans hx
        · exact .inr ⟨rfl, j, rfl, hj⟩

/-- So it is with a step of a walk that does not lead upwards. -/
lemma enter_cases (i : DirectoryId) (hn : n ≠ "..") : d'.enter i n = d.enter i n ∨
    d.enter i n = .error .notFound ∧ ∃ j, d'.enter i n = .ok j ∧ d.directories.size ≤ j := by
  unfold enter
  by_cases hdot : n = "."
  · rw [if_pos hdot, if_pos hdot]
    exact .inl rfl
  · rw [if_neg hdot, if_neg hdot, if_neg hn, if_neg hn]
    rcases h.lookupName_cases i n with heq | ⟨hfree, j, hj, hle⟩
    · rw [heq]
      exact .inl rfl
    · rw [hfree, hj]
      exact .inr ⟨rfl, j, rfl, hle⟩

/-- A name in a new directory is free, or stands for a new directory. -/
lemma lookupName_blank (hi : d.directories.size ≤ i) (n : String) :
    (d'.lookupName i n = .error .nameTooLong ∧ maxNameBytes < n.utf8ByteSize) ∨
      d'.lookupName i n = .ok none ∨
        ∃ j, d'.lookupName i n = .ok (some (.directory j)) ∧ d.directories.size ≤ j := by
  by_cases hlong : maxNameBytes < n.utf8ByteSize
  · exact .inl ⟨by rw [lookupName, if_pos hlong], hlong⟩
  · refine .inr ?_
    rcases h.lookupName_cases i n with heq | ⟨-, hj⟩
    · rw [heq, lookupName, if_neg hlong]
      cases hx : (d.entries i).lookup n with
      | none => exact .inl rfl
      | some x => exact absurd (lt_of_lookup hx) (Nat.not_lt.2 hi)
    · exact .inr hj

/-- **A walk downwards from a new directory** finds nothing but new ones. -/
lemma walk_blank (hcs : ".." ∉ cs) (hi : d.directories.size ≤ i) : Blank d cs (d'.walk i cs) := by
  induction cs generalizing i with
  | nil => exact .made hi
  | cons n cs ih =>
    have hn := List.ne_of_not_mem_cons hcs
    replace hcs := List.not_mem_of_not_mem_cons hcs
    rw [walk, enter]
    by_cases hdot : n = "."
    · rw [if_pos hdot]
      exact (ih hcs hi).mono (List.subset_cons_self n cs)
    · rw [if_neg hdot, if_neg (Ne.symm hn)]
      rcases h.lookupName_blank hi n with ⟨hx, hlong⟩ | hx | ⟨j, hx, hj⟩ <;> rw [hx]
      · exact .long List.mem_cons_self hlong
      · exact .missing
      · exact (ih hcs hj).mono (List.subset_cons_self n cs)

/-- **A walk downwards** leads where it led, or finds nothing but new directories where it led
nowhere. -/
lemma walk_cases (hcs : ".." ∉ cs) (i : DirectoryId) : d'.walk i cs = d.walk i cs ∨
    d.walk i cs = .error .notFound ∧ Blank d cs (d'.walk i cs) := by
  induction cs generalizing i with
  | nil => exact .inl rfl
  | cons n cs ih =>
    have hn := List.ne_of_not_mem_cons hcs
    replace hcs := List.not_mem_of_not_mem_cons hcs
    rw [walk, walk]
    rcases h.enter_cases i (Ne.symm hn) with heq | ⟨hnone, j, hj, hle⟩
    · rw [heq]
      cases d.enter i n with
      | error e => exact .inl rfl
      | ok next =>
        exact (ih hcs next).imp_right fun h => ⟨h.1, h.2.mono (List.subset_cons_self n cs)⟩
    · rw [hnone, hj]
      exact .inr ⟨rfl, (h.walk_blank hcs hle).mono (List.subset_cons_self n cs)⟩

/-! ### Where paths lead -/

variable {D : Path} {y : String}

/-- **Where a path leads that leads downwards** from a directory that was there: where it led, or to
a new directory where it led nowhere, unless a name on the way is too long.

**Proof sketch.** Both walks begin in the directory that was there, and the last component is looked
up where they end. A walk that ends where it ended before finds the same name, or a new directory
where there was none. One that ended nowhere before is now below a new directory, where there is
nothing but new directories. -/
lemma resolve_cases (hd : d.Sound) (hy : Descends y) (hk : d.walk root D.components = .ok k) :
    d'.resolve (contentPath D y) = d.resolve (contentPath D y) ∨
      d.resolve (contentPath D y) = .error (.os .notFound) ∧
        ((∃ j, d'.resolve (contentPath D y) = .ok (.directory j)) ∨
          d'.resolve (contentPath D y) = .error (.os .nameTooLong) ∧
            ∃ n ∈ (Path.ofString y).components, maxNameBytes < n.utf8ByteSize) := by
  obtain ⟨ys, m, hys⟩ := (List.eq_nil_or_concat' _).resolve_left hy.components_ne_nil
  have hcs : (contentPath D y).components = (D.components ++ ys) ++ [m] := by
    rw [contentPath, Path.components_join hy.isRooted_eq, hys, List.append_assoc]
  have hdots : ".." ∉ ys ++ [m] := hys ▸ hy.dots_notMem
  have hm : m ≠ ".." := fun h => hdots (by simp [h])
  have hwalk : d.walk root (D.components ++ ys) = d.walk k ys := by
    rw [walk_append, hk]
    rfl
  have hwalk' : d'.walk root (D.components ++ ys) = d'.walk k ys := by
    rw [walk_append, h.extending.walk_eq hd hd.root_lt hk]
    rfl
  unfold resolve locate
  rw [hcs, List.getLast?_concat, List.dropLast_concat, hwalk, hwalk', hys]
  by_cases hnul : (contentPath D y).hasNul = true
  · exact .inl (by simp only [if_pos hnul])
  by_cases hempty : (contentPath D y).isEmpty = true
  · exact .inl (by simp only [if_neg hnul, if_pos hempty])
  by_cases hlong : maxPathBytes ≤ (contentPath D y).toString.utf8ByteSize
  · exact .inl (by simp only [if_neg hnul, if_neg hempty, if_pos hlong])
  simp only [if_neg hnul, if_neg hempty, if_neg hlong, if_neg hm]
  rcases h.walk_cases (fun h => hdots (List.mem_append_left _ h)) k with heq | ⟨hnone, hblank⟩
  · rw [heq]
    cases d.walk k ys with
    | error e => exact .inl rfl
    | ok i =>
      dsimp only
      by_cases hdot : m = "."
      · rw [if_pos hdot]
        exact .inl rfl
      · rw [if_neg hdot]
        dsimp only
        rcases h.lookupName_cases i m with hsame | ⟨hfree, j, hj, -⟩
        · rw [hsame]
          exact .inl rfl
        · rw [hfree, hj]
          exact .inr ⟨rfl, .inl ⟨j, rfl⟩⟩
  · rw [hnone]
    generalize d'.walk k ys = r at hblank
    cases hblank with
    | missing => exact .inl rfl
    | long mem lt => exact .inr ⟨rfl, .inr ⟨rfl, _, List.mem_append_left _ mem, lt⟩⟩
    | @made i hi =>
      dsimp only
      by_cases hdot : m = "."
      · rw [if_pos hdot]
        exact .inr ⟨rfl, .inl ⟨i, rfl⟩⟩
      · rw [if_neg hdot]
        dsimp only
        rcases h.lookupName_blank hi m with ⟨hx, hlt⟩ | hx | ⟨j, hx, -⟩ <;> rw [hx]
        · exact .inr ⟨rfl, .inr ⟨rfl, m, by simp, hlt⟩⟩
        · exact .inl rfl
        · exact .inr ⟨rfl, .inl ⟨j, rfl⟩⟩

/-- **The same bytes are stored** under a path that leads downwards. -/
lemma fileBytes?_eq (hd : d.Sound) (hy : Descends y) (hk : d.walk root D.components = .ok k) :
    d'.fileBytes? (contentPath D y) = d.fileBytes? (contentPath D y) := by
  unfold fileBytes?
  rcases h.resolve_cases hd hy hk with heq | ⟨hnone, ⟨j, hj⟩ | ⟨hlong, -⟩⟩
  · rw [heq]
    split
    · rw [h.bytes_eq]
    · rfl
    · rfl
  · rw [hnone, hj]
  · rw [hnone, hlong]

/-- **The same length is told** for a path that leads downwards, unless a name on the way is too
long. -/
lemma storedLength_eq (hd : d.Sound) (hy : Descends y) (hk : d.walk root D.components = .ok k)
    (hshort : ∀ n ∈ (Path.ofString y).components, n.utf8ByteSize ≤ maxNameBytes) :
    d'.storedLength (contentPath D y) = d.storedLength (contentPath D y) := by
  unfold storedLength
  rcases h.resolve_cases hd hy hk with heq | ⟨hnone, ⟨j, hj⟩ | ⟨-, n, hn, hlong⟩⟩
  · rw [heq]
    split
    · rw [h.bytes_eq]
    · rfl
    · rfl
    · rfl
  · rw [hnone, hj]
  · exact absurd hlong (Nat.not_lt.2 (hshort n hn))

/-- What is stored under a path, wherever it leads, is still stored there. -/
lemma fileBytes?_kept (hd : d.Sound) {v : Bytes} (hv : d.fileBytes? p = some v) :
    d'.fileBytes? p = some v := by
  obtain ⟨j, n, id, hl, hn, hx, hs, hb⟩ := fileBytes?_eq_some.1 hv
  exact fileBytes?_eq_some.2
    ⟨j, n, id, h.extending.locate_eq hd hl, hn, h.kept j n _ hx, hs, (h.bytes_eq id).trans hb⟩

end Widens

/-! ### Files that are opened or made -/

variable {f : OpenFaults}

/-- The first segments of a path have its first components. -/
lemma components_upTo (p : Path) (steps : Nat) : (p.upTo steps).components <+: p.components :=
  ((List.prefix_cons_inj p.first).2 (List.take_prefix steps p.rest)).filter _

/-- **The directory of a path is made above its last component**, or some of it before a failure. -/
lemma changes_makeParentWith (f : OpenFaults) (hd : d.Sound) (p : Path) :
    Changes (Making p.components.dropLast) d (d.makeParentWith f p).1 := by
  unfold makeParentWith
  split
  · exact changes_makeParent hd p
  · exact .refl
  · next steps e q _ hq =>
    exact (changes_makeWithParents _ hd (q.upTo steps)).mono fun _ _ h =>
      h.mono ((components_upTo q steps).trans (Path.components_parent? hq))

/-- An open for writing that fails makes directories at most. -/
lemma widens_openMakingWith {e : Failure} (hd : d.Sound)
    (h : d.openMakingWith f p = (d', .error e)) : d.Widens d' := by
  have hmade := changes_makeParentWith f hd p
  unfold openMakingWith at h
  split at h
  · next hparent =>
    obtain ⟨rfl, -⟩ := Prod.mk.inj h
    rw [hparent] at hmade
    exact .of_making hmade
  · next hparent =>
    rw [hparent] at hmade
    split at h
    · obtain ⟨rfl, -⟩ := Prod.mk.inj h
      exact .of_making hmade
    · cases (Prod.mk.inj h).2

/-- **A file that is opened for writing** was there, or it is made where nothing was stored.

**Proof sketch.** The directories above are made, which widens the disk. Then the name is found, and
the file was there, or it is free. A file that was stored at the path before would be found now, so
there was none. -/
lemma openMakingWith_ok_cases (hd : d.Sound) (h : d.openMakingWith f p = (d', .ok id)) :
    d'.resolve p = .ok (.file id) ∧
      (id < d.contents.size ∧ d.Widens d' ∨
        id = d.contents.size ∧ d'.contents.size = d.contents.size + 1 ∧
          d.fileBytes? p = none ∧ d'.bytes id = .empty) := by
  obtain ⟨d₁, hmake, hopen⟩ := Store.openMakingWith_ok h
  have hmade := changes_makeParent hd p
  rw [hmake] at hmade
  have hwidens := Widens.of_making hmade
  have hd₁ := hwidens.extending.sound hd
  obtain ⟨hresolve, -⟩ := resolve_openCreating hd₁ hopen
  refine ⟨hresolve, ?_⟩
  unfold openCreating at hopen
  split at hopen
  · cases hopen
  · cases hopen
  next j n hl =>
  split at hopen
  · cases hopen
  split at hopen
  · cases hopen
  · cases hopen
  · next file hn =>
    obtain ⟨rfl, rfl⟩ := Prod.mk.inj (Except.ok.inj hopen)
    have hlt := hd₁.file_lt j n _ (lookupName_ok hn)
    rw [hwidens.contents_eq] at hlt
    exact .inl ⟨hlt, hwidens⟩
  · next hn =>
    have hadd := Except.ok.inj hopen
    obtain rfl : d' = (d₁.addFile j n).2 := (congrArg Prod.snd hadd).symm
    obtain rfl : id = d₁.contents.size := (congrArg Prod.fst hadd).symm
    refine .inr ⟨by rw [hwidens.contents_eq], ?_, ?_, by rw [bytes, data_addFile_self]; rfl⟩
    · rw [← hwidens.contents_eq]
      exact Array.size_push _
    · -- what was stored before the directories were made would be found now
      refine Option.eq_none_iff_forall_not_mem.2 fun v hv => ?_
      obtain ⟨i, m, id, hl', -, hx, -⟩ := fileBytes?_eq_some.1 (hwidens.fileBytes?_kept hd hv)
      obtain ⟨rfl, rfl⟩ := Spot.name.inj (Except.ok.inj (hl'.symm.trans hl))
      cases hx.symm.trans (lookupName_ok hn)

/-- An open for writing changes the disk along its path. -/
lemma changes_openMakingWith {r : Except Failure FileId} (hd : d.Sound)
    (h : d.openMakingWith f p = (d', r)) :
    Changes (Opening p) d d' ∧ ∀ id, r = .ok id → d'.Ends p id := by
  cases r with
  | ok id =>
    obtain ⟨d₁, hmake, hopen⟩ := Store.openMakingWith_ok h
    obtain ⟨hc, he⟩ := changes_open hd hmake hopen
    exact ⟨hc, fun _ hid => Except.ok.inj hid ▸ he⟩
  | error e =>
    refine ⟨?_, nofun⟩
    have hmade := (changes_makeParentWith f hd p).mono (Q := Opening p) fun _ _ h => .above h
    unfold openMakingWith at h
    split at h
    · next hparent =>
      rw [hparent] at hmade
      exact (Prod.mk.inj h).1 ▸ hmade
    · next hparent =>
      rw [hparent] at hmade
      split at h
      · exact (Prod.mk.inj h).1 ▸ hmade
      · cases (Prod.mk.inj h).2

/-- **Something is stored under a path where nothing was stored**, or something longer. -/
def Gains (p : Path) (d d' : Disk) : Prop :=
  d'.contents ≠ d.contents ∧ ∃ v, d'.fileBytes? p = some v ∧
    ∀ u, d.fileBytes? p = some u → u.size < v.size

/-- So it is where a file was made. -/
lemma gains_of_made {d₁ : Disk} (hd : d.Sound)
    (h : d.openMakingWith f p = (d₁, .ok d.contents.size))
    (hresolve : d'.resolve p = d₁.resolve p) (hsize : d'.contents.size = d₁.contents.size) :
    Gains p d d' := by
  obtain ⟨hfile, ⟨hlt, -⟩ | ⟨-, hmore, hnone, -⟩⟩ := openMakingWith_ok_cases hd h
  · exact absurd hlt (Nat.lt_irrefl _)
  · refine ⟨fun heq => ?_, d'.bytes d.contents.size, ?_, fun u hu => ?_⟩
    · rw [hmore, heq] at hsize
      exact absurd hsize (Nat.ne_of_lt (Nat.lt_succ_self _))
    · rw [fileBytes?, hresolve, hfile]
    · cases hnone.symm.trans hu

/-- And where a file that was there was extended. -/
lemma gains_of_extended {d₁ : Disk} {m : Nat} (hd : d.Sound)
    (h : d.openMakingWith f p = (d₁, .ok id)) (hid : id < d.contents.size)
    (hshort : (d.bytes id).size < m) : Gains p d (d₁.modify id (·.setLength m)) := by
  obtain ⟨hfile, ⟨-, hwidens⟩ | ⟨rfl, -⟩⟩ := openMakingWith_ok_cases hd h
  · have hlong : ((d₁.modify id (·.setLength m)).bytes id).size = m := by
      rw [bytes_modify, hwidens.contents_eq, if_pos ⟨rfl, hid⟩]
      exact Bytes.size_fit m _
    refine ⟨fun heq => ?_, (d₁.modify id (·.setLength m)).bytes id, ?_, fun u hu => ?_⟩
    · have hbytes : (d₁.modify id (·.setLength m)).bytes id = d.bytes id := by
        rw [bytes, bytes, data, data, heq]
      rw [hbytes] at hlong
      exact absurd hshort (Nat.not_lt.2 (Nat.le_of_eq hlong.symm))
    · rw [fileBytes?, resolve_modify (hwidens.extending.sound hd) hfile]
    · have hkept := hwidens.fileBytes?_kept hd hu
      rw [fileBytes?, hfile] at hkept
      rw [← Option.some.inj hkept, hwidens.bytes_eq, hlong]
      exact hshort
  · exact absurd hid (Nat.lt_irrefl _)

end Disk

/-! ### Files that are extended -/

namespace FileBacking

variable {f : OpenFaults} {d d' : Disk} {p : Path} {id : FileId} {n : Nat} {e : Failure}

/-- A file is extended where that is needed and nothing fails before. -/
lemma disk_extendWith (f : OpenFaults) (d : Disk) (p : Path) (id : FileId) (n : Nat) :
    (extendWith f d p id n).1 =
      if f.measure = none ∧ (d.bytes id).size < n ∧ f.setLength = none ∧ n ≤ Disk.maxFileLength then
        d.modify id (·.setLength n)
      else d := by
  unfold extendWith
  cases f.measure with
  | some e => simp
  | none =>
    by_cases hshort : (d.bytes id).size < n
    · simp only [hshort, if_true, true_and]
      cases f.setLength with
      | some e => simp [unlessFault]
      | none =>
        rw [unlessFault_none]
        by_cases hn : n ≤ Disk.maxFileLength
        · simp [d.setLength_eq id hn, hn]
        · cases hset : d.setLength id n with
          | ok d' => exact absurd (Disk.setLength_ok hset).1 hn
          | error e => simp [hn]
    · simp [hshort]

/-- A file is mapped, unless that fails. -/
lemma ofOpenedWith_error (h : ofOpenedWith f p (.file id) n = .error e) : f.map ≠ none ∧ 0 < n := by
  have hplain : ∀ {n}, ofOpened p (.file id) n ≠ .error e := by
    intro n hn
    unfold ofOpened at hn
    split at hn <;> cases hn
  unfold ofOpenedWith at h
  split at h
  · exact absurd h hplain
  · next hmap =>
    refine ⟨by rw [hmap]; exact nofun, ?_⟩
    split at h
    · exact absurd h hplain
    · next hn => exact Nat.pos_of_ne_zero hn

/-- **What fails after a file was opened for a writable mapping**: it is measuring it, or for a
mapping of some bytes it is extending or mapping it. -/
lemma extendWith_error (h : extendWith f d p id n = (d', .error e)) : f.measure ≠ none ∨
    0 < n ∧ (f.setLength ≠ none ∨ Disk.maxFileLength < n ∨ f.map ≠ none) := by
  unfold extendWith at h
  split at h
  · next hmeasure => exact .inl (by rw [hmeasure]; exact nofun)
  · right
    split at h
    · next hshort =>
      refine ⟨Nat.zero_lt_of_lt hshort, ?_⟩
      split at h
      · next hset =>
        cases hfault : f.setLength with
        | some e => exact .inl nofun
        | none =>
          rw [hfault, unlessFault_none] at hset
          refine .inr (.inl (Nat.lt_of_not_le fun hn => ?_))
          cases (d.setLength_eq id hn).symm.trans hset
      · exact .inr (.inr (ofOpenedWith_error (Prod.mk.inj h).2).1)
    · obtain ⟨hmap, hn⟩ := ofOpenedWith_error (Prod.mk.inj h).2
      exact ⟨hn, .inr (.inr hmap)⟩

end FileBacking

namespace Store

variable {κ : Type} {f : OpenFaults} {s : Store κ} {D : Path} {w g : RegistryId} {c : ClaimId}
  {o : ContentOpen} {d' : Disk}

/-! ### Traces in the content -/

/-- **An open that fails leaves a trace in the content**: the write lease of the identifier is free,
the file is made, or it is extended, and one of the later steps fails. -/
inductive LeavesTrace (f : OpenFaults) (s : Store κ) (D : Path) (w g : RegistryId) (c : ClaimId) :
    ContentOpen → Prop
  /-- A file is made for a writable mapping, and cannot be measured, extended or mapped. -/
  | unmapped {n : UInt64} {d : Disk}
      (free : (s.writerRegistry w).isWriting (s.identifier c) = false)
      (makes : s.disk.openMakingWith f (contentPath D (s.identifier c)) =
        (d, .ok s.disk.contents.size))
      (fails : f.measure ≠ none ∨ 0 < n.toNat ∧
        (f.setLength ≠ none ∨ Disk.maxFileLength < n.toNat ∨ f.map ≠ none)) :
      LeavesTrace f s D w g c (.map n false)
  /-- A file that is there is extended for a writable mapping, and cannot be mapped. -/
  | extended {n : UInt64} {d : Disk} {id : FileId}
      (free : (s.writerRegistry w).isWriting (s.identifier c) = false)
      (finds : s.disk.openMakingWith f (contentPath D (s.identifier c)) = (d, .ok id))
      (found : id < s.disk.contents.size) (shorter : (s.disk.bytes id).size < n.toNat)
      (fits : n.toNat ≤ Disk.maxFileLength) (measured : f.measure = none)
      (lengthened : f.setLength = none) (fails : f.map ≠ none) :
      LeavesTrace f s D w g c (.map n false)
  /-- A file is made for a writer that replaces, and cannot be cut: its content is mapped read-only,
  or the file refuses. -/
  | uncut {d : Disk} (free : (s.writerRegistry w).isWriting (s.identifier c) = false)
      (makes : s.disk.openMakingWith f (contentPath D (s.identifier c)) =
        (d, .ok s.disk.contents.size))
      (fails : 0 < (s.readerRegistry g).readers (s.identifier c) ∨ f.setLength ≠ none) :
      LeavesTrace f s D w g c (.write false)

/-- What fails after a file was opened for a writer, leaves the file as it is. -/
lemma exclusive_emptyFileWith {r : ReaderRegistry} {x : String} {d : Disk} {id : FileId} {p : Path}
    {e : Failure} (h : r.exclusive x (Disk.emptyFileWith f id p) d = (d', .error e)) :
    d' = d ∧ (0 < r.readers x ∨ f.setLength ≠ none) := by
  unfold ReaderRegistry.exclusive at h
  split at h
  · next hlive => exact ⟨(Prod.mk.inj h).1.symm, .inl hlive⟩
  · unfold Disk.emptyFileWith at h
    split at h
    · cases (Prod.mk.inj h).2
    · next hset =>
      refine ⟨(Prod.mk.inj h).1.symm, .inr fun hnone => ?_⟩
      rw [hnone, unlessFault_none, d.setLength_eq id (Nat.zero_le _)] at hset
      cases hset

/-- An open for writing that fails either does so before a file is opened, or after that. -/
lemma openToWriteWith_error {r : ReaderRegistry} {x : String} {d : Disk} {p : Path} {append : Bool}
    {e : Failure} (h : openToWriteWith f r x d p append = (d', .error e)) :
    d.openMakingWith f p = (d', .error e) ∨ append = false ∧
      (∃ id, d.openMakingWith f p = (d', .ok id)) ∧ (0 < r.readers x ∨ f.setLength ≠ none) := by
  unfold openToWriteWith at h
  split at h
  · next hopen =>
    obtain ⟨rfl, he⟩ := Prod.mk.inj h
    obtain rfl := Except.error.inj he
    exact .inl hopen
  · next d₁ id hopen =>
    cases append with
    | true => cases (Prod.mk.inj h).2
    | false =>
      simp only [Bool.false_eq_true, if_false] at h
      split at h
      · next hempty =>
        obtain ⟨rfl, he⟩ := Prod.mk.inj h
        obtain rfl := Except.error.inj he
        obtain ⟨rfl, hfails⟩ := exclusive_emptyFileWith hempty
        exact .inr ⟨rfl, ⟨id, hopen⟩, hfails⟩
      · cases (Prod.mk.inj h).2

/-- So does an open for a writable mapping. -/
lemma openWritableWith_error {d : Disk} {p : Path} {n : UInt64} {e : Failure}
    (h : FileBacking.openWritableWith f d p n = (d', .error e)) :
    d.openMakingWith f p = (d', .error e) ∨ ∃ d₁ id, d.openMakingWith f p = (d₁, .ok id) ∧
      FileBacking.extendWith f d₁ p id n.toNat = (d', .error e) := by
  unfold FileBacking.openWritableWith at h
  split at h
  · next hopen =>
    obtain ⟨rfl, he⟩ := Prod.mk.inj h
    obtain rfl := Except.error.inj he
    exact .inl hopen
  · next d₁ id hopen => exact .inr ⟨d₁, id, hopen, h⟩

namespace Interrupts

/-- The disk after a writable mapping that failed when its file was open. -/
lemma mapping_eq {n : UInt64} {d : Disk} {id : FileId}
    (h : Interrupts f s D w g c (.map n false) d')
    (free : (s.writerRegistry w).isWriting (s.identifier c) = false)
    (hopen : s.disk.openMakingWith f (contentPath D (s.identifier c)) = (d, .ok id)) :
    d' = (FileBacking.extendWith f d (contentPath D (s.identifier c)) id n.toNat).1 := by
  cases h with
  | reading hreads => cases hreads
  | refused htaken => cases free.symm.trans htaken
  | mapping _ opens =>
    rcases openWritableWith_error opens with hfails | ⟨d₁, id', hopens, hextend⟩
    · cases (Prod.mk.inj (hopen.symm.trans hfails)).2
    · obtain ⟨rfl, hid⟩ := Prod.mk.inj (hopen.symm.trans hopens)
      obtain rfl := Except.ok.inj hid
      rw [hextend]

/-- The disk after a writer that failed when its file was open. -/
lemma writing_eq {append : Bool} {d : Disk} {id : FileId}
    (h : Interrupts f s D w g c (.write append) d')
    (free : (s.writerRegistry w).isWriting (s.identifier c) = false)
    (hopen : s.disk.openMakingWith f (contentPath D (s.identifier c)) = (d, .ok id)) : d' = d := by
  cases h with
  | reading hreads => cases hreads
  | refused htaken => cases free.symm.trans htaken
  | writing _ opens =>
    rcases openToWriteWith_error opens with hfails | ⟨-, ⟨id', hopens⟩, -⟩
    · cases (Prod.mk.inj (hopen.symm.trans hfails)).2
    · exact (Prod.mk.inj (hopens.symm.trans hopen)).1

variable (h : Interrupts f s D w g c o d') (hd : s.disk.Sound)
include h hd

/-- **Without a trace in the content** there are new directories at most. -/
theorem widens (hn : ¬ LeavesTrace f s D w g c o) : s.disk.Widens d' := by
  cases h with
  | reading => exact .refl _
  | refused => exact .refl _
  | @mapping n d e free opens =>
    rcases openWritableWith_error opens with hopen | ⟨d₁, id, hopen, hextend⟩
    · exact Disk.widens_openMakingWith hd hopen
    · have hfails := FileBacking.extendWith_error hextend
      obtain ⟨-, ⟨hlt, hwidens⟩ | ⟨rfl, -⟩⟩ := Disk.openMakingWith_ok_cases hd hopen
      · have hdisk := FileBacking.disk_extendWith f d₁ (contentPath D (s.identifier c)) id n.toNat
        rw [hextend] at hdisk
        dsimp only at hdisk
        split at hdisk
        · next hext =>
          -- it was extended, so it is mapping it that failed
          obtain ⟨hmeasure, hshort, hset, hfits⟩ := hext
          obtain ⟨-, hmap⟩ := hfails.resolve_left (not_not_intro hmeasure)
          have hmap := (hmap.resolve_left (not_not_intro hset)).resolve_left (Nat.not_lt.2 hfits)
          rw [hwidens.bytes_eq] at hshort
          exact absurd (.extended free hopen hlt hshort hfits hmeasure hset hmap) hn
        · rw [hdisk]
          exact hwidens
      · exact absurd (.unmapped free hopen hfails) hn
  | @writing append d e free opens =>
    rcases openToWriteWith_error opens with hopen | ⟨rfl, ⟨id, hopen⟩, hfails⟩
    · exact Disk.widens_openMakingWith hd hopen
    · obtain ⟨-, ⟨-, hwidens⟩ | ⟨rfl, -⟩⟩ := Disk.openMakingWith_ok_cases hd hopen
      · exact hwidens
      · exact absurd (.uncut free hopen hfails) hn

/-- **With a trace in the content** something is stored under the identifier where nothing was
stored, or something longer. -/
theorem traced (ht : LeavesTrace f s D w g c o) :
    Disk.Gains (contentPath D (s.identifier c)) s.disk d' := by
  cases ht with
  | @unmapped n d free makes fails =>
    have hd₁ := (Disk.changes_openMakingWith hd makes).1.extends.sound hd
    have hfile := (Disk.openMakingWith_ok_cases hd makes).1
    rw [h.mapping_eq free makes, FileBacking.disk_extendWith]
    split
    · refine Disk.gains_of_made hd makes ?_ Array.size_modify
      rw [hfile, Disk.resolve_modify hd₁ hfile]
    · exact Disk.gains_of_made hd makes rfl rfl
  | @extended n d id free finds found shorter fits measured lengthened fails =>
    obtain ⟨-, ⟨-, hwidens⟩ | ⟨rfl, -⟩⟩ := Disk.openMakingWith_ok_cases hd finds
    · rw [h.mapping_eq free finds, FileBacking.disk_extendWith, hwidens.bytes_eq,
        if_pos ⟨measured, shorter, lengthened, fits⟩]
      exact Disk.gains_of_extended hd finds found shorter
    · exact absurd found (Nat.lt_irrefl _)
  | uncut free makes fails =>
    rw [h.writing_eq free makes]
    exact Disk.gains_of_made hd makes rfl rfl

/-- The disk changes along the path of the identifier. -/
lemma changes : Disk.Changes (Disk.Opening (contentPath D (s.identifier c))) s.disk d' := by
  cases h with
  | reading => exact .refl
  | refused => exact .refl
  | @mapping n d e free opens =>
    rcases openWritableWith_error opens with hopen | ⟨d₁, id, hopen, hextend⟩
    · exact (Disk.changes_openMakingWith hd hopen).1
    · obtain ⟨hc, he⟩ := Disk.changes_openMakingWith hd hopen
      have hdisk := FileBacking.disk_extendWith f d₁ (contentPath D (s.identifier c)) id n.toNat
      rw [hextend] at hdisk
      dsimp only at hdisk
      split at hdisk
      · next hext =>
        have hset := d₁.setLength_eq id hext.2.2.2
        rw [← hdisk] at hset
        exact hc.trans ((he id rfl).changes_setLength (hc.extends.sound hd) hset).1
      · rw [hdisk]
        exact hc
  | @writing append d e free opens =>
    rcases openToWriteWith_error opens with hopen | ⟨-, ⟨id, hopen⟩, -⟩
    · exact (Disk.changes_openMakingWith hd hopen).1
    · exact (Disk.changes_openMakingWith hd hopen).1

end Interrupts

end Store

end ClaimStore
