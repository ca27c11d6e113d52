import ClaimStore.Proofs.ContentPath

/-!
# Changes of a disk

Whatever an operation does to a disk, it does in small changes: a file or a directory gets a name
that was free, a file loses its name, or a file holds something else. What each of these keeps is
kept by whole operations, and what an operation cannot change is told from the changes that it may
make.

## Main definitions

* `Disk.Change`, `Disk.after` — the small changes.
* `Disk.Admits` — a change can be made.
* `Disk.Changes` — one disk comes from another one by changes of a sort.
* `Disk.Making`, `Disk.Opening` — the changes by which directories are made, and by which a file is
  opened for writing.

## Main results

* `Disk.Changes.extends` — changes extend a disk.
* `Disk.changes_makeWithParents`, `Disk.changes_makeParent` — directories are made along their path.
* `Disk.changes_openCreating` — a file is made where its path leads.
-/

set_option autoImplicit false

namespace ClaimStore

namespace Disk

/-! ### Small changes -/

/-- A small change of a disk. -/
inductive Change where
  /-- An empty file is made under a name. -/
  | addFile (parent : DirectoryId) (name : String)
  /-- An empty directory is made under a name. -/
  | addDirectory (parent : DirectoryId) (name : String)
  /-- A file loses its name. -/
  | removeName (parent : DirectoryId) (name : String)
  /-- A file holds something else. -/
  | modify (id : FileId) (f : FileData → FileData)

/-- The disk after a change. -/
def after (d : Disk) : Change → Disk
  | .addFile parent name => (d.addFile parent name).2
  | .addDirectory parent name => d.addDirectory parent name
  | .removeName parent name => d.modifyEntries parent fun l => l.filter fun x => x.1 != name
  | .modify id f => d.modify id f

/-- A name that something new can be given. -/
structure Free (d : Disk) (parent : DirectoryId) (name : String) : Prop where
  /-- The directory is there. -/
  parent_lt : parent < d.directories.size
  /-- The name is not too long. -/
  size_le : name.utf8ByteSize ≤ maxNameBytes
  /-- Nothing has the name. -/
  lookup_eq : (d.entries parent).lookup name = none

/-- The change can be made. -/
def Admits (d : Disk) : Change → Prop
  | .addFile parent name | .addDirectory parent name => d.Free parent name
  | .removeName parent name => ∃ id, (d.entries parent).lookup name = some (.file id)
  | .modify .. => True

/-- **One disk comes from another one** by changes, each of which is of a sort that may depend on
the disk that it is made on. -/
inductive Changes (P : Disk → Change → Prop) (d : Disk) : Disk → Prop
  /-- Nothing is changed. -/
  | refl : Changes P d d
  /-- One more change is made. -/
  | step {d' : Disk} {c : Change} (before : Changes P d d') (admits : d'.Admits c)
      (sort : P d' c) : Changes P d (d'.after c)

variable {P Q : Disk → Change → Prop} {d d' d'' : Disk}

namespace Changes

/-- Sequences of changes are joined. -/
lemma trans (h : Changes P d d') (h' : Changes P d' d'') : Changes P d d'' := by
  induction h' with
  | refl => exact h
  | step _ admits sort ih => exact .step ih admits sort

/-- One change that the disk admits is a sequence of changes. -/
lemma single {c : Change} (admits : d.Admits c) (sort : P d c) : Changes P d (d.after c) :=
  .step .refl admits sort

/-- Changes of a sort are changes of every larger sort. -/
lemma mono (h : Changes P d d') (hPQ : ∀ d c, P d c → Q d c) : Changes Q d d' := by
  induction h with
  | refl => exact .refl
  | step _ admits sort ih => exact .step ih admits (hPQ _ _ sort)

end Changes

/-- **A change extends a disk.** -/
lemma extends_after {c : Change} (h : d.Admits c) : d.Extends (d.after c) := by
  cases c with
  | addFile p n => exact extends_addFile h.lookup_eq
  | addDirectory p n => exact extends_addDirectory h.parent_lt h.lookup_eq
  | removeName p n => exact extends_removeName h.choose_spec
  | modify id f => exact extends_modify d id f

/-- **A name of a file after a change** was that of the file before, or the file was made. -/
lemma lookup_of_after {c : Change} {j : DirectoryId} {n : String} {id : FileId}
    (h : ((d.after c).entries j).lookup n = some (.file id)) :
    (d.entries j).lookup n = some (.file id) ∨ c = .addFile j n ∧ id = d.contents.size := by
  cases c with
  | addFile p name =>
    refine (lookup_addFile_cases h).symm.imp_right fun ⟨hp, hn, hid⟩ => ?_
    exact ⟨by rw [hp, hn], Item.file.inj hid⟩
  | addDirectory p name =>
    rcases lookup_addDirectory_cases h with h | h
    · cases h
    · exact .inl h
  | removeName p name => exact .inl (lookup_of_removeName h)
  | modify id f => exact .inl h

/-- **Changes extend a disk.** -/
lemma Changes.extends (h : Changes P d d') : d.Extends d' := by
  induction h with
  | refl => exact .refl d
  | step _ admits _ ih => exact ih.trans (extends_after admits)

/-- Changes are of another sort if each is, on a disk that extends the first one. -/
lemma Changes.imp (h : Changes P d d')
    (hPQ : ∀ d₁ c, d.Extends d₁ → P d₁ c → Q d₁ c) : Changes Q d d' := by
  induction h with
  | refl => exact .refl
  | step before admits sort ih => exact .step ih admits (hPQ _ _ before.extends sort)

/-- **A path leads where it led before**, if it led somewhere. -/
lemma Extends.locate_eq (h : d.Extends d') (hd : d.Sound) {p : Path} {spot : Spot}
    (hp : d.locate p = .ok spot) : d'.locate p = .ok spot := by
  unfold locate at hp ⊢
  split at hp
  · cases hp
  next hnul =>
  split at hp
  · cases hp
  next hempty =>
  split at hp
  · cases hp
  next hshort =>
  rw [if_neg hnul, if_neg hempty, if_neg hshort]
  split at hp
  · exact hp
  · split at hp
    · cases hp
    · next i hw =>
      have hi := walk_lt hd hd.root_lt hw
      rw [h.walk_eq hd hd.root_lt hw]
      dsimp only
      rw [h.parent_eq i hi]
      exact hp

/-! ### Directories that are made -/

/-- A directory is made along a path of these components. -/
def Making (cs : List String) (d : Disk) (c : Change) : Prop :=
  ∃ ps j n, c = .addDirectory j n ∧ d.walk root ps = .ok j ∧ n ≠ "." ∧ n ≠ ".." ∧ ps ++ [n] <+: cs

/-- A directory on the way is one on every longer way. -/
lemma Making.mono {cs cs' : List String} {c : Change} (h : Making cs d c) (hcs : cs <+: cs') :
    Making cs' d c := by
  obtain ⟨ps, j, n, hc, hw, hdot, hdots, hp⟩ := h
  exact ⟨ps, j, n, hc, hw, hdot, hdots, hp.trans hcs⟩

/-- A name that is free when it is looked up. -/
lemma free_of_lookupName (hd : d.Sound) {p : Path} {j : DirectoryId} {name : String}
    (hp : d.locate p = .ok (.name j name)) (hl : d.lookupName j name = .ok none) :
    d.Free j name where
  parent_lt := locate_lt hd hp
  size_le := Nat.le_of_not_lt fun hlong => by
    rw [lookupName, if_pos hlong] at hl
    cases hl
  lookup_eq := lookupName_ok hl

/-- A directory is made on the way of its path. -/
lemma changes_makeDirectory (hd : d.Sound) {p : Path} (h : d.makeDirectory p = .ok d') :
    Changes (Making p.components) d d' := by
  unfold makeDirectory at h
  split at h
  · cases h
  · cases h
  · next j n hp =>
    split at h
    · cases h
    · cases h
    · next hl =>
      obtain rfl := Except.ok.inj h
      obtain ⟨cs, hcs, hw, hdot, hdots⟩ := walk_of_locate_name hp
      exact .single (c := .addDirectory j n) (free_of_lookupName hd hp hl)
        ⟨cs, j, n, rfl, hw, hdot, hdots, hcs ▸ List.prefix_rfl⟩

/-- **Directories are made along their path**, also where that fails.

**Proof sketch.** Induction on the generations: the components of a parent begin those of the
path. -/
lemma changes_makeWithParents (generations : Nat) (hd : d.Sound) (p : Path) :
    Changes (Making p.components) d (d.makeWithParents generations p).1 := by
  induction generations generalizing d p with
  | zero => exact .refl
  | succ generations ih =>
    unfold makeWithParents
    split
    · exact .refl
    · split
      · next d' h => exact changes_makeDirectory hd h
      · split
        · split
          · exact .refl
          · next q hq =>
            have hprefix := (Path.components_parent? hq).trans (List.dropLast_prefix _)
            have hparents := (ih hd q).mono (Q := Making p.components)
              fun _ _ h => h.mono hprefix
            split
            · next d' e' h =>
              rw [h] at hparents
              exact hparents
            · next d' h =>
              rw [h] at hparents
              split
              · next d'' h' =>
                exact hparents.trans (changes_makeDirectory (hparents.extends.sound hd) h')
              · split <;> exact hparents
        · split <;> exact .refl

/-! ### Files that are opened -/

/-- A change that an open for writing at a path may make: of directories above the last component,
of the name that the path leads to, and of the file that has this name. -/
inductive Opening (p : Path) (d : Disk) : Change → Prop
  /-- A directory above is made. -/
  | above {c : Change} (making : Making p.components.dropLast d c) : Opening p d c
  /-- The file is made. -/
  | make {j : DirectoryId} {n : String} (locate_eq : d.locate p = .ok (.name j n)) :
      Opening p d (.addFile j n)
  /-- The file is changed. -/
  | modify {j : DirectoryId} {n : String} {id : FileId} {f : FileData → FileData}
      (locate_eq : d.locate p = .ok (.name j n))
      (lookup_eq : (d.entries j).lookup n = some (.file id)) : Opening p d (.modify id f)

/-- No file is made while directories are. -/
lemma not_making_addFile {cs : List String} {j : DirectoryId} {n : String} :
    ¬ Making cs d (.addFile j n) := by
  rintro ⟨_, _, _, h, -⟩
  cases h

/-- **The directory of a path is made above its last component.** -/
lemma changes_makeParent (hd : d.Sound) (p : Path) :
    Changes (Making p.components.dropLast) d (d.makeParent p).1 := by
  unfold makeParent
  split
  · exact .refl
  · next q hq =>
    have hmade := (changes_makeWithParents (q.depth + 1) hd q).mono
      (Q := Making p.components.dropLast) fun _ _ h => h.mono (Path.components_parent? hq)
    split <;> next h => rw [makeDirectories] at h; rw [h] at hmade; exact hmade

/-- **A file is made where its path leads.** It has the name that the path leads to. -/
lemma changes_openCreating (hd : d.Sound) {p : Path} {id : FileId}
    (h : d.openCreating p = .ok (id, d')) :
    Changes (Opening p) d d' ∧ ∃ j n, d'.locate p = .ok (.name j n) ∧
      (d'.entries j).lookup n = some (.file id) := by
  unfold openCreating at h
  split at h
  · cases h
  · cases h
  · next j n hp =>
    split at h
    · cases h
    · split at h
      · cases h
      · cases h
      · next hl =>
        obtain ⟨rfl, rfl⟩ := Prod.mk.inj (Except.ok.inj h)
        exact ⟨.refl, j, n, hp, lookupName_ok hl⟩
      · next hl =>
        have hadd := Except.ok.inj h
        obtain rfl : d' = d.after (.addFile j n) := (congrArg Prod.snd hadd).symm
        obtain rfl : id = d.contents.size := (congrArg Prod.fst hadd).symm
        have hfree := free_of_lookupName hd hp hl
        have hchange : Changes (Opening p) d (d.after (.addFile j n)) :=
          .single (c := .addFile j n) hfree (.make hp)
        refine ⟨hchange, j, n, ?_, ?_⟩
        · exact hchange.extends.locate_eq hd hp
        · show ((d.addFile j n).2.entries j).lookup n = _
          rw [entries_addFile, if_pos ⟨rfl, hfree.parent_lt⟩, List.lookup_cons_self]

end Disk

end ClaimStore
