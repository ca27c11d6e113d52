import ClaimStore.Proofs.ContentPath
import ClaimStore.Proofs.Shelf

/-!
# The contents of a directory

A directory holds under each identifier the bytes of the file of that name, and mappings see no more
of a file than its bytes. A change of what one file holds changes the bytes under one identifier,
and so do a file that is made and one that is removed.

## Main definitions

* `Disk.Holds` — the contents of a directory.

## Main results

* `Holds.modify`, `Holds.setLength` — a change of what one file holds, or of its length.
* `Holds.openCreating`, `Holds.unlink` — a file that is opened for writing and one that is removed.
* `Holds.storedLength_eq` — the length of what is stored.
-/

set_option autoImplicit false

namespace ClaimStore

/-! ### Files without more than their bytes -/

namespace FileData

/-- Writing back changes nothing. -/
lemma flush_ofBytes (v : Bytes) (n : Nat) : (ofBytes v).flush n = ofBytes v := by
  unfold flush
  split <;> rfl

/-- As many other bytes, written through a mapping. -/
lemma writeView_ofBytes {v v' : Bytes} (h : v'.size = v.size) :
    (ofBytes v).writeView v' = ofBytes v' := by
  have hbytes : v'.take v.size ++ v.drop v'.size = v' := by
    apply Bytes.ext
    rw [Bytes.toList_append, Bytes.toList_take, Bytes.toList_drop, List.take_of_length_le,
      List.drop_eq_nil_of_le, List.append_nil]
    · exact Nat.le_of_eq (v.length_toList.trans h.symm)
    · exact Nat.le_of_eq (v'.length_toList.trans h)
  have hslack : v'.drop v.size ++ Bytes.empty.drop (v'.size - v.size) = Bytes.empty := by
    apply Bytes.ext
    rw [Bytes.toList_append, Bytes.toList_drop, Bytes.toList_drop, Bytes.toList_empty,
      List.drop_eq_nil_of_le, List.drop_nil, List.append_nil]
    exact Nat.le_of_eq (v'.length_toList.trans h)
  unfold writeView ofBytes
  dsimp only
  rw [hbytes, hslack]

/-- Bytes that are laid after the last one. -/
lemma overwrite_ofBytes (v p : Bytes) : (ofBytes v).overwrite v.size p = ofBytes (v ++ p) := by
  have hbytes : Bytes.patch v.size p v = v ++ p := by
    apply Bytes.ext
    rw [Bytes.toList_patch, Bytes.fit_size, List.drop_eq_nil_of_le, List.append_nil,
      Bytes.toList_append]
    rw [Bytes.length_toList]
    omega
  have hslack : Bytes.empty.drop (v.size + p.size - v.size) = Bytes.empty := by
    apply Bytes.ext
    rw [Bytes.toList_drop, Bytes.toList_empty, List.drop_nil]
  unfold overwrite ofBytes
  dsimp only
  rw [hbytes, hslack]

end FileData

namespace Disk

variable {d : Disk} {directory : Path} {i : DirectoryId} {C : String → Option Bytes} {x : String}
  {id : FileId} {v : Bytes}

/-- What old files hold after one was made. -/
lemma data_addFile (p : DirectoryId) (name : String) (hid : id < d.contents.size) :
    (d.addFile p name).2.data id = d.data id := by
  have hget : (d.addFile p name).2.contents[id]? = d.contents[id]? := by
    show (d.contents.push _)[id]? = _
    rw [Array.getElem?_push, if_neg (Nat.ne_of_lt hid)]
  rw [data, data, hget]

/-- A file that was made holds nothing. -/
lemma data_addFile_self (p : DirectoryId) (name : String) :
    (d.addFile p name).2.data d.contents.size = .ofBytes .empty := by
  have hget : (d.addFile p name).2.contents[d.contents.size]? = some (.ofBytes .empty) := by
    show (d.contents.push _)[d.contents.size]? = _
    rw [Array.getElem?_push, if_pos rfl]
  rw [data, hget]

/-! ### Contents -/

/-- **The contents of a directory**, under the identifiers that the disk takes. -/
structure Holds (d : Disk) (directory : Path) (i : DirectoryId) (C : String → Option Bytes) :
    Prop where
  /-- The disk is sound. -/
  sound : d.Sound
  /-- The path leads to the directory. -/
  walk_eq : d.walk root directory.components = .ok i
  /-- An identifier without bytes is free. -/
  absent : ∀ x, Nameable directory x → C x = none → (d.entries i).lookup x = none
  /-- An identifier with bytes is the name of a file of these bytes. -/
  present : ∀ x v, Nameable directory x → C x = some v →
    ∃ id, (d.entries i).lookup x = some (.file id) ∧ d.data id = .ofBytes v

namespace Holds

variable (h : Holds d directory i C) (hx : Nameable directory x)

include h hx

/-- Under an identifier with a file there are the bytes of the file. -/
lemma data_eq (hl : (d.entries i).lookup x = some (.file id)) :
    ∃ v, C x = some v ∧ d.data id = .ofBytes v := by
  cases hv : C x with
  | none =>
    rw [h.absent x hx hv] at hl
    cases hl
  | some v =>
    obtain ⟨id', hl', hdata⟩ := h.present x v hx hv
    rw [hl] at hl'
    obtain rfl := Item.file.inj (Option.some.inj hl')
    exact ⟨v, rfl, hdata⟩

/-- A path to nothing. -/
lemma resolve_none (hv : C x = none) :
    d.resolve (contentPath directory x) = .error (.os .notFound) := by
  unfold resolve
  rw [hx.locate_eq h.walk_eq]
  dsimp only
  rw [hx.lookupName_eq, h.absent x hx hv]

/-- A path to a file. -/
lemma resolve_some (hl : (d.entries i).lookup x = some (.file id)) :
    d.resolve (contentPath directory x) = .ok (.file id) := by
  unfold resolve
  rw [hx.locate_eq h.walk_eq]
  dsimp only
  rw [hx.lookupName_eq, hl]
  dsimp only
  rw [hx.plain.endsInSlash_contentPath]
  rfl

/-- **The length of what is stored.** -/
lemma storedLength_eq :
    d.storedLength (contentPath directory x) = .ok ((C x).map Bytes.size) := by
  unfold storedLength
  cases hv : C x with
  | none => rw [h.resolve_none hx hv, Option.map_none]
  | some v =>
    obtain ⟨id, hl, hdata⟩ := h.present x v hx hv
    rw [h.resolve_some hx hl, Option.map_some]
    dsimp only
    rw [bytes, hdata]
    rfl

/-- **A change of what one file holds.** -/
lemma modify (hl : (d.entries i).lookup x = some (.file id)) {f : FileData → FileData}
    (hv : f (d.data id) = .ofBytes v) :
    Holds (d.modify id f) directory i (Shelf.update C x (some v)) where
  sound := (extends_modify d id f).sound h.sound
  walk_eq := (extends_modify d id f).walk_eq h.sound h.sound.root_lt h.walk_eq
  absent y hy hnone := by
    have hne : y ≠ x := by
      intro heq
      rw [heq, Shelf.update_self] at hnone
      cases hnone
    rw [Shelf.update, if_neg hne] at hnone
    exact h.absent y hy hnone
  present y w hy hw := by
    by_cases heq : y = x
    · subst heq
      rw [Shelf.update_self] at hw
      obtain rfl := Option.some.inj hw
      refine ⟨id, hl, ?_⟩
      rw [data_modify, if_pos ⟨rfl, h.sound.file_lt i y id hl⟩, hv]
    · rw [Shelf.update, if_neg heq] at hw
      obtain ⟨id', hl', hdata⟩ := h.present y w hy hw
      refine ⟨id', hl', ?_⟩
      rw [data_modify, if_neg, hdata]
      rintro ⟨rfl, -⟩
      exact heq (h.sound.name_inj i i y x id hl' hl).2

/-- **A file that is cut or zero-padded.** -/
lemma setLength (hl : (d.entries i).lookup x = some (.file id)) (hv : C x = some v) {n : Nat}
    (hn : n ≤ maxFileLength) : ∃ d', d.setLength id n = .ok d' ∧
      Holds d' directory i (Shelf.update C x (some (v.fit n))) ∧
      (d'.entries i).lookup x = some (.file id) := by
  obtain ⟨w, hw, hdata⟩ := h.data_eq hx hl
  obtain rfl : v = w := Option.some.inj (hv.symm.trans hw)
  refine ⟨d.modify id (·.setLength n), d.setLength_eq id hn, h.modify hx hl ?_, hl⟩
  rw [hdata]
  rfl

/-- A file that is made. -/
lemma addFile (hl : (d.entries i).lookup x = none) :
    Holds (d.addFile i x).2 directory i (Shelf.update C x (some .empty)) ∧
      ((d.addFile i x).2.entries i).lookup x = some (.file d.contents.size) := by
  have hext := extends_addFile hl
  have hi : i < d.directories.size := walk_lt h.sound h.sound.root_lt h.walk_eq
  have hself : ((d.addFile i x).2.entries i).lookup x = some (.file d.contents.size) := by
    rw [entries_addFile, if_pos ⟨rfl, hi⟩, List.lookup_cons_self]
  have hother : ∀ y, y ≠ x → ((d.addFile i x).2.entries i).lookup y = (d.entries i).lookup y := by
    intro y hy
    rw [entries_addFile, if_pos ⟨rfl, hi⟩, List.lookup_cons, beq_false_of_ne hy]
  refine ⟨⟨hext.sound h.sound, hext.walk_eq h.sound h.sound.root_lt h.walk_eq, fun y hy hnone => ?_,
    fun y w hy hw => ?_⟩, hself⟩
  · have hne : y ≠ x := by
      intro heq
      rw [heq, Shelf.update_self] at hnone
      cases hnone
    rw [Shelf.update, if_neg hne] at hnone
    rw [hother y hne]
    exact h.absent y hy hnone
  · by_cases heq : y = x
    · subst heq
      rw [Shelf.update_self] at hw
      obtain rfl := Option.some.inj hw
      exact ⟨_, hself, data_addFile_self i y⟩
    · rw [Shelf.update, if_neg heq] at hw
      obtain ⟨id', hl', hdata⟩ := h.present y w hy hw
      refine ⟨id', by rw [hother y heq, hl'], ?_⟩
      rw [data_addFile i x (h.sound.file_lt i y id' hl'), hdata]

/-- **A file that is opened for writing** is made where it is missing. -/
lemma openCreating : ∃ id d', d.openCreating (contentPath directory x) = .ok (id, d') ∧
    Holds d' directory i (Shelf.update C x (some ((C x).getD .empty))) ∧
      (d'.entries i).lookup x = some (.file id) := by
  unfold Disk.openCreating
  rw [hx.locate_eq h.walk_eq]
  dsimp only
  rw [hx.plain.endsInSlash_contentPath, hx.lookupName_eq]
  simp only [Bool.false_eq_true, if_false]
  cases hv : C x with
  | none =>
    have hl := h.absent x hx hv
    obtain ⟨hholds, hname⟩ := h.addFile hx hl
    rw [hl]
    exact ⟨d.contents.size, (d.addFile i x).2, rfl, hholds, hname⟩
  | some v =>
    obtain ⟨id, hl, -⟩ := h.present x v hx hv
    rw [hl]
    refine ⟨id, d, rfl, ?_, hl⟩
    rw [Shelf.update_eq_self (by rw [hv]; rfl)]
    exact h

/-- **A file that is removed.** -/
lemma unlink (hl : (d.entries i).lookup x = some (.file id)) :
    ∃ d', d.unlink (contentPath directory x) = .ok d' ∧
      Holds d' directory i (Shelf.update C x none) := by
  have hunlink : d.unlink (contentPath directory x) =
      .ok (d.modifyEntries i fun l => l.filter fun p => p.1 != x) := by
    unfold Disk.unlink
    rw [hx.locate_eq h.walk_eq]
    dsimp only
    rw [hx.lookupName_eq, hl]
    dsimp only
    rw [hx.plain.endsInSlash_contentPath]
    rfl
  obtain ⟨hext, -⟩ := extends_unlink hunlink
  have hi : i < d.directories.size := walk_lt h.sound h.sound.root_lt h.walk_eq
  have hentries : ∀ y,
      ((d.modifyEntries i fun l => l.filter fun p => p.1 != x).entries i).lookup y =
      if y = x then none else (d.entries i).lookup y := by
    intro y
    rw [entries_modifyEntries, if_pos ⟨rfl, hi⟩, lookup_filter_ne]
  refine ⟨_, hunlink, hext.sound h.sound, hext.walk_eq h.sound h.sound.root_lt h.walk_eq,
    fun y hy hnone => ?_, fun y w hy hw => ?_⟩
  · rw [hentries]
    split
    · rfl
    · next hne =>
      rw [Shelf.update, if_neg hne] at hnone
      exact h.absent y hy hnone
  · have hne : y ≠ x := by
      intro heq
      rw [heq, Shelf.update_self] at hw
      cases hw
    rw [Shelf.update, if_neg hne] at hw
    obtain ⟨id', hl', hdata⟩ := h.present y w hy hw
    exact ⟨id', by rw [hentries, if_neg hne, hl'], hdata⟩

/-- A file that is not there is not removed. -/
lemma unlink_none (hv : C x = none) :
    d.unlink (contentPath directory x) = .error (.os .notFound) := by
  unfold Disk.unlink
  rw [hx.locate_eq h.walk_eq]
  dsimp only
  rw [hx.lookupName_eq, h.absent x hx hv]

end Holds

end Disk

end ClaimStore
