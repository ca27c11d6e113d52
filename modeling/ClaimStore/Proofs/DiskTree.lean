import Mathlib.Data.List.Induction
import ClaimStore.Proofs.DiskRuns
import ClaimStore.Proofs.PlainName

/-!
# The tree of directories

A directory gets its name when it is made, in a directory that was there before, and no other name
later. So there is one way at most that leads downwards from one directory to another, and
identifiers that only lead downwards lead to the same name only by the same names.

## Main definitions

* `ClaimStore.trail`, `ClaimStore.Descends` — the names by which an identifier leads on, and that
  these lead downwards.
* `Disk.Tree` — each directory has one name at most, in an older one.
* `Disk.Inside` — a directory is reached downwards from another one.

## Main results

* `Disk.tree_runUnder` — the directories of every run are a tree.
* `Disk.Tree.walk_inj` — one way at most leads downwards.
* `Descends.trail_eq` — identifiers that lead downwards to the same name have the same names.
* `Nested.ext` — identifiers of the same plain names are the same.
-/

set_option autoImplicit false

namespace ClaimStore

/-! ### Identifiers that lead downwards -/

/-- None of the names stands for a directory itself or for the one above. -/
def Downwards (ns : List String) : Prop := ∀ n ∈ ns, n ≠ "." ∧ n ≠ ".."

/-- The names by which an identifier leads on, without those that lead nowhere. -/
def trail (x : String) : List String := (Path.ofString x).components.filter (· != ".")

/-- The identifier does not begin at the root, never leads upwards, and is not empty. -/
structure Descends (x : String) : Prop where
  /-- The identifier does not begin at the root. -/
  isRooted_eq : (Path.ofString x).isRooted = false
  /-- It never leads upwards. -/
  dots_notMem : ".." ∉ (Path.ofString x).components
  /-- It names something. -/
  components_ne_nil : (Path.ofString x).components ≠ []

/-- The trail of an identifier that only descends goes downwards. -/
lemma Descends.downwards {x : String} (hx : Descends x) : Downwards (trail x) := by
  intro n hn
  obtain ⟨hmem, hdot⟩ := List.mem_filter.1 hn
  exact ⟨bne_iff_ne.1 hdot, fun h => hx.dots_notMem (h ▸ hmem)⟩

/-- Splitting at slashes loses nothing. -/
lemma Path.splitSlashes_inj {l l' : List Char} (h : splitSlashes l = splitSlashes l') : l = l' := by
  induction l generalizing l' with
  | nil =>
    cases l' with
    | nil => rfl
    | cons c' l' =>
      rw [splitSlashes, splitSlashes] at h
      split at h <;> cases h
  | cons c l ih =>
    cases l' with
    | nil =>
      rw [splitSlashes, splitSlashes] at h
      split at h <;> cases h
    | cons c' l' =>
      rw [splitSlashes, splitSlashes] at h
      by_cases hc : c = '/' <;> by_cases hc' : c' = '/' <;>
        simp only [hc, hc', if_true, if_false, Prod.mk.injEq, List.cons.injEq, reduceCtorEq,
          false_and, true_and] at h
      · rw [hc, hc', ih (Prod.ext h.1 h.2)]
      · rw [h.1.1, ih (Prod.ext h.1.2 h.2)]

namespace Nested

variable {x y : String}

/-- **Identifiers of the same plain names are the same.** -/
lemma ext (h : names x = names y) : x = y := by
  obtain ⟨hfirst, hrest⟩ := List.cons.inj h
  have hlist : Function.Injective String.ofList := fun l l' hl => by
    simpa using congrArg String.toList hl
  exact String.toList_inj.1
    (Path.splitSlashes_inj (Prod.ext (hlist hfirst) (hlist.list_map hrest)))

/-- The names of an identifier of plain names are its trail. -/
lemma trail_eq (hx : Nested x) : trail x = names x := by
  rw [trail, Path.components, show (Path.ofString x).segments = names x from rfl, hx.filter_names]
  exact List.filter_eq_self.2 fun n hn => bne_iff_ne.2 (hx n hn).ne_dot

/-- An identifier of plain names leads downwards. -/
lemma descends (hx : Nested x) : Descends x where
  isRooted_eq := hx.isRooted_ofString
  dots_notMem h := (hx _ (List.mem_filter.1 h).1).ne_dots rfl
  components_ne_nil := by
    rw [Path.components, show (Path.ofString x).segments = names x from rfl, hx.filter_names]
    exact names_ne_nil x

end Nested

/-! ### The tree -/

namespace Disk

variable {d d' : Disk} {i j k : DirectoryId} {n : String}

/-- **Each directory has one name at most**, in a directory that is older. -/
structure Tree (d : Disk) : Prop where
  /-- A directory is in an older one. -/
  lt : ∀ i n j, (d.entries i).lookup n = some (.directory j) → i < j
  /-- It has one name at most. -/
  name_inj : ∀ i i' n n' j, (d.entries i).lookup n = some (.directory j) →
    (d.entries i').lookup n' = some (.directory j) → i = i' ∧ n = n'

/-- A disk with one empty directory is a tree. -/
lemma tree_withDirectory (name : String) : (withDirectory name).Tree := by
  have named : ∀ {i n j}, ((withDirectory name).entries i).lookup n = some (.directory j) →
      i = root ∧ n = name ∧ j = 1 := by
    intro i n j h
    match i with
    | 0 =>
      rw [show (withDirectory name).entries 0 = [(name, .directory 1)] from rfl] at h
      rcases lookup_cons_cases h with ⟨hn, hj⟩ | h
      · exact ⟨rfl, hn, Item.directory.inj hj⟩
      · cases h
    | 1 => cases h
    | i + 2 => cases h
  constructor
  · intro i n j h
    obtain ⟨rfl, -, rfl⟩ := named h
    exact Nat.zero_lt_one
  · intro i i' n n' j h h'
    obtain ⟨rfl, rfl, -⟩ := named h
    obtain ⟨rfl, rfl, -⟩ := named h'
    exact ⟨rfl, rfl⟩

/-- **A directory after a change** had its name before, or it was made. -/
lemma directory_of_after {c : Change} (h : ((d.after c).entries i).lookup n = some (.directory j)) :
    (d.entries i).lookup n = some (.directory j) ∨
      c = .addDirectory i n ∧ j = d.directories.size := by
  cases c with
  | addFile p name =>
    rcases lookup_addFile_cases h with ⟨-, -, hx⟩ | h
    · cases hx
    · exact .inl h
  | addDirectory p name =>
    change ((d.addDirectory p name).entries i).lookup n = _ at h
    rw [entries_addDirectory] at h
    split at h
    · next hp =>
      rcases lookup_cons_cases h with ⟨rfl, hj⟩ | h
      · exact .inr ⟨by rw [hp.1], Item.directory.inj hj⟩
      · exact .inl h
    · exact .inl h
  | removeName p name => exact .inl (lookup_of_removeName h)
  | modify id f => exact .inl h

/-- **Changes keep the tree.** -/
lemma Tree.after (t : d.Tree) (hd : d.Sound) {c : Change} (ha : d.Admits c) : (d.after c).Tree where
  lt i n j h := by
    rcases directory_of_after h with h | ⟨rfl, rfl⟩
    · exact t.lt i n j h
    · exact ha.parent_lt
  name_inj i i' n n' j h h' := by
    -- a directory that is made has a new number
    have hnew : ∀ {i n}, (d.entries i).lookup n ≠ some (.directory d.directories.size) :=
      fun h => Nat.lt_irrefl _ (hd.directory_lt _ _ _ h)
    rcases directory_of_after h with h | ⟨rfl, rfl⟩ <;>
      rcases directory_of_after h' with h' | ⟨hc, hj⟩
    · exact t.name_inj i i' n n' j h h'
    · exact absurd (hj ▸ h) hnew
    · exact absurd h' hnew
    · cases hc
      exact ⟨rfl, rfl⟩

/-- Changes keep the directories a tree. -/
lemma Changes.tree {P : Disk → Change → Prop} (h : Changes P d d') (t : d.Tree) (hd : d.Sound) :
    d'.Tree := by
  induction h with
  | refl => exact t
  | step before admits _ ih => exact ih.after (before.extends.sound hd) admits

/-- **A directory after changes** had its name before, if its number is not a new one. -/
lemma Changes.directory_back {P : Disk → Change → Prop} (h : Changes P d d')
    (hj : j < d.directories.size) (hl : (d'.entries i).lookup n = some (.directory j)) :
    (d.entries i).lookup n = some (.directory j) := by
  induction h with
  | refl => exact hl
  | step before _ _ ih =>
    rcases directory_of_after hl with hl | ⟨-, rfl⟩
    · exact ih hl
    · exact absurd hj (Nat.not_lt.2 before.extends.directories_le)

/-! ### Walks downwards -/

variable {ns ms : List String}

/-- The last step of a walk downwards. -/
lemma walk_concat_ok (hn : n ≠ "." ∧ n ≠ "..") (h : d.walk k (ns ++ [n]) = .ok j) :
    ∃ i, d.walk k ns = .ok i ∧ (d.entries i).lookup n = some (.directory j) := by
  rw [walk_concat] at h
  cases hw : d.walk k ns with
  | error e =>
    rw [hw] at h
    cases h
  | ok i =>
    rw [hw] at h
    exact ⟨i, rfl, lookupName_ok (lookupName_of_enter hn.1 hn.2 h)⟩

/-- A walk is the one that leaves out what leads nowhere. -/
lemma walk_filter (d : Disk) (k : DirectoryId) (cs : List String) :
    d.walk k cs = d.walk k (cs.filter (· != ".")) := by
  induction cs generalizing k with
  | nil => rfl
  | cons c cs ih =>
    by_cases hc : c = "."
    · subst hc
      exact ih k
    · rw [List.filter_cons, if_pos (bne_iff_ne.2 hc), walk, walk]
      cases d.enter k c with
      | error e => rfl
      | ok i => exact ih i

/-- Walks downwards lead to younger directories. -/
lemma Tree.walk_le (t : d.Tree) (hns : Downwards ns) (h : d.walk k ns = .ok j) :
    k + ns.length ≤ j := by
  induction ns generalizing k with
  | nil => exact Nat.le_of_eq (Except.ok.inj h)
  | cons n ns ih =>
    obtain ⟨hn, hns⟩ := List.forall_mem_cons.1 hns
    rw [walk] at h
    split at h
    · cases h
    · next i he =>
      have hlt := t.lt k n i (lookupName_ok (lookupName_of_enter hn.1 hn.2 he))
      calc k + (ns.length + 1) = k + 1 + ns.length := by rw [Nat.add_assoc, Nat.add_comm 1]
        _ ≤ i + ns.length := Nat.add_le_add_right hlt _
        _ ≤ j := ih hns h

/-- **One way at most leads downwards** from one directory to another.

**Proof sketch.** Induction from the last name on: a directory has one name in one directory, and no
way leads back to where it begins. -/
lemma Tree.walk_inj (t : d.Tree) (hns : Downwards ns) (hms : Downwards ms)
    (h : d.walk k ns = .ok j) (h' : d.walk k ms = .ok j) : ns = ms := by
  have back : ∀ {l : List String} {n : String}, Downwards (l ++ [n]) →
      d.walk k (l ++ [n]) ≠ .ok k := fun hl hw => by
    have hle := t.walk_le hl hw
    rw [List.length_append, List.length_singleton, ← Nat.add_assoc] at hle
    exact Nat.not_succ_le_self _ (Nat.le_trans (Nat.add_le_add_right (Nat.le_add_right k _) 1) hle)
  induction ns using List.reverseRecOn generalizing ms j with
  | nil =>
    obtain rfl := Except.ok.inj h
    rcases List.eq_nil_or_concat' ms with rfl | ⟨ms, m, rfl⟩
    · rfl
    · exact absurd h' (back hms)
  | append_singleton ns n ih =>
    rcases List.eq_nil_or_concat' ms with rfl | ⟨ms, m, rfl⟩
    · obtain rfl := Except.ok.inj h'
      exact absurd h (back hns)
    · obtain ⟨i, hi, hn⟩ := walk_concat_ok (hns n (by simp)) h
      obtain ⟨i', hi', hm⟩ := walk_concat_ok (hms m (by simp)) h'
      obtain ⟨rfl, rfl⟩ := t.name_inj i i' n m j hn hm
      rw [ih (fun a ha => hns a (by simp [ha])) (fun a ha => hms a (by simp [ha])) hi hi']

/-- **A directory is reached downwards from another one.** -/
def Inside (d : Disk) (k i : DirectoryId) : Prop := ∃ ns, Downwards ns ∧ d.walk k ns = .ok i

/-- A directory stays inside another one when the disk is extended. -/
lemma Inside.extends (h : d.Inside k i) (he : d.Extends d') (hd : d.Sound)
    (hk : k < d.directories.size) : d'.Inside k i := by
  obtain ⟨ns, hns, hw⟩ := h
  exact ⟨ns, hns, he.walk_eq hd hk hw⟩

/-- **A walk downwards that did not lead to a new directory** led there before. -/
lemma Changes.walk_back {P : Disk → Change → Prop} (h : Changes P d d') (t : d'.Tree)
    (hns : Downwards ns) (hj : j < d.directories.size) (hw : d'.walk k ns = .ok j) :
    d.walk k ns = .ok j := by
  induction ns using List.reverseRecOn generalizing j with
  | nil => exact hw
  | append_singleton ns n ih =>
    have hn := hns n (by simp)
    have hshort : n.utf8ByteSize ≤ maxNameBytes := by
      rw [walk_concat] at hw
      cases hw' : d'.walk k ns with
      | error e =>
        rw [hw'] at hw
        cases hw
      | ok i =>
        rw [hw'] at hw
        have hl := lookupName_of_enter hn.1 hn.2 hw
        unfold lookupName at hl
        split at hl
        · cases hl
        · next hle => exact Nat.le_of_not_lt hle
    obtain ⟨i, hi, hl⟩ := walk_concat_ok hn hw
    have hij := t.lt i n j hl
    rw [walk_concat, ih (fun a ha => hns a (by simp [ha])) (Nat.lt_trans hij hj) hi]
    show d.enter i n = .ok j
    rw [enter, if_neg hn.1, if_neg hn.2, lookupName, if_neg (Nat.not_lt.2 hshort),
      h.directory_back hj hl]

end Disk

/-! ### Where identifiers lead -/

section Leads

variable {d : Disk} {D : Path} {x y : String} {i : DirectoryId} {n : String}

/-- **An identifier that leads downwards** leads to its last name, in a directory inside that of its
repository. -/
lemma Descends.walk_of_locate (hx : Descends x)
    (h : d.locate (contentPath D x) = .ok (.name i n)) :
    ∃ k ns, d.walk Disk.root D.components = .ok k ∧ d.walk k ns = .ok i ∧ trail x = ns ++ [n] := by
  obtain ⟨cs, hcs, hw, hdot, -⟩ := Disk.walk_of_locate_name h
  rw [contentPath, Path.components_join hx.isRooted_eq] at hcs
  obtain ⟨ys, y, hys⟩ := (List.eq_nil_or_concat' _).resolve_left hx.components_ne_nil
  rw [hys, ← List.append_assoc] at hcs
  obtain ⟨rfl, hlast⟩ := List.append_inj' hcs rfl
  obtain rfl := List.singleton_inj.1 hlast
  rw [Disk.walk_append] at hw
  cases hk : d.walk Disk.root D.components with
  | error e =>
    rw [hk] at hw
    cases hw
  | ok k =>
    rw [hk] at hw
    refine ⟨k, ys.filter (· != "."), rfl, (d.walk_filter k ys).symm.trans hw, ?_⟩
    rw [trail, hys, List.filter_append]
    simp [hdot]

/-- The names that come before the last one lead downwards. -/
lemma Descends.downwards_init (hx : Descends x) {ns : List String} (h : trail x = ns ++ [n]) :
    Downwards ns := fun m hm => hx.downwards m (by rw [h]; exact List.mem_append_left _ hm)

/-- **Identifiers that lead downwards to the same name** have the same names. -/
lemma Descends.trail_eq (hx : Descends x) (hy : Descends y) (t : d.Tree)
    (h : d.locate (contentPath D x) = .ok (.name i n))
    (h' : d.locate (contentPath D y) = .ok (.name i n)) : trail x = trail y := by
  obtain ⟨k, ns, hk, hns, hxs⟩ := hx.walk_of_locate h
  obtain ⟨k', ms, hk', hms, hys⟩ := hy.walk_of_locate h'
  obtain rfl := Except.ok.inj (hk.symm.trans hk')
  rw [hxs, hys, t.walk_inj (hx.downwards_init hxs) (hy.downwards_init hys) hns hms]

end Leads

/-! ### Runs -/

/-- **The directories of every run are a tree.** -/
lemma Disk.tree_runUnder {κ : Type} [DecidableEq κ] [ToString κ] (name : String)
    (ops : List (Faults × Operation κ)) :
    ((Store.onDirectory name : Store κ).runUnder ops).disk.Tree :=
  (Store.disk_induction (P := Disk.Tree) (fun _ _ hd ha t => t.after hd ha)
    (Store.sound_onDirectory name) (Disk.sound_withDirectory name) (tree_withDirectory name) ops).2

end ClaimStore
