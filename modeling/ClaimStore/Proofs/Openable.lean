import ClaimStore.Proofs.Confinement
import ClaimStore.Proofs.FileContents
import ClaimStore.Proofs.Presence

/-!
# Files that can be opened for writing

An open for writing makes the directory of its path where that is missing, with all its parents,
and then the file. It succeeds where content is stored, and where nothing is in the way to the
content of an identifier of plain names. A file that is opened for a writable mapping is extended to
the length asked for where it is shorter, and never cut.

## Main definitions

* `Disk.Openable` — a file can be opened for writing.

## Main results

* `Disk.makeWithParents_clear` — directories are made where nothing is in the way.
* `Disk.openable_of_file`, `Nested.openable` — files that can be opened.
* `FileBacking.openWritable_eq` — a file opened for a writable mapping.
-/

set_option autoImplicit false

namespace ClaimStore

/-! ### Parents of paths that end in a name -/

namespace Path

/-- The fillers at the end of a list are no names. -/
lemma filter_trimFillers (l : List String) :
    (trimFillers l).filter (!isFiller ·) = l.filter (!isFiller ·) := by
  have hdrop : ∀ m : List String,
      (m.dropWhile isFiller).filter (!isFiller ·) = m.filter (!isFiller ·) := by
    intro m
    induction m with
    | nil => rfl
    | cons s m ih => by_cases hs : isFiller s = true <;> simp [hs, ih]
  rw [trimFillers, List.filter_reverse, hdrop, List.filter_reverse, List.reverse_reverse]

/-- Without the segments that lead nowhere. -/
lemma filter_components (l : List String) :
    (l.filter (· != "")).filter (· != ".") = l.filter (!isFiller ·) := by
  rw [List.filter_filter]
  refine List.filter_congr fun s _ => ?_
  rw [isFiller, Bool.not_or, Bool.and_comm]
  rfl

variable {p : Path} {l : List String} {n : String}

/-- Nothing is trimmed before a name. -/
lemma trimFillers_of_cons {first m : String} {l' : List String} (h : first :: l = l' ++ [m])
    (hm : isFiller m = false) : trimFillers l = l := by
  rcases List.eq_nil_or_concat' l with rfl | ⟨l'', m', rfl⟩
  · rfl
  · rw [← List.cons_append] at h
    obtain rfl := List.singleton_inj.1 (List.append_inj' h rfl).2
    exact trimFillers_concat hm

/-- **The parent of a path that ends in a name** leads where the other segments lead, and consists
of them if they end in a name too.

**Proof sketch.** The parent drops the last name and the fillers around it, so its components are
those before that name. -/
lemma exists_parent? (hp : p.segments = l ++ [n]) (hn : isFiller n = false) :
    ∃ q, p.parent? = some q ∧
      q.components.filter (· != ".") = (l.filter (· != "")).filter (· != ".") ∧
        ∀ l' m, l = l' ++ [m] → isFiller m = false → q.segments = l := by
  obtain ⟨first, rest⟩ := p
  cases l with
  | nil =>
    obtain ⟨rfl, rfl⟩ : first = n ∧ rest = [] := by simpa [segments] using hp
    have hne : first ≠ "" := by
      rintro rfl
      cases hn
    refine ⟨⟨"", []⟩, ?_, rfl, fun l' m h => absurd h.symm (List.concat_ne_nil _ _)⟩
    rw [parent?, show trimFillers [] = [] from rfl, if_pos rfl, if_neg hne]
  | cons f l =>
    obtain ⟨rfl, rfl⟩ : first = f ∧ rest = l ++ [n] := by simpa [segments] using hp
    unfold parent?
    dsimp only
    rw [trimFillers_concat hn, if_neg (List.concat_ne_nil _ _), List.dropLast_concat]
    simp only [components, segments, filter_components]
    by_cases htrim : trimFillers l = []
    · have hl : l.filter (!isFiller ·) = [] := by
        rw [← filter_trimFillers, htrim]
        rfl
      rw [if_pos htrim]
      by_cases hfirst : first = ""
      · rw [if_pos hfirst]
        refine ⟨_, rfl, by rw [hfirst]; exact hl.symm, fun l' m h hm => ?_⟩
        obtain rfl : l = [] := (trimFillers_of_cons h hm).symm.trans htrim
        have hlast : first = m := by
          simpa using congrArg List.getLast? h
        rw [← hlast, hfirst] at hm
        cases hm
      · rw [if_neg hfirst]
        refine ⟨_, rfl, by rw [List.filter_cons, List.filter_cons, hl]; rfl, fun l' m h hm => ?_⟩
        rw [(trimFillers_of_cons h hm).symm.trans htrim]
    · rw [if_neg htrim]
      refine ⟨_, rfl, ?_, fun l' m h hm => ?_⟩
      · simp only [List.filter_cons, filter_trimFillers]
      · dsimp only
        rw [trimFillers_of_cons h hm]

end Path

/-- A plain name is no filler. -/
lemma Plain.isFiller_eq {x : String} (hx : Plain x) : Path.isFiller x = false := by
  rw [Path.isFiller, beq_false_of_ne hx.ne_empty, beq_false_of_ne hx.ne_dot]
  rfl

/-! ### Directories along clear names -/

namespace Disk

variable {d d' : Disk} {p q : Path} {i j k : DirectoryId} {n : String} {id : FileId}
  {cs ns ms : List String}

/-- **A walk along clear names** leads on, or to a name that is missing. -/
lemma Clear.walk (hplain : ∀ n ∈ ns, Plain n) (hms : ms ≠ []) (h : d.Clear k (ns ++ ms)) :
    (∃ j, d.walk k ns = .ok j ∧ d.Clear j ms) ∨ d.walk k ns = .error .notFound := by
  induction ns generalizing k with
  | nil => exact .inl ⟨k, rfl, h⟩
  | cons n ns ih =>
    obtain ⟨hn, hns⟩ := List.forall_mem_cons.1 hplain
    obtain ⟨hshort, hrest⟩ := h
    rw [Disk.walk, enter, if_neg hn.ne_dot, if_neg hn.ne_dots, lookupName,
      if_neg (Nat.not_lt.2 hshort)]
    cases hl : (d.entries k).lookup n with
    | none => exact .inr rfl
    | some y =>
      rw [hl] at hrest
      cases y with
      | directory j => exact ih hns hrest
      | file id => exact absurd hrest (by simp [hms])

/-- **A directory is made** under a name that is free. -/
lemma makeDirectory_eq (hd : d.Sound) (hp : Takes p) (hcs : p.components = cs ++ [n])
    (hn : Plain n) (hshort : n.utf8ByteSize ≤ maxNameBytes) (hw : d.walk root cs = .ok j)
    (hfree : (d.entries j).lookup n = none) :
    ∃ d' i, d.makeDirectory p = .ok d' ∧ d'.walk root (cs ++ [n]) = .ok i ∧ d'.entries i = [] := by
  have hj := walk_lt hd hd.root_lt hw
  refine ⟨d.addDirectory j n, d.directories.size, ?_, ?_, ?_⟩
  · unfold makeDirectory
    rw [locate_concat hp hcs hn.ne_dot hn.ne_dots, hw]
    dsimp only
    rw [lookupName, if_neg (Nat.not_lt.2 hshort), hfree]
  · rw [walk_concat, (extends_addDirectory hj hfree).walk_eq hd hd.root_lt hw]
    show (d.addDirectory j n).enter j n = _
    rw [enter, if_neg hn.ne_dot, if_neg hn.ne_dots, lookupName, if_neg (Nat.not_lt.2 hshort),
      entries_addDirectory, if_pos ⟨rfl, hj⟩, List.lookup_cons_self]
  · rw [entries_addDirectory, if_neg fun h => Nat.lt_irrefl _ h.2, entries,
      Array.getElem?_eq_none (Nat.le_refl _)]

/-- Where all names but the last one lead to a directory, that one is made in it, and empty, or is
there. -/
lemma makeWithParents_last (hd : d.Sound) (hq : Takes q) (hcs : q.components = cs ++ [n])
    (hn : Plain n) (hshort : n.utf8ByteSize ≤ maxNameBytes) (hw : d.walk root cs = .ok j)
    (hfree : ∀ id, (d.entries j).lookup n ≠ some (.file id)) (generations : Nat) :
    ∃ d' i, d.makeWithParents (generations + 1) q = (d', .ok ()) ∧
      d'.walk root (cs ++ [n]) = .ok i ∧ (d' = d ∨ d'.entries i = []) := by
  cases hl : (d.entries j).lookup n with
  | none =>
    obtain ⟨d', i, hmade, hw', hempty⟩ := makeDirectory_eq hd hq hcs hn hshort hw hl
    refine ⟨d', i, ?_, hw', .inr hempty⟩
    rw [makeWithParents, Path.isEmpty_eq_false_of_components hcs, hmade]
    rfl
  | some y =>
    cases y with
    | file id => exact absurd hl (hfree id)
    | directory i =>
      have hw' : d.walk root (cs ++ [n]) = .ok i := by
        rw [walk_concat, hw]
        show d.enter j n = _
        rw [enter, if_neg hn.ne_dot, if_neg hn.ne_dots, lookupName, if_neg (Nat.not_lt.2 hshort),
          hl]
      exact ⟨d, i, makeWithParents_eq hq (hcs ▸ hw') generations, hw', .inl rfl⟩

/-- Where the other names are not all there, the parent of the path is made first. -/
lemma makeWithParents_parent (hq : Takes q) (hcs : q.components = cs ++ [n]) (hn : Plain n)
    (hmissing : d.walk root cs = .error .notFound) (hp : q.parent? = some p) {generations : Nat}
    (hmade : d.makeWithParents generations p = (d', .ok ())) {d'' : Disk}
    (hlast : d'.makeDirectory q = .ok d'') :
    d.makeWithParents (generations + 1) q = (d'', .ok ()) := by
  have hfails : d.makeDirectory q = .error (.os .notFound) := by
    unfold makeDirectory
    rw [locate_concat hq hcs hn.ne_dot hn.ne_dots, hmissing]
  rw [makeWithParents, Path.isEmpty_eq_false_of_components hcs, hfails]
  simp only [Bool.false_eq_true, if_false, if_true, hp, hmade, hlast]

/-- **Directories are made where nothing is in the way.** What is made last is empty.

**Proof sketch.** Induction from the last name on. Where the other names lead to a directory, one
more is made in it or is there; where they do not, the parent of the path consists of them and is
made first. -/
lemma makeWithParents_clear (hd : d.Sound) {l : List String}
    (hk : d.walk root (l.filter (· != "")) = .ok k)
    (hns : ∀ n ∈ ns, Plain n ∧ n.utf8ByteSize ≤ maxNameBytes) (hms : ms ≠ [])
    (hclear : d.Clear k (ns ++ ms)) (hq : q.segments = l ++ ns) (htakes : Takes q)
    {generations : Nat} (hdepth : q.depth < generations) :
    ∃ d' j, d.makeWithParents generations q = (d', .ok ()) ∧
      d'.walk root (l.filter (· != "") ++ ns) = .ok j ∧ (d' = d ∨ d'.entries j = []) := by
  induction ns using List.reverseRecOn generalizing q generations ms with
  | nil =>
    obtain ⟨g, rfl⟩ := Nat.exists_eq_add_one_of_ne_zero (Nat.ne_of_gt (Nat.zero_lt_of_lt hdepth))
    rw [List.append_nil] at hq ⊢
    exact ⟨d, k, makeWithParents_eq htakes (by rw [Path.components, hq, hk]) g, hk, .inl rfl⟩
  | append_singleton ns n ih =>
    obtain ⟨g, rfl⟩ := Nat.exists_eq_add_one_of_ne_zero (Nat.ne_of_gt (Nat.zero_lt_of_lt hdepth))
    obtain ⟨hn, hshort⟩ := hns n (by simp)
    have hns' : ∀ m ∈ ns, Plain m ∧ m.utf8ByteSize ≤ maxNameBytes := fun m hm =>
      hns m (List.mem_append_left _ hm)
    have hplain : ∀ m ∈ ns, Plain m := fun m hm => (hns' m hm).1
    have hcs : q.components = (l.filter (· != "") ++ ns) ++ [n] := by
      have hfilter : ∀ m ∈ ns ++ [n], (m != "") = true := fun m hm =>
        bne_iff_ne.2 (hns m hm).1.ne_empty
      rw [Path.components, hq, List.filter_append, List.filter_eq_self.2 hfilter,
        List.append_assoc]
    rw [List.append_assoc, List.singleton_append] at hclear
    have hstart : d.walk root (l.filter (· != "") ++ ns) = d.walk k ns := by
      rw [walk_append, hk]
      rfl
    rw [← List.append_assoc]
    rcases hclear.walk hplain (List.cons_ne_nil _ _) with ⟨j, hj, -, hcj⟩ | hmissing
    · rw [← hstart] at hj
      refine makeWithParents_last hd htakes hcs hn hshort hj (fun id hl => ?_) g
      rw [hl] at hcj
      exact hms hcj
    · -- the names before the last one are not all there, so they are made first
      obtain ⟨q', hq', -, hsegments⟩ := Path.exists_parent? (hq.trans (List.append_assoc ..).symm)
        hn.isFiller_eq
      obtain ⟨ns', m, hlast⟩ := (List.eq_nil_or_concat' ns).resolve_left (by
        rintro rfl
        cases hmissing)
      have hm : Plain m := hplain m (by simp [hlast])
      obtain ⟨d₁, j, hmade, hj, hwhere⟩ := ih hns' (List.cons_ne_nil n ms) hclear
        (hsegments (l ++ ns') m (by rw [hlast, List.append_assoc]) hm.isFiller_eq)
        (htakes.parent? hq')
        (Nat.lt_of_lt_of_le (Path.parent?_depth_lt hq') (Nat.le_of_lt_succ hdepth))
      rw [← hstart] at hmissing
      have hempty : d₁.entries j = [] := hwhere.resolve_left fun h => by
        rw [h, hmissing] at hj
        cases hj
      have hd₁ : d₁.Sound := by
        have hext := (extends_makeWithParents g hd q').1
        rw [hmade] at hext
        exact hext.sound hd
      obtain ⟨d', i, hmade', hw, hempty'⟩ := makeDirectory_eq hd₁ htakes hcs hn hshort hj
        (by rw [hempty]; rfl)
      exact ⟨d', i, makeWithParents_parent htakes hcs hn hmissing hq' hmade hmade', hw,
        .inr hempty'⟩

/-! ### Files that can be opened -/

/-- **The file of a path can be opened for writing**, after its directory was made where it is
missing, and that brings no other content to light. -/
def Openable (d : Disk) (p : Path) : Prop :=
  ∃ d₁ id d₂, d.makeParent p = (d₁, .ok ()) ∧ d₁.openCreating p = .ok (id, d₂) ∧
    d₁.fileBytes? p = d.fileBytes? p

/-- The disk takes a path that leads somewhere. -/
lemma takes_of_locate {spot : Spot} (h : d.locate p = .ok spot) : Takes p := by
  unfold locate at h
  split at h
  · cases h
  next hnul =>
  split at h
  · cases h
  split at h
  · cases h
  next hlong =>
  refine ⟨Bool.eq_false_iff.2 hnul, ?_⟩
  rw [← Path.utf8ByteSize_toString]
  exact Nat.lt_of_not_le hlong

/-- What is a file is reached by a name. -/
lemma resolve_eq_file_iff : d.resolve p = .ok (.file id) ↔ ∃ j n, d.locate p = .ok (.name j n) ∧
    d.lookupName j n = .ok (some (.file id)) ∧ p.endsInSlash = false := by
  unfold resolve
  cases hl : d.locate p with
  | error e => simp
  | ok spot =>
    cases spot with
    | directory i => simp
    | name j n =>
      simp only [Except.ok.injEq, Spot.name.injEq]
      rcases hn : d.lookupName j n with e | _ | ⟨i | id'⟩
      · simp [hn]
      · simp [hn]
      · simp [hn]
      · cases p.endsInSlash <;> simp [hn]

/-- A change of what a file holds leaves all paths to files as they were. -/
lemma resolve_modify (hd : d.Sound) (h : d.resolve p = .ok (.file id)) (id' : FileId)
    (f : FileData → FileData) : (d.modify id' f).resolve p = .ok (.file id) := by
  obtain ⟨j, n, hl, hn, hslash⟩ := resolve_eq_file_iff.1 h
  exact resolve_eq_file_iff.2 ⟨j, n, (extends_modify d id' f).locate_eq hd hl, hn, hslash⟩

/-- **What is a file can be opened.** -/
lemma openable_of_file (h : d.resolve p = .ok (.file id)) : d.Openable p := by
  obtain ⟨j, n, hl, hn, hslash⟩ := resolve_eq_file_iff.1 h
  obtain ⟨cs, hcs, hw, -⟩ := walk_of_locate_name hl
  refine ⟨d, id, d, makeParent_eq (takes_of_locate hl) (by rw [hcs, List.dropLast_concat, hw]), ?_,
    rfl⟩
  unfold openCreating
  rw [hl]
  dsimp only
  rw [hslash, hn]
  rfl

/-- **The file that was opened** is the one that the path leads to, and holds what was stored under
the path. -/
lemma resolve_openCreating (hd : d.Sound) (h : d.openCreating p = .ok (id, d')) :
    d'.resolve p = .ok (.file id) ∧ d'.bytes id = (d.fileBytes? p).getD .empty := by
  unfold openCreating at h
  split at h
  · cases h
  · cases h
  next j n hl =>
  split at h
  · cases h
  next hslash =>
  split at h
  · cases h
  · cases h
  · next file hn =>
    obtain ⟨rfl, rfl⟩ := Prod.mk.inj (Except.ok.inj h)
    have hresolve := resolve_eq_file_iff.2 ⟨j, n, hl, hn, Bool.eq_false_iff.2 hslash⟩
    refine ⟨hresolve, ?_⟩
    rw [fileBytes?, hresolve]
    rfl
  · next hn =>
    have hadd := Except.ok.inj h
    obtain rfl : d' = (d.addFile j n).2 := (congrArg Prod.snd hadd).symm
    obtain rfl : id = d.contents.size := (congrArg Prod.fst hadd).symm
    have hfree := free_of_lookupName hd hl hn
    refine ⟨resolve_eq_file_iff.2 ⟨j, n, (extends_addFile hfree.lookup_eq).locate_eq hd hl, ?_,
      Bool.eq_false_iff.2 hslash⟩, ?_⟩
    · rw [lookupName, if_neg (Nat.not_lt.2 hfree.size_le), entries_addFile,
        if_pos ⟨rfl, hfree.parent_lt⟩, List.lookup_cons_self]
    · have hnone : d.fileBytes? p = none := by
        unfold fileBytes? resolve
        rw [hl]
        dsimp only
        rw [hn]
      rw [hnone, bytes, data_addFile_self]
      rfl

end Disk

/-- **The directory of an identifier of plain names is made** where nothing is in the way. What is
made last is empty. -/
lemma Nested.makeParent_clear {x : String} {d : Disk} {D : Path} (hx : Nested x) (hd : d.Sound)
    {ns : List String} {n : String} (hn : names x = ns ++ [n])
    (hshort : ∀ m ∈ ns, m.utf8ByteSize ≤ Disk.maxNameBytes) {k : DirectoryId}
    (htakes : Disk.Takes (contentPath D x)) (hk : d.walk Disk.root D.components = .ok k)
    (hclear : d.Clear k (names x)) :
    ∃ d₁ j, d.makeParent (contentPath D x) = (d₁, .ok ()) ∧
      d₁.walk Disk.root (D.components ++ ns) = .ok j ∧ (d₁ = d ∨ d₁.entries j = []) := by
  have hplain : ∀ m ∈ ns, Plain m := fun m hm => hx m (by simp [hn, hm])
  obtain ⟨l, hl, hD⟩ : ∃ l, (contentPath D x).segments = l ++ names x ∧
      l.filter (· != "") = D.components := by
    rcases hx.contentPath_cases D with ⟨hfirst, hrest, hp⟩ | ⟨l, hp, hl⟩
    · refine ⟨[], by rw [hp]; rfl, ?_⟩
      rw [Path.components, Path.segments, hfirst, hrest]
      rfl
    · refine ⟨D.first :: l, by rw [hp]; rfl, ?_⟩
      rw [Path.components, Path.segments, List.filter_cons, List.filter_cons, hl]
  rw [hn] at hl hclear
  obtain ⟨q, hq, hsame, hsegments⟩ := Path.exists_parent?
    (hl.trans (List.append_assoc ..).symm) (hx n (by simp [hn])).isFiller_eq
  unfold Disk.makeParent Disk.makeDirectories
  rw [hq]
  dsimp only
  rcases List.eq_nil_or_concat' ns with rfl | ⟨ns', m, rfl⟩
  · refine ⟨d, k, ?_, by rw [List.append_nil]; exact hk, .inl rfl⟩
    rw [Disk.makeWithParents_eq (htakes.parent? hq) (i := k)]
    rw [Disk.walk_filter, hsame, ← Disk.walk_filter, List.append_nil, hD, hk]
  · obtain ⟨d₁, j, hmade, hw, hwhere⟩ := Disk.makeWithParents_clear hd (hD ▸ hk)
      (fun m hm => ⟨hplain m hm, hshort m hm⟩) (List.cons_ne_nil n []) hclear
      (hsegments (l ++ ns') m (List.append_assoc ..).symm (hplain m (by simp)).isFiller_eq)
      (htakes.parent? hq) (Nat.lt_succ_self _)
    rw [hmade]
    exact ⟨d₁, j, rfl, hD ▸ hw, hwhere⟩

/-- **An identifier of plain names can be opened** where nothing is in the way to its content and no
name is too long.

**Proof sketch.** Where a file stands it is opened. Otherwise the directories above it are made, the
last of them new or without the name, so the name is free and the file is made. -/
lemma Nested.openable {x : String} {d : Disk} {D : Path} (hx : Nested x) (hd : d.Sound)
    (hshort : ∀ n ∈ names x, n.utf8ByteSize ≤ Disk.maxNameBytes) (h : d.ClearPath D x) :
    d.Openable (contentPath D x) := by
  obtain ⟨htakes, k, hk, hclear⟩ := h
  rcases (hx.clearPath_iff hk).2 ⟨htakes, k, hk, hclear⟩ with ⟨id, hfile⟩ | hnothing
  · exact Disk.openable_of_file hfile
  obtain ⟨ns, n, hn⟩ : ∃ ns n, names x = ns ++ [n] :=
    ⟨_, _, (List.dropLast_append_getLast (names_ne_nil x)).symm⟩
  obtain ⟨d₁, j, hmade, hw, hwhere⟩ := hx.makeParent_clear hd hn
    (fun m hm => hshort m (by simp [hn, hm])) htakes hk hclear
  have hplain := hx n (by simp [hn])
  have hl : d₁.locate (contentPath D x) = .ok (.name j n) := by
    have hcs : (contentPath D x).components = (D.components ++ ns) ++ [n] := by
      rw [hx.components_contentPath, hn, List.append_assoc]
    rw [Disk.locate_concat htakes hcs hplain.ne_dot hplain.ne_dots, hw]
  -- the name is free: nothing was there, and what was made last is empty
  have hfree : d₁.lookupName j n = .ok none := by
    have hlookup : d₁.lookupName j n = .ok ((d₁.entries j).lookup n) := by
      rw [Disk.lookupName, if_neg (Nat.not_lt.2 (hshort n (by simp [hn])))]
    rcases hwhere with rfl | hempty
    · rw [Disk.resolve, hl] at hnothing
      dsimp only at hnothing
      rw [hlookup] at hnothing ⊢
      rcases hy : (d₁.entries j).lookup n with _ | ⟨i | id⟩
      · rfl
      · simp [hy] at hnothing
      · simp [hy, hx.endsInSlash_contentPath] at hnothing
    · rw [hlookup, hempty]
      rfl
  refine ⟨d₁, (d₁.addFile j n).1, (d₁.addFile j n).2, hmade, ?_, ?_⟩
  · unfold Disk.openCreating
    rw [hl]
    dsimp only
    rw [hx.endsInSlash_contentPath, hfree]
    rfl
  · unfold Disk.fileBytes?
    rw [hnothing, Disk.resolve, hl]
    dsimp only
    rw [hfree]

/-! ### Files that are opened for mapping -/

/-- What a mapping shows of the bytes of a file does not depend on what is behind them. -/
lemma FileData.view_of_le {f : FileData} {n : Nat} (h : n ≤ f.bytes.size) :
    f.view n = f.bytes.fit n := by
  rw [view, Bytes.fit_of_le_size h, Bytes.fit_of_le_size (by rw [Bytes.size_append]; omega)]
  apply Bytes.ext
  rw [Bytes.toList_take, Bytes.toList_take, Bytes.toList_append,
    List.take_append_of_le_length (by rwa [Bytes.length_toList])]

/-- A longer file is not cut. -/
lemma Bytes.fit_max_of_le {b : Bytes} {n : Nat} (h : n ≤ b.size) : b.fit (max n b.size) = b := by
  rw [Nat.max_eq_right h, fit_size]

namespace FileBacking

variable {d : Disk} {p : Path} {n : UInt64} {v : Bytes}

/-- **A file that is opened for a writable mapping** is extended where it is shorter and never cut,
and the mapping shows what was stored, cut or zero-padded.

**Proof sketch.** The file is opened with what was stored, or made empty. Where that is too short it
is extended with zeros, and otherwise left; in both cases the view is what was stored, fitted to the
length. -/
lemma openWritable_eq (hd : d.Sound) (h : d.Openable p) (hv : (d.fileBytes? p).getD .empty = v)
    (hn : n.toNat ≤ Disk.maxFileLength ∨ n.toNat ≤ v.size) :
    ∃ d' id, openWritable d p n = (d', ofOpened p (.file id) n.toNat) ∧
      d'.resolve p = .ok (.file id) ∧ d'.bytes id = v.fit (max n.toNat v.size) ∧
        d'.view id n.toNat = v.fit n.toNat := by
  obtain ⟨d₁, id, d₂, hmade, hopened, hsame⟩ := h
  have hd₁ : d₁.Sound := by
    have hext := (Disk.changes_makeParent hd p).extends
    rw [hmade] at hext
    exact hext.sound hd
  obtain ⟨hresolve, hbytes⟩ := Disk.resolve_openCreating hd₁ hopened
  rw [hsame, hv] at hbytes
  obtain ⟨hchanges, j, m, -, hm⟩ := Disk.changes_openCreating hd₁ hopened
  have hd₂ : d₂.Sound := hchanges.extends.sound hd₁
  have hlt : id < d₂.contents.size := hd₂.file_lt j m id hm
  unfold openWritable
  rw [hmade]
  dsimp only
  rw [hopened]
  dsimp only
  rw [hbytes]
  by_cases hlong : v.size < n.toNat
  · have hle := hn.resolve_right (Nat.not_le.2 hlong)
    have hset : d₂.setLength id n.toNat = .ok (d₂.modify id (·.setLength n.toNat)) := by
      unfold Disk.setLength
      rw [if_neg (Nat.not_lt.2 (Nat.le_trans hle (by decide))), if_neg (Nat.not_lt.2 hle)]
    have hdata : (d₂.modify id (·.setLength n.toNat)).data id = .ofBytes (v.fit n.toNat) := by
      rw [Disk.data_modify, if_pos ⟨rfl, hlt⟩, FileData.setLength]
      exact congrArg (fun b => FileData.ofBytes (Bytes.fit n.toNat b)) hbytes
    rw [if_pos hlong, hset]
    refine ⟨_, id, rfl, Disk.resolve_modify hd₂ hresolve id _, ?_, ?_⟩
    · rw [Disk.bytes, hdata, Nat.max_eq_left (Nat.le_of_lt hlong)]
      rfl
    · rw [Disk.view, hdata, FileData.view_ofBytes, Bytes.fit_fit_of_le _ (Nat.le_refl _)]
  · have hle := Nat.le_of_not_lt hlong
    rw [if_neg hlong]
    refine ⟨d₂, id, rfl, hresolve, by rw [hbytes, Bytes.fit_max_of_le hle], ?_⟩
    have hview := FileData.view_of_le (f := d₂.data id) (n := n.toNat)
      (by rw [← Disk.bytes, hbytes]; exact hle)
    rw [Disk.view, hview, ← Disk.bytes, hbytes]

end FileBacking

end ClaimStore
