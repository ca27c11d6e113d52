import ClaimStore.Proofs.PlainName

/-!
# Paths of content

Where the path of an identifier leads that the disk takes as the name of a file: it leads to that
name in the directory of its repository, and the directory is not made again when the file is
opened.

## Main definitions

* `ClaimStore.Nameable` — an identifier that the disk takes as the name of a file.

## Main results

* `Disk.walk_makeDirectories` — a directory that was made is there.
* `Disk.locate_concat` — where a path leads that ends in a name.
* `Disk.makeParent_eq` — a directory that is there is not made again.
* `Nameable.locate_eq`, `Nameable.makeParent_eq` — the path of an identifier.
-/

set_option autoImplicit false

namespace ClaimStore

/-! ### Texts of paths -/

namespace Path

/-- The length of the text of a path. -/
def textSize (p : Path) : Nat :=
  p.first.utf8ByteSize + (p.rest.map fun s => 1 + s.utf8ByteSize).sum

/-- **The text of a path** is as long as its segments and the slashes between them. -/
lemma utf8ByteSize_toString (p : Path) : p.toString.utf8ByteSize = p.textSize := by
  obtain ⟨first, rest⟩ := p
  unfold toString segments textSize
  dsimp only
  induction rest generalizing first with
  | nil =>
    rw [String.intercalate_singleton]
    rfl
  | cons s rest ih =>
    have hslash : "/".utf8ByteSize = 1 := rfl
    rw [String.intercalate_cons_cons, String.utf8ByteSize_append, String.utf8ByteSize_append, ih,
      List.map_cons, List.sum_cons, hslash]
    omega

/-- What is left after trimming is a beginning. -/
lemma trimFillers_isPrefix (l : List String) : trimFillers l <+: l := by
  rw [trimFillers, ← List.reverse_suffix, List.reverse_reverse]
  exact List.dropWhile_suffix _

/-- A name at the end is not trimmed. -/
lemma trimFillers_concat {l : List String} {x : String} (hx : isFiller x = false) :
    trimFillers (l ++ [x]) = l ++ [x] := by
  rw [trimFillers, List.reverse_append, List.reverse_singleton, List.singleton_append,
    List.dropWhile_cons, hx]
  simp

/-! ### Parents -/

/-- The last of what is left after trimming is a name. -/
lemma isFiller_getLast_trimFillers {l : List String} (h : trimFillers l ≠ []) :
    ∃ t x, trimFillers l = t ++ [x] ∧ isFiller x = false := by
  have hne : l.reverse.dropWhile isFiller ≠ [] := fun h0 => h (by simp [trimFillers, h0])
  obtain ⟨x, m, hxm⟩ := List.exists_cons_of_ne_nil hne
  refine ⟨m.reverse, x, by simp [trimFillers, hxm], ?_⟩
  have hx := List.head_dropWhile_not isFiller hne
  simpa [hxm] using hx

/-- The components of a path leave out the empty ones. -/
lemma components_mk (first : String) (rest : List String) :
    (⟨first, rest⟩ : Path).components = (first :: rest).filter (· != "") := rfl

/-- The empty path has no components. -/
lemma components_of_isEmpty {p : Path} (h : p.isEmpty = true) : p.components = [] := by
  obtain ⟨first, rest⟩ := p
  obtain ⟨rfl, rfl⟩ : first = "" ∧ rest = [] := by simpa [isEmpty] using h
  rfl

/-- A path with components is not the empty one. -/
lemma isEmpty_eq_false_of_components {p : Path} {cs : List String} {n : String}
    (h : p.components = cs ++ [n]) : p.isEmpty = false := Bool.eq_false_iff.2 fun hempty => by
  rw [components_of_isEmpty hempty] at h
  exact List.concat_ne_nil _ _ h.symm

/-- **The components of a parent** come before the last component. -/
lemma components_parent? {p q : Path} (h : p.parent? = some q) :
    q.components <+: p.components.dropLast := by
  obtain ⟨first, rest⟩ := p
  have hnil : (⟨"", []⟩ : Path).components = [] := rfl
  have hroot : (⟨"", [""]⟩ : Path).components = [] := rfl
  unfold parent? at h
  dsimp only at h
  split at h
  · split at h
    · cases h
    · obtain rfl := Option.some.inj h
      exact hnil ▸ List.nil_prefix
  · next hne =>
    obtain ⟨t, x, ht, hx⟩ := isFiller_getLast_trimFillers hne
    obtain ⟨fill, hfill⟩ := trimFillers_isPrefix rest
    rw [ht, List.dropLast_concat] at h
    -- the name that is dropped is followed by fillers only
    have hkept : (first :: t).filter (· != "") <+:
        (⟨first, rest⟩ : Path).components.dropLast := by
      have hxne : x ≠ "" := by
        rintro rfl
        exact absurd hx (by decide)
      rw [components_mk, ← hfill, ht, List.append_assoc, ← List.cons_append, List.filter_append,
        List.dropLast_append_of_ne_nil (by simp [hxne])]
      exact List.prefix_append _ _
    have hbegin : ∀ t', t' <+: t → (⟨first, t'⟩ : Path).components <+:
        (⟨first, rest⟩ : Path).components.dropLast := fun t' ht' =>
      (((List.prefix_cons_inj first).2 ht').filter _).trans hkept
    split at h
    · split at h
      · obtain rfl := Option.some.inj h
        exact hroot ▸ List.nil_prefix
      · obtain rfl := Option.some.inj h
        exact hbegin [] List.nil_prefix
    · obtain rfl := Option.some.inj h
      exact hbegin _ (trimFillers_isPrefix t)

/-- The parent of a path is a beginning of it, if it is more than the empty path or the root. -/
lemma parent?_cases {p q : Path} (h : p.parent? = some q) :
    q = ⟨"", []⟩ ∨ q = ⟨"", [""]⟩ ∨ ∃ t, t <+: p.rest ∧ q = ⟨p.first, t⟩ := by
  unfold parent? at h
  split at h
  · split at h
    · cases h
    · exact .inl (Option.some.inj h).symm
  · split at h
    · split at h
      · exact .inr (.inl (Option.some.inj h).symm)
      · exact .inr (.inr ⟨[], List.nil_prefix, (Option.some.inj h).symm⟩)
    · exact .inr (.inr ⟨_, (trimFillers_isPrefix _).trans ((List.dropLast_prefix _).trans
        (trimFillers_isPrefix _)), (Option.some.inj h).symm⟩)

end Path

/-! ### Walks along paths -/

namespace Disk

variable {d : Disk} {p q : Path} {i j : DirectoryId}

/-- The disk takes the text of the path. -/
structure Takes (p : Path) : Prop where
  /-- The path has no NUL. -/
  hasNul_eq : p.hasNul = false
  /-- The path is not too long. -/
  textSize_lt : p.textSize < maxPathBytes

/-- A path that begins as another one, without more. -/
lemma Takes.of_isPrefix {first : String} {t l : List String} (h : Takes ⟨first, l⟩)
    (ht : t <+: l) : Takes ⟨first, t⟩ where
  hasNul_eq := by
    have hnul := h.hasNul_eq
    rw [Path.hasNul, List.any_eq_false] at hnul ⊢
    intro s hs
    refine hnul s ?_
    rcases List.mem_cons.1 hs with rfl | hs
    · exact List.mem_cons_self
    · exact List.mem_cons_of_mem _ (ht.subset hs)
  textSize_lt := by
    refine Nat.lt_of_le_of_lt ?_ h.textSize_lt
    obtain ⟨r, rfl⟩ := ht
    simp only [Path.textSize, List.map_append, List.sum_append]
    omega

/-- The parent of a path, without more. -/
lemma Takes.parent? (h : Takes p) (hq : p.parent? = some q) : Takes q := by
  rcases Path.parent?_cases hq with rfl | rfl | ⟨t, ht, rfl⟩
  · exact ⟨rfl, by decide⟩
  · exact ⟨rfl, by decide⟩
  · exact h.of_isPrefix ht

/-- **A walk in two parts.** -/
lemma walk_append (d : Disk) (i : DirectoryId) (cs cs' : List String) :
    d.walk i (cs ++ cs') = (d.walk i cs).bind fun j => d.walk j cs' := by
  induction cs generalizing i with
  | nil => rfl
  | cons c cs ih =>
    rw [List.cons_append, walk, walk]
    cases d.enter i c with
    | error e => rfl
    | ok next => exact ih next

/-- A walk to the last name of a path. -/
lemma walk_concat (d : Disk) (i : DirectoryId) (cs : List String) (c : String) :
    d.walk i (cs ++ [c]) = (d.walk i cs).bind fun j => d.enter j c := by
  have hlast : ∀ j, d.walk j [c] = d.enter j c := fun j => by
    rw [walk]
    cases d.enter j c <;> rfl
  simp only [walk_append, hlast]

/-- What can be walked can be walked in part. -/
lemma walk_of_isPrefix {cs cs' : List String} (hcs : cs <+: cs') (h : d.walk i cs' = .ok j) :
    ∃ k, d.walk i cs = .ok k := by
  obtain ⟨t, rfl⟩ := hcs
  rw [walk_append] at h
  cases hw : d.walk i cs with
  | error e =>
    rw [hw] at h
    cases h
  | ok k => exact ⟨k, rfl⟩

/-- A name that can be entered stands for a directory. -/
lemma lookupName_of_enter {c : String} (hdot : c ≠ ".") (hdots : c ≠ "..")
    (h : d.enter i c = .ok j) : d.lookupName i c = .ok (some (.directory j)) := by
  unfold enter at h
  rw [if_neg hdot, if_neg hdots] at h
  split at h
  · cases h
  · cases h
  · cases h
  · next hl =>
    obtain rfl := Except.ok.inj h
    exact hl

/-- **Where a path leads that ends in a name**: to that name, in the directory that the rest of the
path leads to. -/
lemma locate_concat (hp : Takes p) {cs : List String} {c : String} (hcs : p.components = cs ++ [c])
    (hdot : c ≠ ".") (hdots : c ≠ "..") : d.locate p = match d.walk root cs with
      | .error e => .error (.os e)
      | .ok j => .ok (.name j c) := by
  unfold locate
  rw [hp.hasNul_eq, Path.isEmpty_eq_false_of_components hcs, Path.utf8ByteSize_toString,
    if_neg (Nat.not_le.2 hp.textSize_lt), hcs, List.getLast?_concat, List.dropLast_concat]
  cases d.walk root cs <;> simp only [Bool.false_eq_true, if_false, if_neg hdot, if_neg hdots]

/-- **Where a path to a directory leads**: to the directory itself, or to its name. -/
lemma locate_of_walk (hp : Takes p) (hne : p.isEmpty = false)
    (h : d.walk root p.components = .ok i) : d.locate p = .ok (.directory i) ∨
      ∃ j name, d.locate p = .ok (.name j name) ∧
        d.lookupName j name = .ok (some (.directory i)) := by
  unfold locate
  rw [hp.hasNul_eq, hne, Path.utf8ByteSize_toString, if_neg (Nat.not_le.2 hp.textSize_lt)]
  simp only [Bool.false_eq_true, if_false]
  rcases List.eq_nil_or_concat p.components with hnil | ⟨cs, c, hcs⟩
  · rw [hnil] at h ⊢
    obtain rfl := Except.ok.inj h
    exact .inl rfl
  · rw [List.concat_eq_append] at hcs
    rw [hcs, walk_concat] at h
    rw [hcs, List.getLast?_concat, List.dropLast_concat]
    cases hw : d.walk root cs with
    | error e =>
      rw [hw] at h
      cases h
    | ok j =>
      rw [hw] at h
      have hc : d.enter j c = .ok i := h
      dsimp only
      by_cases hdot : c = "."
      · rw [if_pos hdot]
        rw [enter, if_pos hdot] at hc
        exact .inl (congrArg _ (congrArg _ (Except.ok.inj hc)))
      · rw [if_neg hdot]
        by_cases hdots : c = ".."
        · rw [if_pos hdots]
          rw [enter, if_neg hdot, if_pos hdots] at hc
          exact .inl (congrArg _ (congrArg _ (Except.ok.inj hc)))
        · rw [if_neg hdots]
          exact .inr ⟨j, c, rfl, lookupName_of_enter hdot hdots hc⟩

/-- **A directory that is there is not made again.** -/
lemma makeWithParents_eq (hp : Takes p) (h : d.walk root p.components = .ok i) (generations : Nat) :
    d.makeWithParents (generations + 1) p = (d, .ok ()) := by
  unfold makeWithParents
  cases hne : p.isEmpty with
  | true => rfl
  | false =>
    simp only [Bool.false_eq_true, if_false]
    have hmake : d.makeDirectory p = .error (.os .alreadyExists) := by
      unfold makeDirectory
      rcases locate_of_walk hp hne h with hl | ⟨j, name, hl, hn⟩
      · rw [hl]
      · rw [hl]
        dsimp only
        rw [hn]
    have hthere : d.isDirectory p = true := by
      unfold isDirectory resolve
      rcases locate_of_walk hp hne h with hl | ⟨j, name, hl, hn⟩
      · rw [hl]
      · rw [hl]
        dsimp only
        rw [hn]
    rw [hmake, hthere]
    rfl

/-- **The directory of a path is not made again** where it is there. -/
lemma makeParent_eq (hp : Takes p) (h : d.walk root p.components.dropLast = .ok i) :
    d.makeParent p = (d, .ok ()) := by
  unfold makeParent
  split
  · rfl
  · next q hq =>
    obtain ⟨j, hj⟩ := walk_of_isPrefix (Path.components_parent? hq) h
    rw [makeDirectories, makeWithParents_eq (hp.parent? hq) hj]

/-! ### Directories that are made -/

/-- A path that leads to a directory without a last name. -/
lemma walk_of_locate_directory (h : d.locate p = .ok (.directory i)) :
    d.walk root p.components = .ok i := by
  unfold locate at h
  split at h
  · cases h
  · split at h
    · cases h
    · split at h
      · cases h
      · split at h
        · next hnone =>
          obtain rfl := Spot.directory.inj (Except.ok.inj h)
          rw [List.getLast?_eq_none_iff.1 hnone]
          rfl
        · next c hlast =>
          obtain ⟨cs, hcs⟩ := List.getLast?_eq_some_iff.1 hlast
          rw [hcs, List.dropLast_concat] at h
          rw [hcs, walk_concat]
          split at h
          · cases h
          · next j hw =>
            rw [hw]
            show d.enter j c = .ok i
            unfold enter
            split at h
            · next hdot =>
              rw [if_pos hdot, Spot.directory.inj (Except.ok.inj h)]
            · next hdot =>
              split at h
              · next hdots =>
                rw [if_neg hdot, if_pos hdots, Spot.directory.inj (Except.ok.inj h)]
              · cases h

/-- A path that leads to a last name. -/
lemma walk_of_locate_name {name : String} (h : d.locate p = .ok (.name i name)) :
    ∃ cs, p.components = cs ++ [name] ∧ d.walk root cs = .ok i ∧ name ≠ "." ∧ name ≠ ".." := by
  unfold locate at h
  split at h
  · cases h
  · split at h
    · cases h
    · split at h
      · cases h
      · split at h
        · cases h
        · next c hlast =>
          obtain ⟨cs, hcs⟩ := List.getLast?_eq_some_iff.1 hlast
          rw [hcs, List.dropLast_concat] at h
          split at h
          · cases h
          · next j hw =>
            split at h
            · cases h
            · next hdot =>
              split at h
              · cases h
              · next hdots =>
                obtain ⟨rfl, rfl⟩ := Spot.name.inj (Except.ok.inj h)
                exact ⟨cs, hcs, hw, hdot, hdots⟩

/-- A directory that is found is there. -/
lemma walk_of_isDirectory (h : d.isDirectory p = true) : ∃ i, d.walk root p.components = .ok i := by
  unfold isDirectory resolve at h
  cases hl : d.locate p with
  | error e => simp [hl] at h
  | ok spot =>
    cases spot with
    | directory i => exact ⟨i, walk_of_locate_directory hl⟩
    | name j name =>
      obtain ⟨cs, hcs, hw, hdot, hdots⟩ := walk_of_locate_name hl
      rw [hl] at h
      dsimp only at h
      cases hn : d.lookupName j name with
      | error e => simp [hn] at h
      | ok o =>
        rcases o with _ | ⟨i | id⟩
        · simp [hn] at h
        · refine ⟨i, ?_⟩
          rw [hcs, walk_concat, hw]
          show d.enter j name = .ok i
          rw [enter, if_neg hdot, if_neg hdots, hn]
        · rw [hn] at h
          dsimp only at h
          split at h
          · next hok =>
            split at hok
            · cases hok
            · cases hok
          · cases h

/-- A directory that was made is there. -/
lemma walk_of_makeDirectory (hd : d.Sound) {d' : Disk} (h : d.makeDirectory p = .ok d') :
    ∃ i, d'.walk root p.components = .ok i := by
  have hext := (extends_makeDirectory hd h).1
  unfold makeDirectory at h
  split at h
  · cases h
  · cases h
  · next j name hl =>
    obtain ⟨cs, hcs, hw, hdot, hdots⟩ := walk_of_locate_name hl
    split at h
    · cases h
    · cases h
    · next hn =>
      obtain rfl := Except.ok.inj h
      have hj : j < d.directories.size := walk_lt hd hd.root_lt hw
      have hshort : ¬ maxNameBytes < name.utf8ByteSize := by
        intro hlong
        rw [lookupName, if_pos hlong] at hn
        cases hn
      refine ⟨d.directories.size, ?_⟩
      rw [hcs, walk_concat, hext.walk_eq hd hd.root_lt hw]
      show (d.addDirectory j name).enter j name = .ok d.directories.size
      rw [enter, if_neg hdot, if_neg hdots, lookupName, if_neg hshort, entries_addDirectory,
        if_pos ⟨rfl, hj⟩, List.lookup_cons_self]

/-- Directories that were made with their parents are there: the walk along their path ends in
one. -/
lemma walk_makeWithParents (generations : Nat) (hd : d.Sound) {d' : Disk}
    (h : d.makeWithParents generations p = (d', .ok ())) :
    ∃ i, d'.walk root p.components = .ok i := by
  induction generations generalizing d p d' with
  | zero => cases (Prod.mk.inj h).2
  | succ generations ih =>
    unfold makeWithParents at h
    split at h
    · next hempty =>
      refine ⟨root, ?_⟩
      rw [← (Prod.mk.inj h).1, Path.components_of_isEmpty hempty]
      rfl
    · split at h
      · next hmade =>
        rw [← (Prod.mk.inj h).1]
        exact walk_of_makeDirectory hd hmade
      · split at h
        · split at h
          · cases (Prod.mk.inj h).2
          · next q hq =>
            have hparents := extends_makeWithParents generations hd q
            split at h
            · cases (Prod.mk.inj h).2
            · next d₁ h₁ =>
              rw [h₁] at hparents
              split at h
              · next hmade =>
                rw [← (Prod.mk.inj h).1]
                exact walk_of_makeDirectory (hparents.1.sound hd) hmade
              · split at h
                · next hthere =>
                  rw [← (Prod.mk.inj h).1]
                  exact walk_of_isDirectory hthere
                · cases (Prod.mk.inj h).2
        · split at h
          · next hthere =>
            rw [← (Prod.mk.inj h).1]
            exact walk_of_isDirectory hthere
          · cases (Prod.mk.inj h).2

/-- **A directory that was made with its parents is there.** -/
lemma walk_makeDirectories (hd : d.Sound) {d' : Disk} (h : d.makeDirectories p = (d', .ok ())) :
    ∃ i, d'.walk root p.components = .ok i :=
  walk_makeWithParents _ hd h

end Disk

/-! ### Identifiers -/

/-- An identifier that the disk takes as the name of a file: a single plain name, not too long, and
neither is the path of its file. -/
structure Nameable (directory : Path) (x : String) : Prop where
  /-- The identifier is a single plain name. -/
  plain : Plain x
  /-- The name is not too long. -/
  size_le : x.utf8ByteSize ≤ Disk.maxNameBytes
  /-- The disk takes the path. -/
  takes : Disk.Takes (contentPath directory x)

namespace Nameable

variable {directory : Path} {x : String} {d : Disk} {i : DirectoryId}

/-- **The path of an identifier leads to its name** in the directory. -/
lemma locate_eq (hx : Nameable directory x)
    (hw : d.walk Disk.root directory.components = .ok i) :
    d.locate (contentPath directory x) = .ok (.name i x) := by
  rw [Disk.locate_concat hx.takes (hx.plain.components_contentPath directory) hx.plain.ne_dot
    hx.plain.ne_dots, hw]

/-- The name of an identifier is looked up in the directory. -/
lemma lookupName_eq (hx : Nameable directory x) (d : Disk) (i : DirectoryId) :
    d.lookupName i x = .ok ((d.entries i).lookup x) := by
  rw [Disk.lookupName, if_neg (Nat.not_lt.2 hx.size_le)]

/-- **The directory of an identifier is not made again.** -/
lemma makeParent_eq (hx : Nameable directory x)
    (hw : d.walk Disk.root directory.components = .ok i) :
    d.makeParent (contentPath directory x) = (d, .ok ()) :=
  Disk.makeParent_eq hx.takes (i := i) (by
    rw [hx.plain.components_contentPath, List.dropLast_concat, hw])

end Nameable

end ClaimStore
