import ClaimStore.Proofs.Disk

/-!
# Plain names

An identifier that is a single plain name leads to that name in the directory of its repository,
and two of them never lead to the same one. One that consists of plain names between slashes leads
to its last name, through a directory for each name before it.

## Main definitions

* `ClaimStore.Plain` — a name without slashes that is neither empty nor made of dots.
* `ClaimStore.names`, `ClaimStore.Nested` — the names between slashes, and that all are plain.

## Main results

* `Nested.components_contentPath` — the components of the path of an identifier of plain names.
* `Plain.locate_contentPath` — where the path of a plain identifier leads.
-/

set_option autoImplicit false

namespace ClaimStore

/-- A single plain name: it is not empty, has no slash, and stands neither for the directory it is
in nor for the one above. -/
structure Plain (x : String) : Prop where
  /-- The name is not empty. -/
  ne_empty : x ≠ ""
  /-- The name does not stand for the directory itself. -/
  ne_dot : x ≠ "."
  /-- The name does not stand for the directory above. -/
  ne_dots : x ≠ ".."
  /-- The name has no slash. -/
  not_mem_slash : '/' ∉ x.toList

instance (x : String) : Decidable (Plain x) :=
  decidable_of_iff (x ≠ "" ∧ x ≠ "." ∧ x ≠ ".." ∧ '/' ∉ x.toList)
    ⟨fun h => ⟨h.1, h.2.1, h.2.2.1, h.2.2.2⟩, fun h => ⟨h.1, h.2, h.3, h.4⟩⟩

/-- A text without slashes is one piece. -/
lemma Path.splitSlashes_of_not_mem {l : List Char} (h : '/' ∉ l) : splitSlashes l = (l, []) := by
  induction l with
  | nil => rfl
  | cons c l ih =>
    have hc : c ≠ '/' := fun hc => h (hc ▸ List.mem_cons_self)
    have hl : splitSlashes l = (l, []) := ih fun hm => h (List.mem_cons_of_mem _ hm)
    rw [splitSlashes, if_neg hc, hl]

/-- **The components of a path that is continued** by one that does not begin at the root. -/
lemma Path.components_join {p q : Path} (hq : q.isRooted = false) :
    (p.join q).components = p.components ++ q.components := by
  rw [join, hq, Bool.false_or]
  split
  · next hempty =>
    have h : p.first = "" ∧ p.rest = [] := by simpa [isEmpty] using hempty
    simp [components, segments, h.1, h.2]
  · split
    · next hslash =>
      have hlast : p.rest.getLast? = some "" := by simpa [endsInSlash] using hslash
      obtain ⟨l, hl⟩ := List.getLast?_eq_some_iff.1 hlast
      simp only [components, segments, hl, List.dropLast_concat, ← List.cons_append,
        List.filter_append]
      simp
    · simp only [components, segments, ← List.cons_append, List.filter_append]

/-- The names between the slashes of an identifier; there is at least one. -/
def names (x : String) : List String := (Path.ofString x).segments

/-- The identifier consists of plain names between slashes. -/
def Nested (x : String) : Prop := ∀ n ∈ names x, Plain n

instance (x : String) : Decidable (Nested x) := inferInstanceAs (Decidable (∀ n ∈ names x, Plain n))

/-- Every identifier has a name, which may be empty. -/
lemma names_ne_nil (x : String) : names x ≠ [] := List.cons_ne_nil _ _

namespace Nested

variable {x : String}

/-- The names are left when the empty ones are taken out. -/
lemma filter_names (hx : Nested x) : (names x).filter (· != "") = names x :=
  List.filter_eq_self.2 fun n hn => bne_iff_ne.2 (hx n hn).ne_empty

/-- A nested identifier begins with a name that is not empty. -/
lemma first_ne_empty (hx : Nested x) : (Path.ofString x).first ≠ "" :=
  (hx _ List.mem_cons_self).ne_empty

/-- An identifier of plain names does not begin at the root. -/
lemma isRooted_ofString (hx : Nested x) : (Path.ofString x).isRooted = false := by
  rw [Path.isRooted, beq_false_of_ne hx.first_ne_empty, Bool.false_and]

/-- The path of an identifier of plain names: the names alone where the directory is the empty path,
and the names behind the directory elsewhere. -/
lemma contentPath_cases (hx : Nested x) (p : Path) :
    (p.first = "" ∧ p.rest = [] ∧ contentPath p x = Path.ofString x) ∨
      ∃ l, contentPath p x = ⟨p.first, l ++ names x⟩ ∧
        l.filter (· != "") = p.rest.filter (· != "") := by
  unfold contentPath
  rw [Path.join, hx.isRooted_ofString, Bool.false_or]
  split
  · next hempty =>
    have h : p.first = "" ∧ p.rest = [] := by simpa [Path.isEmpty] using hempty
    exact .inl ⟨h.1, h.2, rfl⟩
  · split
    · next hslash =>
      refine .inr ⟨p.rest.dropLast, rfl, ?_⟩
      have hlast : p.rest.getLast? = some "" := by simpa [Path.endsInSlash] using hslash
      obtain ⟨l, hl⟩ := List.getLast?_eq_some_iff.1 hlast
      rw [hl, List.filter_append, List.dropLast_concat]
      simp
    · exact .inr ⟨p.rest, rfl, rfl⟩

/-- **The components of the path of an identifier of plain names** are those of the directory, and
the names. -/
lemma components_contentPath (hx : Nested x) (p : Path) :
    (contentPath p x).components = p.components ++ names x := by
  rw [contentPath, Path.components_join hx.isRooted_ofString]
  exact congrArg _ hx.filter_names

/-- The path of an identifier of plain names is not empty. -/
lemma isEmpty_contentPath (hx : Nested x) (p : Path) : (contentPath p x).isEmpty = false := by
  rcases hx.contentPath_cases p with ⟨-, -, h⟩ | ⟨l, h, -⟩
  · rw [h, Path.isEmpty, beq_false_of_ne hx.first_ne_empty, Bool.false_and]
  · simp [h, Path.isEmpty, names_ne_nil]

/-- The path of an identifier of plain names does not end in a slash. -/
lemma endsInSlash_contentPath (hx : Nested x) (p : Path) :
    (contentPath p x).endsInSlash = false := by
  have hlast : ∀ l : List String, (∀ n ∈ l, Plain n) → l.getLast? ≠ some "" := fun l hl h =>
    (hl _ (List.mem_of_getLast? h)).ne_empty rfl
  rcases hx.contentPath_cases p with ⟨-, -, h⟩ | ⟨l, h, -⟩
  · rw [h, Path.endsInSlash]
    exact beq_false_of_ne (hlast _ fun n hn => hx n (List.mem_cons_of_mem _ hn))
  · rw [h, Path.endsInSlash, List.getLast?_append,
      Option.or_of_isSome (List.getLast?_isSome.2 (names_ne_nil x))]
    exact beq_false_of_ne (hlast _ hx)

end Nested

namespace Plain

variable {x : String}

/-- A plain name is a path of one segment. -/
lemma ofString_eq (hx : Plain x) : Path.ofString x = ⟨x, []⟩ := by
  simp [Path.ofString, Path.splitSlashes_of_not_mem hx.not_mem_slash]

/-- A plain name is the only one of its own. -/
lemma names_eq (hx : Plain x) : names x = [x] := by
  rw [names, hx.ofString_eq, Path.segments]

/-- A plain name consists of plain names. -/
lemma nested (hx : Plain x) : Nested x := fun n hn => by
  rw [hx.names_eq] at hn
  rwa [List.mem_singleton.1 hn]

/-- **The components of the path of a plain identifier** are those of the directory, and the
name. -/
lemma components_contentPath (hx : Plain x) (p : Path) :
    (contentPath p x).components = p.components ++ [x] := by
  rw [hx.nested.components_contentPath, hx.names_eq]

/-- The path of a plain identifier is not empty. -/
lemma isEmpty_contentPath (hx : Plain x) (p : Path) : (contentPath p x).isEmpty = false :=
  hx.nested.isEmpty_contentPath p

/-- The path of a plain identifier does not end in a slash. -/
lemma endsInSlash_contentPath (hx : Plain x) (p : Path) :
    (contentPath p x).endsInSlash = false :=
  hx.nested.endsInSlash_contentPath p

/-- **The path of a plain identifier leads to its name** in the directory of the repository, if it
leads anywhere. -/
lemma locate_contentPath (hx : Plain x) {d : Disk} {p : Path} {spot : Spot}
    (h : d.locate (contentPath p x) = .ok spot) :
    ∃ i, d.walk Disk.root p.components = .ok i ∧ spot = .name i x := by
  unfold Disk.locate at h
  rw [hx.isEmpty_contentPath, hx.components_contentPath, List.getLast?_concat,
    List.dropLast_concat] at h
  split at h
  · cases h
  · simp only [Bool.false_eq_true, if_false] at h
    split at h
    · cases h
    · split at h
      · cases h
      · next i hi =>
        rw [if_neg hx.ne_dot, if_neg hx.ne_dots] at h
        exact ⟨i, hi, (Except.ok.inj h).symm⟩

/-- **A plain identifier that is too long for a name is refused**: the disk says neither that it
stands for something nor that it is free. -/
lemma resolve_of_long (hx : Plain x) {d : Disk} {p : Path} {i : DirectoryId}
    (hlong : Disk.maxNameBytes < x.utf8ByteSize) (hw : d.walk Disk.root p.components = .ok i) :
    ∃ e, d.resolve (contentPath p x) = .error e ∧ e ≠ .os .notFound := by
  unfold Disk.resolve
  cases hl : d.locate (contentPath p x) with
  | error e =>
    refine ⟨e, rfl, ?_⟩
    unfold Disk.locate at hl
    rw [hx.isEmpty_contentPath, hx.components_contentPath, List.getLast?_concat,
      List.dropLast_concat, hw] at hl
    simp only [Bool.false_eq_true, if_false, if_neg hx.ne_dot, if_neg hx.ne_dots] at hl
    split at hl
    · rw [← Except.error.inj hl]
      exact IoError.noConfusion
    · split at hl
      · rw [← Except.error.inj hl]
        decide
      · cases hl
  | ok spot =>
    obtain ⟨j, -, rfl⟩ := hx.locate_contentPath hl
    dsimp only
    rw [Disk.lookupName, if_pos hlong]
    exact ⟨_, rfl, by decide⟩

/-- A plain identifier that leads to an item is the name of that item. -/
lemma lookup_of_resolve (hx : Plain x) {d : Disk} {p : Path} {y : Item}
    (h : d.resolve (contentPath p x) = .ok y) :
    ∃ i, d.walk Disk.root p.components = .ok i ∧ (d.entries i).lookup x = some y := by
  unfold Disk.resolve at h
  split at h
  · cases h
  · next hl =>
    obtain ⟨i, -, hs⟩ := hx.locate_contentPath hl
    cases hs
  · next j name hl =>
    obtain ⟨i, hi, hs⟩ := hx.locate_contentPath hl
    obtain ⟨rfl, rfl⟩ := Spot.name.inj hs
    refine ⟨j, hi, ?_⟩
    split at h
    · cases h
    · cases h
    · next hn =>
      obtain rfl := Except.ok.inj h
      exact Disk.lookupName_ok hn
    · next hn =>
      split at h
      · cases h
      · obtain rfl := Except.ok.inj h
        exact Disk.lookupName_ok hn

/-- A plain identifier whose file is opened for writing is the name of that file: of one that was
there, or of a new one. -/
lemma lookup_of_openCreating (hx : Plain x) {d d' : Disk} {p : Path} {id : FileId}
    (h : d.openCreating (contentPath p x) = .ok (id, d')) :
    ∃ i, d.walk Disk.root p.components = .ok i ∧
      ((d' = d ∧ (d.entries i).lookup x = some (.file id)) ∨
        (d' = (d.addFile i x).2 ∧ id = d.contents.size ∧ (d.entries i).lookup x = none)) := by
  unfold Disk.openCreating at h
  split at h
  · cases h
  · cases h
  · next j name hl =>
    obtain ⟨i, hi, hs⟩ := hx.locate_contentPath hl
    obtain ⟨rfl, rfl⟩ := Spot.name.inj hs
    refine ⟨j, hi, ?_⟩
    rw [hx.endsInSlash_contentPath] at h
    simp only [Bool.false_eq_true, if_false] at h
    split at h
    · cases h
    · cases h
    · next hn =>
      obtain ⟨rfl, rfl⟩ := Prod.mk.inj (Except.ok.inj h)
      exact .inl ⟨rfl, Disk.lookupName_ok hn⟩
    · next hn =>
      have hadd := Except.ok.inj h
      refine .inr ⟨?_, ?_, Disk.lookupName_ok hn⟩
      · rw [hadd]
      · exact (congrArg Prod.fst hadd).symm

end Plain

end ClaimStore
