/-!
# Paths

A path is read as its segments between slashes, so that its text is kept exactly: `a//b/.` has
the segments `a`, the empty one, `b` and `.`. Empty segments and single dots name nothing and are
the *fillers* of a path. A path whose first segment is empty and that has a second one begins at
the root.

## Main definitions

* `ClaimStore.Path` — the segments of a path.
* `Path.ofString`, `Path.toString` — reading and writing.
* `Path.join` — a path continued by another one.
* `Path.parent?` — the path without its last name.
* `Path.components` — the names, single dots and double dots along a path.

## Main results

* `Path.parent?_depth_lt` — a parent is less deep, so a path has at most as many
  parents as its depth.
-/

set_option autoImplicit false

namespace ClaimStore

/-- A path as its segments between slashes; there is at least one. -/
structure Path where
  /-- The segment before the first slash. -/
  first : String
  /-- The segments after the first slash. -/
  rest : List String
  deriving DecidableEq, Repr

namespace Path

/-! ### Reading and writing -/

/-- The pieces of a text between slashes; there is at least one. -/
def splitSlashes : List Char → List Char × List (List Char)
  | [] => ([], [])
  | c :: cs =>
    if c = '/' then ([], (splitSlashes cs).1 :: (splitSlashes cs).2)
    else (c :: (splitSlashes cs).1, (splitSlashes cs).2)

/-- The path that a text writes. -/
def ofString (s : String) : Path where
  first := String.ofList (splitSlashes s.toList).1
  rest := (splitSlashes s.toList).2.map String.ofList

/-- All segments, from the first to the last. -/
def segments (p : Path) : List String := p.first :: p.rest

/-- The text of a path. -/
def toString (p : Path) : String := "/".intercalate p.segments

instance : ToString Path := ⟨toString⟩

/-! ### Continuing a path -/

/-- The path begins at the root. -/
def isRooted (p : Path) : Bool := p.first == "" && !p.rest.isEmpty

/-- The path is the empty text. -/
def isEmpty (p : Path) : Bool := p.first == "" && p.rest.isEmpty

/-- The path ends in a slash. -/
def endsInSlash (p : Path) : Bool := p.rest.getLast? == some ""

/-- The path `p` continued by `q`: a slash is put between them unless `p` ends in one or is empty,
and a `q` that begins at the root stands alone. -/
def join (p q : Path) : Path :=
  if q.isRooted || p.isEmpty then q
  else if p.endsInSlash then { p with rest := p.rest.dropLast ++ q.segments }
  else { p with rest := p.rest ++ q.segments }

/-! ### Parents -/

/-- The segment names nothing. -/
def isFiller (s : String) : Bool := s == "" || s == "."

/-- A list of segments without the fillers at its end. -/
def trimFillers (l : List String) : List String := (l.reverse.dropWhile isFiller).reverse

/-- The path without its last name and the fillers around it. The empty path and the root have no
parent; a path of one name has the empty path as its parent. -/
def parent? (p : Path) : Option Path :=
  if trimFillers p.rest = [] then
    if p.first = "" then none else some ⟨"", []⟩
  else if trimFillers (trimFillers p.rest).dropLast = [] then
    if p.first = "" then some ⟨"", [""]⟩ else some ⟨p.first, []⟩
  else some ⟨p.first, trimFillers (trimFillers p.rest).dropLast⟩

/-- The number of names in a path, with one more for a first segment that is not empty. -/
def depth (p : Path) : Nat := p.rest.countP (!isFiller ·) + if p.first = "" then 0 else 1

/-- The components that are taken off the end are fillers, so the others are as many as before. -/
theorem countP_trimFillers (l : List String) :
    (trimFillers l).countP (!isFiller ·) = l.countP (!isFiller ·) := by
  have h : ∀ m : List String,
      (m.dropWhile isFiller).countP (!isFiller ·) = m.countP (!isFiller ·) := by
    intro m
    induction m with
    | nil => rfl
    | cons s m ih => by_cases hs : isFiller s = true <;> simp [hs, ih]
  rw [trimFillers, List.countP_reverse, h, List.countP_reverse]

/-- What is left after trimming ends in a segment that names something. -/
theorem countP_dropLast_trimFillers {l : List String} (h : trimFillers l ≠ []) :
    (trimFillers l).dropLast.countP (!isFiller ·) + 1 = l.countP (!isFiller ·) := by
  rw [← countP_trimFillers l]
  have hne : l.reverse.dropWhile isFiller ≠ [] := by
    intro h0; exact h (by simp [trimFillers, h0])
  obtain ⟨s, m, hsm⟩ := List.exists_cons_of_ne_nil hne
  have hs : isFiller s = false := by
    have := List.head_dropWhile_not isFiller hne
    simpa [hsm] using this
  simp [trimFillers, hsm, hs]

/-- **A parent is less deep.** -/
theorem parent?_depth_lt {p q : Path} (h : p.parent? = some q) : q.depth < p.depth := by
  have hfill : isFiller "" = true := by decide
  unfold parent? at h
  split at h
  · split at h
    · simp at h
    · next hf => simp only [Option.some.injEq] at h; subst h; simp [depth, hf]
  · next hne =>
    have hc := countP_dropLast_trimFillers hne
    have ht := countP_trimFillers (trimFillers p.rest).dropLast
    split at h
    · split at h
      · next hf =>
        simp only [Option.some.injEq] at h; subst h
        simp only [depth, hf, if_true, List.countP_cons, List.countP_nil, hfill, Bool.not_true,
          Bool.false_eq_true, if_false]
        omega
      · next hf =>
        simp only [Option.some.injEq] at h; subst h
        simp only [depth, hf, if_false, List.countP_nil]; omega
    · simp only [Option.some.injEq] at h; subst h
      simp only [depth, ht]; omega

/-! ### Walking a path -/

/-- The names, single dots and double dots along a path. -/
def components (p : Path) : List String := p.segments.filter (· != "")

/-- The path holds a NUL character. -/
def hasNul (p : Path) : Bool := p.segments.any fun s => s.toList.contains '\x00'

end Path

end ClaimStore
