import Mathlib.Data.Option.Basic
import ClaimStore.Config
import ClaimStore.Proofs.Lease
import ClaimStore.Proofs.Texts

/-!
# What properties describe

The kind of repository that properties describe depends on the class and on the properties of the
backend that the class selects, and on no others; of their values only what stands between the
blanks around them matters. The case of the class does not matter, nor any `Repository` at its end.
The volatile kind is described exactly if each limit that is given is a decimal numeral below
`2 ^ 64`, and then these are the limits.

## Main definitions

* `Config.BackendClass`, `Config.selected` — the backend that the class selects.
* `Config.keysRead` — the properties that matter.
* `Config.GivesLimit` — what a property says about a limit.
* `Config.Described` — how properties describe a kind.

## Main results

* `Config.repositoryKind_congr` — only the properties that are read matter.
* `Config.repositoryKind_of_stem` — two names of the same class describe the same.
* `Config.volatileKind_eq_ok` — when the volatile kind is described.
* `Config.described` — how every configuration describes a kind.
-/

set_option autoImplicit false

namespace ClaimStore.Config

open Text (trim lower Around Numeral)

/-! ### The backend that is selected -/

/-- A backend that a class selects. -/
inductive BackendClass where
  /-- Files below a directory. -/
  | files
  /-- Entries in memory. -/
  | volatile
  /-- Rows of a database file. -/
  | database
  deriving DecidableEq, Repr

namespace BackendClass

/-- The backend that a class stands for. -/
def ofStem? (stem : String) : Option BackendClass :=
  if stem = "filesystem" ∨ stem = "file" then some .files
  else if stem = "volatilecontent" ∨ stem = "volatile" then some .volatile
  else if stem = "databasecontent" ∨ stem = "database" then some .database
  else none

/-- The properties of a backend. -/
def keys : BackendClass → List String
  | .files => [Limits.directoryProperty]
  | .volatile => [Limits.volatileBytesProperty, Limits.volatileCountProperty]
  | .database => [Limits.databaseProperty]

/-- The class is a property of no backend. -/
lemma classProperty_notMem (b : BackendClass) : Limits.classProperty ∉ b.keys := by
  cases b <;> simp [keys, Limits.classProperty, Limits.directoryProperty,
    Limits.volatileBytesProperty, Limits.volatileCountProperty, Limits.databaseProperty]

end BackendClass

/-- The class that is named, or that of file repositories. -/
def className (c : Config) : String := (c.get? Limits.classProperty).getD "FileSystemRepository"

/-- The backend that is selected. -/
def selected (c : Config) : Option BackendClass :=
  BackendClass.ofStem? (classStem c.className)

/-- The properties that matter: the class, and those of the backend that it selects. -/
def keysRead (c : Config) : List String :=
  Limits.classProperty :: (c.selected.map BackendClass.keys).getD []

/-- What the properties describe for a backend. -/
def kindOf (c : Config) : BackendClass → Except Failure RepositoryKind
  | .files => .ok (.files (c.pathOr Limits.directoryProperty Limits.defaultContentDirectory))
  | .volatile => c.volatileKind
  | .database => .ok (.database (c.pathOr Limits.databaseProperty Limits.defaultDatabasePath))

/-- A result in which an unknown class is quoted in other words. -/
def requoted (name : String) : Except Failure RepositoryKind → Except Failure RepositoryKind
  | .error (.unknownClass _) => .error (.unknownClass name)
  | x => x

variable {c c' : Config}

/-- **The kind is that of the backend** that is selected. -/
lemma repositoryKind_eq (c : Config) : c.repositoryKind =
    match c.selected with
    | some b => c.kindOf b
    | none => .error (.unknownClass c.className) := by
  unfold repositoryKind selected BackendClass.ofStem?
  dsimp only
  rw [← className]
  generalize classStem c.className = stem
  by_cases h₁ : stem = "filesystem" ∨ stem = "file"
  · rw [if_pos h₁, if_pos h₁]
    rfl
  · rw [if_neg h₁, if_neg h₁]
    by_cases h₂ : stem = "volatilecontent" ∨ stem = "volatile"
    · rw [if_pos h₂, if_pos h₂]
      rfl
    · rw [if_neg h₂, if_neg h₂]
      by_cases h₃ : stem = "databasecontent" ∨ stem = "database"
      · rw [if_pos h₃, if_pos h₃]
        rfl
      · rw [if_neg h₃, if_neg h₃]

/-- A class that is selected decides the kind. -/
lemma repositoryKind_some {b : BackendClass} (h : c.selected = some b) :
    c.repositoryKind = c.kindOf b := by
  rw [repositoryKind_eq, h]

/-- Where none is selected the class is unknown. -/
lemma repositoryKind_none (h : c.selected = none) :
    c.repositoryKind = .error (.unknownClass c.className) := by
  rw [repositoryKind_eq, h]

/-! ### Properties that matter -/

/-- A limit depends on its own property only. -/
lemma wordOr_congr {key : String} (h : c'.get? key = c.get? key) (fallback : UInt64) :
    c'.wordOr key fallback = c.wordOr key fallback := by
  rw [wordOr, wordOr, h]

/-- What is described for a backend depends on its properties. -/
lemma kindOf_congr {b : BackendClass} (h : ∀ key ∈ b.keys, c'.get? key = c.get? key) :
    c'.kindOf b = c.kindOf b := by
  cases b with
  | files =>
    have hpath := h Limits.directoryProperty (List.mem_singleton_self _)
    rw [kindOf, kindOf, pathOr, pathOr, hpath]
  | volatile =>
    have hbytes := wordOr_congr (h Limits.volatileBytesProperty List.mem_cons_self)
    have hcount := wordOr_congr (h Limits.volatileCountProperty
      (List.mem_cons_of_mem _ (List.mem_singleton_self _)))
    rw [kindOf, kindOf, volatileKind, volatileKind, hbytes, hcount]
  | database =>
    have hpath := h Limits.databaseProperty (List.mem_singleton_self _)
    rw [kindOf, kindOf, pathOr, pathOr, hpath]

/-- The properties of the selected class are read. -/
lemma keys_subset_keysRead {b : BackendClass} (h : c.selected = some b) {key : String}
    (hkey : key ∈ b.keys) : key ∈ c.keysRead := by
  rw [keysRead, h]
  exact List.mem_cons_of_mem _ hkey

/-- **Only the properties that are read matter.** -/
lemma repositoryKind_congr (h : ∀ key ∈ c.keysRead, c'.get? key = c.get? key) :
    c'.repositoryKind = c.repositoryKind := by
  have hname : c'.className = c.className := by
    rw [className, className, h Limits.classProperty List.mem_cons_self]
  have hselected : c'.selected = c.selected := by rw [selected, selected, hname]
  cases hb : c.selected with
  | none => rw [repositoryKind_none hb, repositoryKind_none (hselected.trans hb), hname]
  | some b =>
    rw [repositoryKind_some hb, repositoryKind_some (hselected.trans hb)]
    exact kindOf_congr fun key hkey => h key (keys_subset_keysRead hb hkey)

/-- Values that differ in the blanks around them are the same property. -/
lemma get?_eq_of_around {key : String}
    (h : Option.Rel (fun v v' => ∃ core, Around v core ∧ Around v' core)
      (c.properties.lookup key) (c'.properties.lookup key)) : c'.get? key = c.get? key := by
  unfold get?
  generalize c.properties.lookup key = v at h
  generalize c'.properties.lookup key = v' at h
  cases h with
  | some hv => exact congrArg some (Text.trim_eq_trim_iff.2 hv).symm
  | none => rfl

/-! ### Names of a class -/

/-- A property that is set is found without the blanks around it, and the others are as they
were. -/
lemma get?_set (c : Config) (key value other : String) :
    (c.set key value).get? other = if other = key then some (trim value) else c.get? other := by
  unfold get? set
  dsimp only
  rw [List.lookup_cons]
  by_cases h : other = key
  · simp [h]
  · rw [if_neg h, beq_eq_false_iff_ne.2 h]
    dsimp only
    rw [lookup_filter_ne, if_neg h]

/-- The class name that is set is without the blanks around it. -/
lemma className_set (c : Config) (value : String) :
    (c.set Limits.classProperty value).className = trim value := by
  rw [className, get?_set, if_pos rfl, Option.getD_some]

/-- Where no class is unknown there is nothing to quote. -/
lemma requoted_eq_self {x : Except Failure RepositoryKind}
    (h : ∀ quoted, x ≠ .error (.unknownClass quoted)) (name : String) : requoted name x = x := by
  cases x with
  | ok kind => rfl
  | error e =>
    cases e with
    | unknownClass quoted => exact absurd rfl (h quoted)
    | _ => rfl

/-- A limit that is no numeral is not an unknown class. -/
lemma wordOr_ne_unknownClass (c : Config) (key : String) (usual : UInt64) (quoted : String) :
    c.wordOr key usual ≠ .error (.unknownClass quoted) := by
  intro h
  unfold wordOr at h
  split at h
  · cases h
  · split at h <;> cases h

/-- **No backend reports an unknown class.** -/
lemma kindOf_ne_unknownClass (c : Config) (b : BackendClass) (quoted : String) :
    c.kindOf b ≠ .error (.unknownClass quoted) := by
  intro h
  cases b with
  | files => cases h
  | database => cases h
  | volatile =>
    unfold kindOf volatileKind at h
    dsimp only at h
    split at h
    · next e hbytes =>
      obtain rfl := Except.error.inj h
      exact c.wordOr_ne_unknownClass _ _ quoted hbytes
    · split at h
      · next e hcount =>
        obtain rfl := Except.error.inj h
        exact c.wordOr_ne_unknownClass _ _ quoted hcount
      · cases h

/-- **Two names of the same class** describe the same, up to the name that is quoted. -/
lemma repositoryKind_of_stem (c : Config) (v v' : String)
    (h : classStem (trim v') = classStem (trim v)) :
    (c.set Limits.classProperty v').repositoryKind =
      requoted (trim v') (c.set Limits.classProperty v).repositoryKind := by
  have hselected : (c.set Limits.classProperty v').selected =
      (c.set Limits.classProperty v).selected := by
    rw [selected, selected, className_set, className_set, h]
  cases hb : (c.set Limits.classProperty v).selected with
  | none =>
    rw [repositoryKind_none hb, repositoryKind_none (hselected.trans hb), className_set,
      className_set, requoted]
  | some b =>
    rw [repositoryKind_some hb, repositoryKind_some (hselected.trans hb),
      requoted_eq_self (kindOf_ne_unknownClass _ b)]
    refine kindOf_congr fun key hkey => ?_
    have hne : key ≠ Limits.classProperty := fun he => b.classProperty_notMem (he ▸ hkey)
    rw [get?_set, get?_set, if_neg hne, if_neg hne]

/-- The stem of a class name does not depend on the case. -/
lemma classStem_of_lower {v v' : String} (h : lower v' = lower v) :
    classStem v' = classStem v := by
  unfold lower at h
  rw [classStem, classStem, h]

/-- A copy in front is dropped with the others. -/
lemma dropCopies_append {p : List Char} (hp : p ≠ []) (s : List Char) :
    dropCopies p (p ++ s) = dropCopies p s := by
  rw [dropCopies, dif_pos ⟨hp, List.isPrefixOf_iff_prefix.2 (List.prefix_append p s)⟩,
    List.drop_left]

/-- The stem of a class name does not depend on the suffix. -/
lemma classStem_append (v : String) : classStem (v ++ "Repository") = classStem v := by
  have hlower : "Repository".toList.map Char.toLower = "repository".toList := by decide
  unfold classStem
  rw [String.toList_append, List.map_append, hlower, List.reverse_append,
    dropCopies_append (by decide)]

/-! ### Limits -/

/-- A property gives a limit: it is a numeral of it, or it is not there and the limit is the usual
one. -/
def GivesLimit (c : Config) (key : String) (usual n : UInt64) : Prop :=
  match c.get? key with
  | none => n = usual
  | some raw => Numeral raw n.toNat

/-- A property holds a decimal numeral below `2 ^ 64`, if it is there. -/
def HoldsWord (c : Config) (key : String) : Prop :=
  ∀ raw, c.get? key = some raw → ∃ n, Numeral raw n ∧ n < 2 ^ 64

/-- What a property gives as a limit. -/
lemma wordOr_eq_ok {key : String} {usual n : UInt64} :
    c.wordOr key usual = .ok n ↔ c.GivesLimit key usual n := by
  unfold wordOr GivesLimit
  cases c.get? key with
  | none => simp [eq_comm]
  | some raw =>
    dsimp only
    rw [← Text.parseWord_eq_ok]
    cases Text.parseWord raw <;> simp

/-- A property holds a word, if it is there, exactly where it gives a limit. -/
lemma holdsWord_iff (c : Config) (key : String) (usual : UInt64) :
    c.HoldsWord key ↔ ∃ n, c.GivesLimit key usual n := by
  unfold HoldsWord GivesLimit
  cases c.get? key with
  | none => simp
  | some raw =>
    constructor
    · intro h
      obtain ⟨n, hn, hlt⟩ := h raw rfl
      exact ⟨UInt64.ofNat n, by rwa [UInt64.toNat_ofNat_of_lt' hlt]⟩
    · rintro ⟨n, hn⟩ raw' hraw
      obtain rfl := Option.some.inj hraw
      exact ⟨n.toNat, hn, n.toNat_lt⟩

/-- **The volatile kind is described** exactly under the limits that its properties give. -/
lemma volatileKind_eq_ok {kind : RepositoryKind} : c.volatileKind = .ok kind ↔
    ∃ m n, kind = .volatile m n ∧
      c.GivesLimit Limits.volatileBytesProperty Limits.defaultVolatileBytes m ∧
        c.GivesLimit Limits.volatileCountProperty Limits.defaultVolatileCount n := by
  simp only [← wordOr_eq_ok]
  unfold volatileKind
  cases c.wordOr Limits.volatileBytesProperty Limits.defaultVolatileBytes with
  | error e => simp
  | ok m =>
    cases c.wordOr Limits.volatileCountProperty Limits.defaultVolatileCount with
    | error e => simp
    | ok n => simp [eq_comm]

/-! ### Descriptions -/

/-- **How properties describe a kind of repository.** -/
structure Described (c : Config) : Prop where
  /-- Only the properties that are read matter. -/
  congr : ∀ c' : Config, (∀ key ∈ c.keysRead, c'.get? key = c.get? key) →
    c'.repositoryKind = c.repositoryKind
  /-- The blanks around their values do not matter either. -/
  blanks : ∀ c' : Config, (∀ key ∈ c.keysRead,
    Option.Rel (fun v v' => ∃ core, Around v core ∧ Around v' core) (c.properties.lookup key)
      (c'.properties.lookup key)) → c'.repositoryKind = c.repositoryKind
  /-- The case of the class does not matter. -/
  case_eq : ∀ v v', lower v' = lower v → (c.set Limits.classProperty v').repositoryKind =
    requoted (trim v') (c.set Limits.classProperty v).repositoryKind
  /-- Nor does a suffix of it, if it follows no blank. -/
  suffix_eq : ∀ v, trim v = v → (c.set Limits.classProperty (v ++ "Repository")).repositoryKind =
    requoted (v ++ "Repository") (c.set Limits.classProperty v).repositoryKind
  /-- A volatile class describes a kind exactly if each limit that is given is a word. -/
  volatile_isOk_iff : c.selected = some .volatile → ((∃ kind, c.repositoryKind = .ok kind) ↔
    ∀ key ∈ BackendClass.volatile.keys, c.HoldsWord key)
  /-- And these are the limits. -/
  volatile_eq_ok_iff : c.selected = some .volatile → ∀ kind, c.repositoryKind = .ok kind ↔
    ∃ m n, kind = .volatile m n ∧
      c.GivesLimit Limits.volatileBytesProperty Limits.defaultVolatileBytes m ∧
        c.GivesLimit Limits.volatileCountProperty Limits.defaultVolatileCount n

/-- **Every configuration describes a kind like this.** -/
theorem described (c : Config) : c.Described where
  congr c' h := repositoryKind_congr h
  blanks c' h := repositoryKind_congr fun key hkey => get?_eq_of_around (h key hkey)
  case_eq v v' h := by
    refine c.repositoryKind_of_stem v v' (classStem_of_lower ?_)
    rw [Text.lower_trim, Text.lower_trim, h]
  suffix_eq v hv := by
    have htrim : trim (v ++ "Repository") = v ++ "Repository" :=
      Text.trim_append hv 'R' 'y' "epositor".toList (by decide) (by decide)
    have hkind := c.repositoryKind_of_stem v (v ++ "Repository")
      (by rw [htrim, hv, classStem_append])
    rwa [htrim] at hkind
  volatile_isOk_iff h := by
    have hkeys : (∀ key ∈ BackendClass.volatile.keys, c.HoldsWord key) ↔
        c.HoldsWord Limits.volatileBytesProperty ∧ c.HoldsWord Limits.volatileCountProperty := by
      simp [BackendClass.keys]
    rw [repositoryKind_some h, hkeys, c.holdsWord_iff _ Limits.defaultVolatileBytes,
      c.holdsWord_iff _ Limits.defaultVolatileCount]
    show (∃ kind, c.volatileKind = .ok kind) ↔ _
    simp only [volatileKind_eq_ok]
    constructor
    · rintro ⟨_, m, n, -, hm, hn⟩
      exact ⟨⟨m, hm⟩, ⟨n, hn⟩⟩
    · rintro ⟨⟨m, hm⟩, ⟨n, hn⟩⟩
      exact ⟨_, m, n, rfl, hm, hn⟩
  volatile_eq_ok_iff h kind := by
    rw [repositoryKind_some h]
    exact volatileKind_eq_ok

end ClaimStore.Config
