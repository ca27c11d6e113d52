import Mathlib.Data.List.DropRight
import Mathlib.Data.Nat.Digits.Defs
import Mathlib.Tactic.Ring
import ClaimStore.Text.Blank
import ClaimStore.Text.Decimal

/-!
# Blanks, case and numerals

Trimming a text cuts the blanks around it and no others, so two texts are trimmed alike exactly if
they differ in these blanks at most; and no character of ASCII becomes a blank, or stops being one,
in lower case. The texts that are read as words are exactly the decimal numerals below `2 ^ 64`.

## Main definitions

* `Text.Around` — a text is another one with blanks around it.
* `Text.lower` — the characters of a text, in lower case.
* `Text.Numeral` — a text is a decimal numeral of a number.

## Main results

* `Text.trim_eq_trim_iff` — what trimming forgets.
* `Text.lower_trim` — the case of a trimmed text.
* `Text.parseWord_eq_ok` — a text is read as a word exactly if it is a numeral of it.
-/

set_option autoImplicit false

namespace ClaimStore.Text

/-! ### Blanks -/

/-- The text is another one with blanks around it. -/
def Around (s core : String) : Prop :=
  ∃ front back : List Char, (∀ c ∈ front, isBlank c = true) ∧ (∀ c ∈ back, isBlank c = true) ∧
    s.toList = front ++ core.toList ++ back

/-- A text is trimmed at both ends. -/
lemma toList_trim (s : String) :
    (trim s).toList = (s.toList.dropWhile isBlank).rdropWhile isBlank := String.toList_ofList

/-- A text is what is left of it with the blanks that were cut. -/
lemma around_trim (s : String) : Around s (trim s) := by
  refine ⟨s.toList.takeWhile isBlank, (s.toList.dropWhile isBlank).rtakeWhile isBlank,
    fun c hc => List.mem_takeWhile_imp hc, fun c hc => List.mem_rtakeWhile_imp hc, ?_⟩
  rw [toList_trim, List.append_assoc, List.rdropWhile_append_rtakeWhile,
    List.takeWhile_append_dropWhile]

/-- Blanks at the end of a list are cut with all others there. -/
lemma rdropWhile_append_blanks {l back : List Char} (hback : ∀ c ∈ back, isBlank c = true) :
    (l ++ back).rdropWhile isBlank = l.rdropWhile isBlank := by
  unfold List.rdropWhile
  rw [List.reverse_append,
    List.dropWhile_append_of_pos fun c hc => hback c (List.mem_reverse.1 hc)]

/-- **Blanks around a text are cut.** -/
lemma Around.trim_eq {s core : String} (h : Around s core) : trim s = trim core := by
  obtain ⟨front, back, hfront, hback, hs⟩ := h
  have hall : ∀ c, c ∈ core.toList.dropWhile isBlank ++ back → c ∈ core.toList ++ back := by
    intro c hc
    rcases List.mem_append.1 hc with hc | hc
    · exact List.mem_append_left _ ((List.dropWhile_suffix _).subset hc)
    · exact List.mem_append_right _ hc
  refine String.toList_injective ?_
  rw [toList_trim, toList_trim, hs, List.append_assoc, List.dropWhile_append_of_pos hfront,
    List.dropWhile_append]
  split
  · next hempty =>
    -- there are only blanks
    rw [List.isEmpty_iff.1 hempty, List.rdropWhile_nil, List.rdropWhile_eq_nil_iff]
    exact fun c hc => hback c ((List.dropWhile_suffix _).subset hc)
  · exact rdropWhile_append_blanks hback

/-- **What trimming forgets** are the blanks around a text. -/
theorem trim_eq_trim_iff {s s' : String} :
    trim s = trim s' ↔ ∃ core, Around s core ∧ Around s' core := by
  constructor
  · intro h
    exact ⟨trim s, around_trim s, h ▸ around_trim s'⟩
  · rintro ⟨core, h, h'⟩
    rw [h.trim_eq, h'.trim_eq]

/-- A text that is trimmed does not begin with a blank. -/
lemma dropWhile_of_trim_eq {s : String} (h : trim s = s) :
    s.toList.dropWhile isBlank = s.toList := by
  have hlist : (s.toList.dropWhile isBlank).rdropWhile isBlank = s.toList := by
    rw [← toList_trim, h]
  have hle := (List.rdropWhile_prefix isBlank (s.toList.dropWhile isBlank)).length_le
  rw [hlist] at hle
  exact (List.dropWhile_suffix isBlank).eq_of_length
    (Nat.le_antisymm (List.dropWhile_suffix isBlank).length_le hle)

/-- **A trimmed text with more at its end** is trimmed, if what is added begins and ends with no
blank. -/
lemma trim_append {s : String} (h : trim s = s) (first last : Char) (mid : List Char)
    (hfirst : isBlank first = false) (hlast : isBlank last = false) :
    trim (s ++ String.ofList (first :: mid ++ [last])) =
      s ++ String.ofList (first :: mid ++ [last]) := by
  refine String.toList_injective ?_
  rw [toList_trim, String.toList_append, String.toList_ofList, List.dropWhile_append,
    dropWhile_of_trim_eq h]
  have hend : ∀ l : List Char, (l ++ (first :: mid ++ [last])).rdropWhile isBlank =
      l ++ (first :: mid ++ [last]) := by
    intro l
    rw [← List.append_assoc, List.rdropWhile_concat_neg]
    exact Bool.eq_false_iff.1 hlast
  split
  · next hempty =>
    rw [List.isEmpty_iff.1 hempty, List.cons_append, List.dropWhile_cons_of_neg (by simp [hfirst])]
    exact hend []
  · exact hend s.toList

/-! ### Case -/

/-- The characters of a text, in lower case. -/
def lower (s : String) : List Char := s.toList.map Char.toLower

/-- **A character is a blank** in both cases or in none. -/
lemma isBlank_toLower (c : Char) : isBlank c.toLower = isBlank c := by
  unfold Char.toLower
  split
  · next h =>
    have hge : 65 ≤ c.toNat := h.1
    have hle : c.toNat ≤ 90 := h.2
    have hsum : c.val.toNat + 32 < 2 ^ 32 := by
      show c.toNat + 32 < _
      omega
    have hval : (c.val + ('a'.val - 'A'.val)).toNat = c.toNat + 32 := by
      rw [UInt32.toNat_add]
      exact Nat.mod_eq_of_lt hsum
    have hblank : ∀ d : Char, 65 ≤ d.toNat → d.toNat ≤ 122 → isBlank d = false := by
      intro d hd hd'
      simp only [isBlank, Bool.or_eq_false_iff, Bool.and_eq_false_iff, decide_eq_false_iff_not,
        beq_eq_false_iff_ne]
      omega
    refine (hblank _ ?_ ?_).trans (hblank c hge (by omega)).symm
    · show 65 ≤ (c.val + ('a'.val - 'A'.val)).toNat
      omega
    · show (c.val + ('a'.val - 'A'.val)).toNat ≤ 122
      omega
  · rfl

/-- **Trimming does not depend on the case.** -/
lemma lower_trim (s : String) :
    lower (trim s) = ((lower s).dropWhile isBlank).rdropWhile isBlank := by
  have hcase : isBlank ∘ Char.toLower = isBlank := funext isBlank_toLower
  unfold lower
  rw [toList_trim, List.dropWhile_map, hcase]
  unfold List.rdropWhile
  rw [← List.map_reverse, List.dropWhile_map, hcase, List.map_reverse]

/-! ### Numerals -/

/-- The number that digits write, the first of them with the highest weight. -/
def digitsValue (ds : List Char) : Nat :=
  Nat.ofDigits 10 (ds.reverse.map fun c => c.toNat - '0'.toNat)

/-- **A decimal numeral** of a number: one digit or more, with at most one plus sign in front. -/
def Numeral (s : String) (n : Nat) : Prop :=
  ∃ sign ds, (sign = [] ∨ sign = ['+']) ∧ s.toList = sign ++ ds ∧ ds ≠ [] ∧
    (∀ c ∈ ds, c.isDigit = true) ∧ n = digitsValue ds

/-- The first digit counts for its place. -/
lemma digitsValue_cons (c : Char) (ds : List Char) :
    digitsValue (c :: ds) = (c.toNat - '0'.toNat) * 10 ^ ds.length + digitsValue ds := by
  unfold digitsValue
  rw [List.reverse_cons, List.map_append, Nat.ofDigits_append, List.length_map,
    List.length_reverse, List.map_singleton, Nat.ofDigits_singleton]
  ring

/-- **Digits are read** exactly if their number, behind those read before, is a word.

**Proof sketch.** Induction on the digits that are left, for every value that was read so far: what
comes out is that value times the place of the rest, and the value of the rest. -/
lemma parseDigits_eq_ok {acc n : Nat} (hacc : acc < UInt64.size) {cs : List Char} :
    parseDigits acc cs = .ok n ↔ (∀ c ∈ cs, c.isDigit = true) ∧
      n = acc * 10 ^ cs.length + digitsValue cs ∧ n < UInt64.size := by
  induction cs generalizing acc with
  | nil =>
    have hzero : digitsValue [] = 0 := rfl
    simp only [parseDigits, hzero, Except.ok.injEq, List.length_nil, pow_zero]
    constructor
    · rintro rfl
      exact ⟨nofun, by omega, hacc⟩
    · rintro ⟨-, hn, -⟩
      omega
  | cons c cs ih =>
    have hvalue : ∀ d, (10 * acc + d) * 10 ^ cs.length =
        acc * 10 ^ (cs.length + 1) + d * 10 ^ cs.length := fun d => by ring
    unfold parseDigits digitValue?
    by_cases hc : c.isDigit = true
    · simp only [hc, if_true, List.forall_mem_cons, true_and, List.length_cons, digitsValue_cons]
      split
      · next hlt => rw [ih hlt, hvalue, Nat.add_assoc]
      · next hge =>
        refine iff_of_false (fun h => nomatch h) fun ⟨_, hn, hlt⟩ => hge ?_
        -- what is read so far is not above the number
        calc 10 * acc + (c.toNat - '0'.toNat)
            ≤ (10 * acc + (c.toNat - '0'.toNat)) * 10 ^ cs.length :=
              Nat.le_mul_of_pos_right _ (Nat.pow_pos (by omega))
          _ ≤ n := by rw [hvalue, hn]; omega
          _ < UInt64.size := hlt
    · rw [if_neg hc]
      exact iff_of_false (fun h => nomatch h) fun h => hc (h.1 c List.mem_cons_self)

/-- What stands behind the sign is read as digits. -/
lemma parseDigits_map_eq_ok {cs : List Char} {n : UInt64} :
    (parseDigits 0 cs).map UInt64.ofNat = .ok n ↔
      (∀ c ∈ cs, c.isDigit = true) ∧ n.toNat = digitsValue cs := by
  have hread : ∀ m, parseDigits 0 cs = .ok m ↔
      (∀ c ∈ cs, c.isDigit = true) ∧ m = digitsValue cs ∧ m < UInt64.size := fun m => by
    rw [parseDigits_eq_ok (by decide), Nat.zero_mul, Nat.zero_add]
  constructor
  · intro h
    cases hp : parseDigits 0 cs with
    | error e => rw [hp] at h; cases h
    | ok m =>
      obtain ⟨hdigits, hm, hlt⟩ := (hread m).1 hp
      rw [hp] at h
      obtain rfl := Except.ok.inj h
      exact ⟨hdigits, by rw [UInt64.toNat_ofNat_of_lt' hlt, hm]⟩
  · rintro ⟨hdigits, hn⟩
    rw [(hread n.toNat).2 ⟨hdigits, hn, n.toNat_lt⟩, Except.map, UInt64.ofNat_toNat]

/-- **A text is read as a word** exactly if it is a numeral of it.

**Proof sketch.** A sign is taken off, the digits are read from the left, and the value has to be a
word. Each of the three tests is one of the conditions of a numeral. -/
theorem parseWord_eq_ok {s : String} {n : UInt64} : parseWord s = .ok n ↔ Numeral s n.toNat := by
  unfold parseWord Numeral
  split
  · next hs => simp [hs]
  · next hs =>
    refine iff_of_false (fun h => nomatch h) ?_
    rintro ⟨sign, ds, hsign, hsplit, hne, hdigits, -⟩
    rw [hs] at hsplit
    rcases hsign with rfl | rfl
    · subst hsplit
      exact absurd (hdigits '+' (List.mem_singleton_self _)) (by decide)
    · exact hne (List.cons.inj hsplit).2.symm
  · next cs hcs hs =>
    rw [parseDigits_map_eq_ok, hs]
    constructor
    · rintro ⟨hdigits, hn⟩
      exact ⟨['+'], cs, .inr rfl, rfl, hcs, hdigits, hn⟩
    · rintro ⟨sign, ds, rfl | rfl, hsplit, -, hdigits, hn⟩
      · rw [List.nil_append] at hsplit
        exact absurd (hdigits '+' (hsplit ▸ List.mem_cons_self)) (by decide)
      · obtain rfl := (List.cons.inj hsplit).2
        exact ⟨hdigits, hn⟩
  · next hempty hplus hsigned =>
    rw [parseDigits_map_eq_ok]
    constructor
    · rintro ⟨hdigits, hn⟩
      exact ⟨[], s.toList, .inl rfl, rfl, hempty, hdigits, hn⟩
    · rintro ⟨sign, ds, rfl | rfl, hsplit, -, hdigits, hn⟩
      · rw [hsplit]
        exact ⟨hdigits, hn⟩
      · exact absurd hsplit (hsigned ds)

end ClaimStore.Text
