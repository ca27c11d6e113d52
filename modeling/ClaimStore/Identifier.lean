/-!
# Random identifiers

Identifiers for claims whose name does not matter. They have the form of a random identifier of
version 4: five groups of hexadecimal digits, where the first digit of the third group is the
version and the first two bits of the fourth are the variant. The other 122 bits are drawn by the
caller, so that what is named by them follows from what was drawn.

## Main definitions

* `ClaimStore.Identifier.ofBits` — the identifier with the bits of a number.

## Main results

* `Identifier.length_ofBits` — all identifiers are equally long.
-/

set_option autoImplicit false

namespace ClaimStore.Identifier

/-- A number in hexadecimal, with zeros in front up to a width. -/
def hex (width n : Nat) : List Char :=
  List.replicate (width - (Nat.toDigits 16 n).length) '0' ++ Nat.toDigits 16 n

/-- A number that has no more digits than the width is written in exactly that width. -/
theorem length_hex {width n : Nat} (h : (Nat.toDigits 16 n).length ≤ width) :
    (hex width n).length = width := by
  simp [hex]; omega

/-- The identifier with the lowest 122 bits of a number. -/
def ofBits (bits : Nat) : String :=
  String.ofList (hex 8 (bits % 0x100000000) ++
    '-' :: hex 4 (bits / 0x100000000 % 0x10000) ++
    '-' :: '4' :: hex 3 (bits / 0x1000000000000 % 0x1000) ++
    '-' :: hex 4 (0x8000 + bits / 0x1000000000000000 % 0x4000) ++
    '-' :: hex 12 (bits / 0x4000000000000000000 % 0x1000000000000))

/-- **All identifiers are equally long.** -/
theorem length_ofBits (bits : Nat) : (ofBits bits).length = 36 := by
  have h8 : (hex 8 (bits % 0x100000000)).length = 8 :=
    length_hex ((Nat.length_toDigits_le_iff (by decide) (by decide)).2 (by omega))
  have h4 : (hex 4 (bits / 0x100000000 % 0x10000)).length = 4 :=
    length_hex ((Nat.length_toDigits_le_iff (by decide) (by decide)).2 (by omega))
  have h3 : (hex 3 (bits / 0x1000000000000 % 0x1000)).length = 3 :=
    length_hex ((Nat.length_toDigits_le_iff (by decide) (by decide)).2 (by omega))
  have hv : (hex 4 (0x8000 + bits / 0x1000000000000000 % 0x4000)).length = 4 :=
    length_hex ((Nat.length_toDigits_le_iff (by decide) (by decide)).2 (by omega))
  have h12 : (hex 12 (bits / 0x4000000000000000000 % 0x1000000000000)).length = 12 :=
    length_hex ((Nat.length_toDigits_le_iff (by decide) (by decide)).2 (by omega))
  simp only [ofBits, String.length_ofList, List.length_append, List.length_cons, h8, h4, h3, hv,
    h12]

end ClaimStore.Identifier
