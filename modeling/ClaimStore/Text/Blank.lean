/-!
# Blank characters

The characters of the Unicode property `White_Space`, and the text left when they are cut from
both ends.

## Main definitions

* `ClaimStore.Text.isBlank` — the property `White_Space`.
* `ClaimStore.Text.trim` — a text without its leading and trailing blanks.
-/

set_option autoImplicit false

namespace ClaimStore.Text

/-- The character has the Unicode property `White_Space`. -/
def isBlank (c : Char) : Bool :=
  let n := c.toNat
  (9 ≤ n && n ≤ 13) || n == 0x20 || n == 0x85 || n == 0xA0 || n == 0x1680 ||
    (0x2000 ≤ n && n ≤ 0x200A) || n == 0x2028 || n == 0x2029 || n == 0x202F || n == 0x205F ||
    n == 0x3000

/-- The text without its leading and trailing blanks. -/
def trim (s : String) : String :=
  String.ofList (((s.toList.dropWhile isBlank).reverse.dropWhile isBlank).reverse)

end ClaimStore.Text
