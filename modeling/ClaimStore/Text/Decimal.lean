/-!
# Decimal words

The reader of a 64-bit unsigned number written in ASCII decimal digits, with one optional plus
sign in front. The first character that cannot be accepted decides the failure: a character that
is no digit is reported as such, a digit that would carry the value past the largest word as an
overflow.

## Main definitions

* `ClaimStore.Text.DecimalError` — the three ways in which a text is no decimal word.
* `ClaimStore.Text.parseWord` — the reader.
-/

set_option autoImplicit false

namespace ClaimStore.Text

/-- A way in which a text is no decimal 64-bit word. -/
inductive DecimalError where
  /-- There is no character at all. -/
  | empty
  /-- A character is no ASCII digit, or a sign has no digit after it. -/
  | invalidDigit
  /-- The value is above the largest 64-bit word. -/
  | tooLarge
  deriving DecidableEq, Repr

/-- The wording of the failure. -/
def DecimalError.message : DecimalError → String
  | .empty => "cannot parse integer from empty string"
  | .invalidDigit => "invalid digit found in string"
  | .tooLarge => "number too large to fit in target type"

/-- The value of an ASCII digit. -/
def digitValue? (c : Char) : Option Nat :=
  if c.isDigit then some (c.toNat - '0'.toNat) else none

/-- The value of a digit string that continues a number whose digits so far have value `acc`. -/
def parseDigits (acc : Nat) : List Char → Except DecimalError Nat
  | [] => .ok acc
  | c :: cs =>
    match digitValue? c with
    | none => .error .invalidDigit
    | some d =>
      if 10 * acc + d < UInt64.size then parseDigits (10 * acc + d) cs else .error .tooLarge

/-- The number that a text writes in decimal: digits with at most one plus sign in front. -/
def parseWord (s : String) : Except DecimalError UInt64 :=
  match s.toList with
  | [] => .error .empty
  | ['+'] => .error .invalidDigit
  | '+' :: cs => (parseDigits 0 cs).map UInt64.ofNat
  | cs => (parseDigits 0 cs).map UInt64.ofNat

end ClaimStore.Text
