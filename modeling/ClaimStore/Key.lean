import ClaimStore.Text.Quoted

/-!
# Keys of entry tables

An entry table may be keyed by text or by values of any other type that can be compared and shown,
such as numbers. Messages and descriptions show a key in its quoted form: a text between quotes, any
other key as it is.

## Main definitions

* `ClaimStore.Key` — a text or a key of another type.
* `Key.shown` — the form of a key in messages and descriptions.
-/

set_option autoImplicit false

namespace ClaimStore

/-- A key of an entry table. -/
inductive Key (κ : Type := Nat) where
  /-- A key that is a text, such as the identifier of a claim. -/
  | text (s : String)
  /-- A key of the other type. -/
  | other (k : κ)
  deriving DecidableEq, Repr

/-- A key that is a number. -/
@[match_pattern] abbrev Key.number (n : Nat) : Key := .other n

/-- The form of a key in messages and descriptions. -/
def Key.shown {κ : Type} [ToString κ] : Key κ → String
  | .text s => Text.quoted s
  | .other k => toString k

end ClaimStore
