import ClaimStore.Text.Hidden

/-!
# Quoted texts

The quoted form of a text, as it appears in descriptions of tables and mappings and in the name
that an entry mapping gives to its claim: double quotes around it, a backslash in front of quotes
and backslashes, short names for four control characters, and the code point in braces for every
other character without a printed form of its own.

## Main definitions

* `ClaimStore.Text.quoteChar` — the form of one character between the quotes.
* `ClaimStore.Text.quoted` — the form of a text.
-/

set_option autoImplicit false

namespace ClaimStore.Text

/-- The code point of a character in lower-case hexadecimal, between braces. -/
def codePoint (c : Char) : List Char :=
  ['\\', 'u', '\x7b'] ++ Nat.toDigits 16 c.toNat ++ ['\x7d']

/-- The form of a character inside a quoted text. -/
def quoteChar (c : Char) : List Char :=
  if c = '\x00' then ['\\', '0']
  else if c = '\t' then ['\\', 't']
  else if c = '\n' then ['\\', 'n']
  else if c = '\r' then ['\\', 'r']
  else if c = '"' then ['\\', '"']
  else if c = '\\' then ['\\', '\\']
  else if isHidden c then codePoint c
  else [c]

/-- The quoted form of a text. -/
def quoted (s : String) : String :=
  String.ofList ('"' :: (s.toList.flatMap quoteChar ++ ['"']))

end ClaimStore.Text
