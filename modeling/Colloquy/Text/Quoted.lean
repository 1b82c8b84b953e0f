import Colloquy.Text.Printable

/-!
# Quoted Text

A text between double quotes, written so that the reader of a message sees exactly which characters
it holds. Identifiers come from outside and are quoted when they are refused, so what cannot be seen
or would close the quotes early is escaped: the quote and the backslash by a backslash, the usual
controls by their letters, and everything else that is not printable by its code point in braces.

## Main definitions

* `Quoted.ofChar`: One character between the quotes.
* `quoted`: A text with its quotes.
-/

namespace Colloquy

namespace Quoted

/-- A code point in braces, in lower-case hexadecimal without leading zeros. -/
def byNumber (c : Char) : List Char :=
  ['\\', 'u', '\x7b'] ++ Nat.toDigits 16 c.toNat ++ ['\x7d']

/-- One character as it stands between the quotes. -/
def ofChar (c : Char) : List Char :=
  if c = '\x00' then ['\\', '0']
  else if c = '\t' then ['\\', 't']
  else if c = '\r' then ['\\', 'r']
  else if c = '\n' then ['\\', 'n']
  else if c = '\\' ∨ c = '"' then ['\\', c]
  else if isPrintable c then [c]
  else byNumber c

end Quoted

/-- A text in double quotes, with everything escaped that could be mistaken. -/
def quoted (text : String) : String :=
  String.ofList ('"' :: text.toList.flatMap Quoted.ofChar ++ ['"'])

end Colloquy
