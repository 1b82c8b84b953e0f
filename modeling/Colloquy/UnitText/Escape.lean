import Colloquy.Text.Utf16

/-!
# Escapes in Predicate Units

How the text of a key or a value is written inside a line. Only printable ASCII ever reaches the
file: the characters that structure a line are escaped by a backslash, the line breaks and tabs by
their letters, and everything else by the UTF-16 units of the character in hexadecimal.

A blank separates a key from its value and is skipped in front of a value. So a key escapes all its
spaces, and a value the one it may start with.

Reading is more generous than writing, because units are also written by hand and by other
programs. Any character may be escaped and then stands for itself, an escape by number that is not
made of four digits is kept as it was written, and a backslash at the very end stands for nothing.
The result is assembled from UTF-16 units, since one character may be spelled by two escapes.

## Main definitions

* `Escape.ofChar`: The escape of one character.
* `Escape.encodeKey`, `Escape.encodeValue`: The text of a key and of a value.
* `Escape.units`: The units that an escaped text spells.
* `Escape.decode`: The text that an escaped text stands for.
-/

namespace Colloquy

namespace Escape

/-- A hexadecimal digit in upper case. -/
def upperDigit (n : Nat) : Char :=
  if n < 10 then Char.ofNat ('0'.toNat + n) else Char.ofNat ('A'.toNat + (n - 10))

/-- The four digits of a unit. -/
def fourDigits (unit : Nat) : List Char :=
  [upperDigit (unit / 0x1000 % 16), upperDigit (unit / 0x100 % 16),
    upperDigit (unit / 0x10 % 16), upperDigit (unit % 16)]

/-- The escape of a unit by number. -/
def ofUnit (unit : Nat) : List Char :=
  ['\\', 'u'] ++ fourDigits unit

/-- The escape of one character. `spaces` says whether a space has to be escaped where it stands. -/
def ofChar (spaces : Bool) (c : Char) : List Char :=
  if c = ' ' then (if spaces then ['\\', ' '] else [' '])
  else if c = '\\' then ['\\', '\\']
  else if c = '\t' then ['\\', 't']
  else if c = '\n' then ['\\', 'n']
  else if c = '\r' then ['\\', 'r']
  else if c = '\x0c' then ['\\', 'f']
  else if c = '=' ∨ c = ':' ∨ c = '#' ∨ c = '!' then ['\\', c]
  else if c.toNat < 0x20 ∨ 0x7E < c.toNat then (Utf16.units c).flatMap ofUnit
  else [c]

/-- The text of a key inside a line. -/
def encodeKey (key : List Char) : List Char :=
  key.flatMap (ofChar true)

/-- The text of a value inside a line. Only its first character may not be a bare space. -/
def encodeValue : List Char → List Char
  | [] => []
  | c :: rest => ofChar true c ++ rest.flatMap (ofChar false)

/-- The value of a hexadecimal digit in either case. -/
def digit? (c : Char) : Option Nat :=
  if '0' ≤ c ∧ c ≤ '9' then some (c.toNat - '0'.toNat)
  else if 'a' ≤ c ∧ c ≤ 'f' then some (c.toNat - 'a'.toNat + 10)
  else if 'A' ≤ c ∧ c ≤ 'F' then some (c.toNat - 'A'.toNat + 10)
  else none

/-- The unit that four digits stand for. -/
def unit? : List Char → Option Nat
  | [a, b, c, d] => do
    let a ← digit? a
    let b ← digit? b
    let c ← digit? c
    let d ← digit? d
    pure (((a * 16 + b) * 16 + c) * 16 + d)
  | _ => none

/-- What a character stands for behind a backslash. -/
def escaped (c : Char) : Char :=
  if c = 't' then '\t'
  else if c = 'n' then '\n'
  else if c = 'r' then '\r'
  else if c = 'f' then '\x0c'
  else c

/-- The units that an escaped text spells. -/
def units : List Char → List Nat
  | [] => []
  | ['\\'] => []
  | '\\' :: 'u' :: rest =>
    match unit? (rest.take 4) with
    -- All four characters are used up, digits or not.
    | some unit => unit :: units (rest.drop 4)
    | none => ('\\' :: 'u' :: rest.take 4).flatMap Utf16.units ++ units (rest.drop 4)
  | '\\' :: c :: rest => Utf16.units (escaped c) ++ units rest
  | c :: rest => Utf16.units c ++ units rest
termination_by cs => cs.length
decreasing_by all_goals simp; try omega

/-- The text that an escaped text stands for. -/
def decode (cs : List Char) : List Char :=
  Utf16.ofUnits (units cs)

end Escape

end Colloquy
