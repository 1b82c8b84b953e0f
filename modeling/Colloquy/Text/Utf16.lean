/-!
# UTF-16 Units

Characters as sequences of 16-bit units. The text format of predicate units writes a character
outside printable ASCII by its units, so a character above the basic plane is written as two
escapes, and the reader has to put the two halves together again.

Units are read one after the other whatever their source, so a half written as an escape may pair
with the half that follows it. A half without its partner stands for no character; it is replaced,
and reading goes on with the unit after it, so that one damaged escape costs one character.

## Main definitions

* `Utf16.units`: The units of a character.
* `Utf16.ofUnits`: The characters that a sequence of units spells.
* `Utf16.replacement`: What stands for an unpaired half.
-/

namespace Colloquy

namespace Utf16

/-- The character that stands where no character can be read. -/
def replacement : Char := '\uFFFD'

/-- The first half of a pair. -/
def isHigh (unit : Nat) : Bool := 0xD800 ≤ unit && unit ≤ 0xDBFF

/-- The second half of a pair. -/
def isLow (unit : Nat) : Bool := 0xDC00 ≤ unit && unit ≤ 0xDFFF

/-- The units of a character: one in the basic plane, two above it. -/
def units (c : Char) : List Nat :=
  if c.toNat < 0x10000 then [c.toNat]
  else [0xD800 + (c.toNat - 0x10000) / 0x400, 0xDC00 + (c.toNat - 0x10000) % 0x400]

/-- The character that a pair of halves stands for. -/
def paired (high low : Nat) : Char :=
  Char.ofNat (0x10000 + (high - 0xD800) * 0x400 + (low - 0xDC00))

/-- A unit that stands on its own. -/
def single (unit : Nat) : Char :=
  if isHigh unit || isLow unit then replacement else Char.ofNat unit

/-- The characters that a sequence of units spells. -/
def ofUnits : List Nat → List Char
  | [] => []
  | [unit] => [single unit]
  | unit :: next :: rest =>
    if isHigh unit && isLow next then paired unit next :: ofUnits rest
    else single unit :: ofUnits (next :: rest)

end Utf16

end Colloquy
