/-!
# Reading Bytes as Text

Files hold bytes. Where a file has to be text, bytes that are not UTF-8 are an error; where bytes
are only shown, or come from the environment, each stretch of them that begins no character is
replaced by one replacement character and reading goes on behind it.

A stretch is as long as it can be: bytes that start a character correctly and then break off are
replaced together. `sequence` therefore looks at one leading byte and says which character it
starts, or how far a correct start reaches.

## Main definitions

* `Utf8.sequence`: The character at a leading byte and how many further bytes it takes.
* `Utf8.lenient`: The text of any bytes.
-/

namespace Colloquy

namespace Utf8

/-- A byte that can only continue a character. -/
def isTail (b : UInt8) : Bool := 0x80 ≤ b && b ≤ 0xBF

/-- The lowest six bits of a continuing byte. -/
def low (b : UInt8) : Nat := b.toNat % 64

/-- Whether `b` may be the second byte of a character that starts with `a`. The ranges exclude
    overlong forms, surrogates and numbers above the last code point. -/
def isSecond (a b : UInt8) : Bool :=
  if a = 0xE0 then 0xA0 ≤ b && b ≤ 0xBF
  else if a = 0xED then 0x80 ≤ b && b ≤ 0x9F
  else if a = 0xF0 then 0x90 ≤ b && b ≤ 0xBF
  else if a = 0xF4 then 0x80 ≤ b && b ≤ 0x8F
  else isTail b

/-- How many bytes follow a leading byte, if it can lead at all. -/
def following? (a : UInt8) : Option Nat :=
  if a < 0x80 then some 0
  else if 0xC2 ≤ a && a ≤ 0xDF then some 1
  else if 0xE0 ≤ a && a ≤ 0xEF then some 2
  else if 0xF0 ≤ a && a ≤ 0xF4 then some 3
  else none

/-- The character that starts with `a`, and the number of bytes taken from those after it. -/
def sequence (a : UInt8) (rest : List UInt8) : Char × Nat :=
  match following? a, rest with
  | some 0, _ => (Char.ofNat a.toNat, 0)
  | some 1, b :: _ =>
    if isTail b then (Char.ofNat ((a.toNat - 0xC0) * 64 + low b), 1) else ('\uFFFD', 0)
  | some 2, b :: rest =>
    if isSecond a b then
      match rest with
      | c :: _ =>
        if isTail c then (Char.ofNat ((a.toNat - 0xE0) * 4096 + low b * 64 + low c), 2)
        else ('\uFFFD', 1)
      | [] => ('\uFFFD', 1)
    else ('\uFFFD', 0)
  | some 3, b :: rest =>
    if isSecond a b then
      match rest with
      | c :: d :: _ =>
        if isTail c then
          if isTail d then
            (Char.ofNat ((a.toNat - 0xF0) * 262144 + low b * 4096 + low c * 64 + low d), 3)
          else ('\uFFFD', 2)
        else ('\uFFFD', 1)
      | [c] => ('\uFFFD', if isTail c then 2 else 1)
      | [] => ('\uFFFD', 1)
    else ('\uFFFD', 0)
  | _, _ => ('\uFFFD', 0)

/-- The characters of any bytes, with a replacement for each stretch that begins none. -/
def lenientChars : List UInt8 → List Char
  | [] => []
  | a :: rest => (sequence a rest).1 :: lenientChars (rest.drop (sequence a rest).2)
termination_by bytes => bytes.length
decreasing_by
  simp only [List.length_cons, List.length_drop]
  omega

/-- The text of any bytes. Bytes that are UTF-8 are taken as they are. -/
def lenient (bytes : ByteArray) : String :=
  match String.fromUTF8? bytes with
  | some text => text
  | none => String.ofList (lenientChars bytes.toList)

end Utf8

end Colloquy
