import Colloquy.Number.Binary64

/-!
# Numbers Written in Text

How whole numbers and fractions are read where a setting is given as plain text. A whole number is a
sign or none and digits, and has to fit in sixty-four bits. A fraction has digits before its point,
behind it or both, and may have a power of ten; infinity and the undefined number have names.

## Main definitions

* `Literal.integer?`: A whole number.
* `Literal.decimal?`: Digits, a point and a power of ten.
* `Literal.fraction?`: Any number.
-/

namespace Colloquy

namespace Literal

/-- The value of digits; the empty text counts as zero. -/
def digitsValue (cs : List Char) : Nat :=
  cs.foldl (fun n c => n * 10 + (c.toNat - '0'.toNat)) 0

/-- A sign and what follows it. -/
def signed : List Char → Bool × List Char
  | '-' :: rest => (true, rest)
  | '+' :: rest => (false, rest)
  | cs => (false, cs)

/-- Whether a whole number fits in sixty-four bits with a sign. -/
def fitsInt64 (n : Int) : Bool := -(Nat.pow 2 63 : Nat) ≤ n && n < (Nat.pow 2 63 : Nat)

/-- A whole number. -/
def integer? (cs : List Char) : Option Int :=
  let (negative, digits) := signed cs
  if digits.isEmpty || !digits.all Char.isDigit then none
  else
    let value : Int := if negative then -(digitsValue digits : Int) else digitsValue digits
    if fitsInt64 value then some value else none

/-- The power of ten behind the digits of a fraction. -/
def power? : List Char → Option Int
  | [] => some 0
  | c :: rest =>
    if c = 'e' ∨ c = 'E' then
      let (negative, digits) := signed rest
      if digits.isEmpty || !digits.all Char.isDigit then none
      else some (if negative then -(digitsValue digits : Int) else digitsValue digits)
    else none

/-- A fraction without its sign: digits, perhaps a point and more digits, perhaps a power. -/
def decimal? (negative : Bool) (cs : List Char) : Option Binary64 :=
  let whole := cs.takeWhile Char.isDigit
  let afterWhole := cs.dropWhile Char.isDigit
  let (places, rest) := match afterWhole with
    | '.' :: more => (more.takeWhile Char.isDigit, more.dropWhile Char.isDigit)
    | _ => ([], afterWhole)
  if whole.isEmpty && places.isEmpty then none
  else (power? rest).map fun power =>
    Binary64.ofDecimal negative (digitsValue (whole ++ places)) (power - places.length)

/-- Any number, with its sign. -/
def fraction? (cs : List Char) : Option Binary64 :=
  let (negative, rest) := signed cs
  let name := String.ofList (rest.map Char.toLower)
  if name = "inf" ∨ name = "infinity" then some (.infinite negative)
  else if name = "nan" then some .undefined
  else decimal? negative rest

end Literal

end Colloquy
