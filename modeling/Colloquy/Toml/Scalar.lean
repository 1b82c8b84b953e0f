import Colloquy.Template.Reference
import Colloquy.Toml.Datum

/-!
# Unquoted Values in TOML

Truth values, numbers, dates and times. All of them are made of letters, digits and a few signs,
and none can be followed by such a character, so a value is read by cutting off the longest word
and asking what it is as a whole. The one exception is a date and a time with a blank between
them.

An underscore may stand between two digits of a number and means nothing. A number in decimal has
no leading zeros; one with a base has no sign. Numbers that do not fit are errors, except that a
negative fraction that is too large becomes negative infinity.

## Main definitions

* `Toml.isWordChar`: The characters of words.
* `Toml.integer?`, `Toml.fraction?`: Numbers.
* `Toml.moment?`: Dates and times.
* `Toml.scalar?`: The value of a word and perhaps a second one.
-/

namespace Colloquy

namespace Toml

/-- Whether a character belongs to an unquoted value. -/
def isWordChar (c : Char) : Bool :=
  c.isAlphanum || c = '+' || c = '-' || c = '_' || c = '.' || c = ':'

/-- Digits of a base without the underscores between them. -/
def underscored? (isDigit : Char → Bool) (cs : List Char) : Option (List Char) :=
  let groups := splitAt '_' cs
  if groups.all fun group => !group.isEmpty && group.all isDigit then some groups.flatten else none

/-- Decimal digits that do not start with a zero, unless that is all. -/
def decimalDigits? (cs : List Char) : Option (List Char) :=
  if cs.head? = some '0' && cs.length ≠ 1 then none else underscored? Char.isDigit cs

/-- A whole number in a base, which fits in sixty-four bits. -/
def based? (base : Nat) (cs : List Char) : Option Int :=
  let isDigit := fun c => (Reference.digit? base c).isSome
  (underscored? isDigit cs).bind fun digits =>
    (Reference.digits? base 0 digits).bind fun n =>
      if Literal.fitsInt64 n then some (n : Int) else none

/-- A whole number. -/
def integer? : List Char → Option Int
  | '0' :: 'x' :: rest => based? 16 rest
  | '0' :: 'o' :: rest => based? 8 rest
  | '0' :: 'b' :: rest => based? 2 rest
  | cs =>
    let (negative, rest) := Literal.signed cs
    (decimalDigits? rest).bind fun digits =>
      let n : Int := Literal.digitsValue digits
      let value := if negative then -n else n
      if Literal.fitsInt64 value then some value else none

/-- The power of ten behind an exponent mark. -/
def exponent? (cs : List Char) : Option Int :=
  let (negative, rest) := Literal.signed cs
  (underscored? Char.isDigit rest).map fun digits =>
    let n : Int := Literal.digitsValue digits
    if negative then -n else n

/-- The digits before the point, the digits behind it, and the power of ten. There is a point or a
    power. -/
def decimalParts? (cs : List Char) : Option (List Char × List Char × Int) := do
  let isMark := fun c : Char => c = 'e' || c = 'E'
  let written := cs.takeWhile (!isMark ·)
  let power ← match cs.dropWhile (!isMark ·) with
    | [] => some none
    | _ :: rest => (exponent? rest).map some
  match splitAt '.' written, power with
  | [whole], some power => do
    let whole ← decimalDigits? whole
    pure (whole, [], power)
  | [whole, places], power => do
    let whole ← decimalDigits? whole
    let places ← underscored? Char.isDigit places
    pure (whole, places, power.getD 0)
  | _, _ => none

/-- A fraction. -/
def fraction? (cs : List Char) : Option Binary64 :=
  let (negative, rest) := Literal.signed cs
  if rest = ['i', 'n', 'f'] then some (.infinite negative)
  else if rest = ['n', 'a', 'n'] then some .undefined
  else (decimalParts? rest).bind fun (whole, places, power) =>
    let value := Binary64.ofDecimal negative (Literal.digitsValue (whole ++ places))
      (power - places.length)
    if value = .infinite false then none else some value

/-- A time of day and a zone or none. -/
def zonedTime? (cs : List Char) : Option (List Char) := do
  let time ← time? 23 (cs.takeWhile (!isZoneStart ·))
  let zone ← zone? 23 59 (24 * 60) (cs.dropWhile (!isZoneStart ·))
  pure (time ++ zone)

/-- A date, a time or a moment in one word. -/
def moment? (cs : List Char) : Option (List Char) :=
  match date? (cs.take 10), cs.drop 10 with
  | some date, [] => some date
  | some date, mark :: rest =>
    if mark = 'T' ∨ mark = 't' then (zonedTime? rest).map (date ++ 'T' :: ·) else none
  | none, _ => time? 23 cs

/-- The value of a word. -/
def word? (cs : List Char) : Option Datum :=
  if cs = ['t', 'r', 'u', 'e'] then some (.boolean true)
  else if cs = ['f', 'a', 'l', 's', 'e'] then some (.boolean false)
  else match integer? cs with
    | some n => some (.integer n)
    | none =>
      match fraction? cs with
      | some n => some (.fraction n)
      | none => (moment? cs).map fun text => .moment (String.ofList text)

/-- The unquoted value at the start of a text, and what follows it. -/
def scalar? (cs : List Char) : Option (Datum × List Char) :=
  let word := cs.takeWhile isWordChar
  let rest := cs.dropWhile isWordChar
  let second := (rest.drop 1).takeWhile isWordChar
  match date? word with
  | some date =>
    if rest.head? = some ' ' && !second.isEmpty then
      (zonedTime? second).map fun time =>
        (.moment (String.ofList (date ++ 'T' :: time)), (rest.drop 1).dropWhile isWordChar)
    else some (.moment (String.ofList date), rest)
  | none => (word? word).map fun value => (value, rest)

end Toml

end Colloquy
