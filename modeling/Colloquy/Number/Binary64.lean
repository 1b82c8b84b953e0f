/-!
# Binary Floating Point Numbers

The numbers of the double format: a sign, a significand of at most fifty-three bits, and a power of
two. Settings may give a fraction where a text or a whole number is wanted, and then the text is the
shortest decimal that reads back as the same number, and the whole number the nearest.

Everything is exact arithmetic on whole numbers. A decimal is rounded once, to the nearest number of
the format, ties to an even significand. The shortest text is found by trying one digit more at a
time: of the decimals with so many digits only the two neighbours of the number can be nearest, so
both are tested against the interval of reals that round to it.

## Main definitions

* `Binary64`: The numbers of the format.
* `Binary64.ofDecimal`: The number nearest to a decimal.
* `Binary64.shortest`: The fewest digits that read back.
* `Binary64.text`: The decimal text of a number, without an exponent.
* `Binary64.nearestNat`: The nearest whole number.
-/

namespace Colloquy

/-- A number of the double format. A finite one is a significand times a power of two. -/
inductive Binary64 where
  | finite (negative : Bool) (significand : Nat) (exponent : Int)
  | infinite (negative : Bool)
  | undefined
  deriving DecidableEq, Repr

namespace Binary64

/-- The least power of two that a significand is multiplied by. -/
def leastExponent : Int := -1074

/-- The greatest power of two that a significand is multiplied by. -/
def greatestExponent : Int := 971

/-- A fraction as a numerator and a denominator, scaled by a power of a base. -/
def scaled (base : Nat) (numerator denominator : Nat) (power : Int) : Nat × Nat :=
  if 0 ≤ power then (numerator * base.pow power.toNat, denominator)
  else (numerator, denominator * base.pow (-power).toNat)

/-- A quotient rounded to the nearest whole number, ties to even. -/
def roundedQuotient (numerator denominator : Nat) : Nat :=
  let quotient := numerator / denominator
  let twice := 2 * (numerator % denominator)
  if twice < denominator then quotient
  else if denominator < twice then quotient + 1
  else quotient + quotient % 2

/-- The exponent for a fraction: its significand has fifty-three bits, or fewer if the exponent
    cannot go lower. -/
def exponentFor (numerator denominator : Nat) : Int :=
  let guess : Int := (Nat.log2 numerator : Int) - (Nat.log2 denominator : Int) - 52
  let (n, d) := scaled 2 numerator denominator (-guess)
  -- The guess is right or one too great.
  let exact := if n < d * Nat.pow 2 52 then guess - 1 else guess
  max exact leastExponent

/-- The number nearest to a fraction. -/
def ofFraction (negative : Bool) (numerator denominator : Nat) : Binary64 :=
  if numerator = 0 then .finite negative 0 leastExponent
  else
    let exponent := exponentFor numerator denominator
    let (n, d) := scaled 2 numerator denominator (-exponent)
    let significand := roundedQuotient n d
    -- Rounding up can give one bit too many.
    let (significand, exponent) :=
      if significand = Nat.pow 2 53 then (Nat.pow 2 52, exponent + 1) else (significand, exponent)
    if greatestExponent < exponent then .infinite negative
    else .finite negative significand exponent

/-- The number nearest to `digits` times a power of ten. Powers far outside the format need no
    arithmetic. -/
def ofDecimal (negative : Bool) (digits : Nat) (power : Int) : Binary64 :=
  let magnitude : Int := (toString digits).length + power
  if digits = 0 ∨ magnitude < -400 then .finite negative 0 leastExponent
  else if 400 < magnitude then .infinite negative
  else
    let (n, d) := scaled 10 digits 1 power
    ofFraction negative n d

/-- Whether a decimal reads back as the number `significand * 2 ^ exponent`. All sides are compared
    in quarters of the last place, where the distance to the next number below is half as long at a
    power of two. -/
def readsBack (significand : Nat) (exponent : Int) (digits : Nat) (power : Int) : Bool :=
  let below :=
    if significand = Nat.pow 2 52 && leastExponent < exponent then 4 * significand - 1
    else 4 * significand - 2
  let above := 4 * significand + 2
  let (n, d) := scaled 10 digits 1 power
  let (n, d) := scaled 2 n d (-(exponent - 2))
  if significand % 2 = 0 then below * d ≤ n && n ≤ above * d
  else below * d < n && n < above * d

/-- The greatest power of ten not above a fraction that is not zero. -/
def tenPower (numerator denominator : Nat) : Int :=
  let guess : Int :=
    ((toString numerator).length : Int) - ((toString denominator).length : Int)
  let (n, d) := scaled 10 numerator denominator (-guess)
  if n < d then guess - 1 else guess

/-- The decimal with `count` digits that is nearest to a number and reads back as it, the greater of
    two that are equally near. -/
def withDigits? (significand : Nat) (exponent : Int) (count : Nat) : Option (Nat × Int) :=
  let (n, d) := scaled 2 significand 1 exponent
  let power := tenPower n d - (count : Int) + 1
  let (n, d) := scaled 10 n d (-power)
  -- No other decimal with so many digits can be nearest.
  let low := n / d
  let lowFits := readsBack significand exponent low power
  let highFits := readsBack significand exponent (low + 1) power
  if lowFits && (!highFits || 2 * (n % d) < d) then some (low, power)
  else if highFits then some (low + 1, power)
  else none

/-- The fewest digits that read back as a number that is not zero, and their power of ten. Seventeen
    always do. -/
def shortest (significand : Nat) (exponent : Int) : Nat × Int :=
  ((List.range 17).findSome? fun count => withDigits? significand exponent (count + 1)).getD
    (significand, 0)

/-- A decimal without an exponent. -/
def positional (digits : Nat) (power : Int) : String :=
  let written := (toString digits).toList
  if 0 ≤ power then String.ofList (written ++ List.replicate power.toNat '0')
  else
    let places := (-power).toNat
    let filled := List.replicate (places + 1 - written.length) '0' ++ written
    let whole := filled.take (filled.length - places)
    let fraction := (filled.drop (filled.length - places)).reverse.dropWhile (· = '0') |>.reverse
    String.ofList (if fraction.isEmpty then whole else whole ++ '.' :: fraction)

/-- The decimal text of a number. -/
def text : Binary64 → String
  | .finite negative significand exponent =>
    let sign := if negative then "-" else ""
    if significand = 0 then sign ++ "0"
    else
      let (digits, power) := shortest significand exponent
      sign ++ positional digits power
  | .infinite negative => if negative then "-inf" else "inf"
  | .undefined => "NaN"

/-- Whether a number is zero. -/
def isZero : Binary64 → Bool
  | .finite _ significand _ => significand = 0
  | _ => false

/-- The nearest number from zero to the greatest of sixty-four bits, halves away from zero. What is
    not a number counts as zero. -/
def nearestNat : Binary64 → Nat
  | .finite negative significand exponent =>
    if negative then 0
    else
      let (n, d) := scaled 2 significand 1 exponent
      min ((2 * n + d) / (2 * d)) (Nat.pow 2 64 - 1)
  | .infinite negative => if negative then 0 else Nat.pow 2 64 - 1
  | .undefined => 0

end Binary64

end Colloquy
