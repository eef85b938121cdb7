/-!
Binary floating-point numbers of 64 bits: the values that numerals with a fraction or an exponent are
read into. A numeral goes to the nearest value, and of two equally near ones to the one with the even
significand. Everything is computed on natural numbers, so each step can be reasoned about.
-/

namespace Gameshelf

/-- A value of the format. A finite one is its significand times two to its exponent. -/
inductive Binary64 where
  | finite (negative : Bool) (significand : Nat) (exponent : Int)
  | infinite (negative : Bool)
  | nan
deriving DecidableEq, Repr

namespace Binary64

/-- The quotient to the nearest whole number; a half goes to the even neighbour. -/
def roundDiv (num den : Nat) : Nat :=
  let quotient := num / den
  let double := 2 * (num % den)
  if double < den then quotient
  else if den < double then quotient + 1
  else quotient + quotient % 2

/-- Two to a power, as the numerator and the denominator of a fraction. -/
def powerOfTwo (exponent : Int) : Nat × Nat :=
  (Nat.pow 2 exponent.toNat, Nat.pow 2 (-exponent).toNat)

/-- The exponent that leaves a positive fraction a significand of 53 bits, or the least exponent of
the format if that is greater. -/
def exponentOf (num den : Nat) : Int :=
  let bits : Int := (Nat.log2 num : Int) - (Nat.log2 den : Int)
  let (up, down) := powerOfTwo bits
  let leading := if den * up ≤ num * down then bits else bits - 1
  max (leading - 52) (-1074)

/-- The value nearest to a positive fraction. -/
def ofFraction (negative : Bool) (num den : Nat) : Binary64 :=
  let exponent := exponentOf num den
  let (up, down) := powerOfTwo exponent
  let significand := roundDiv (num * down) (den * up)
  if Nat.pow 2 1024 ≤ significand * up then .infinite negative
  else .finite negative significand exponent

/-- The value nearest to a decimal numeral: a whole number times a power of ten. Numerals far outside
the range of the format are settled by their length alone. -/
def ofDecimal (negative : Bool) (digits : Nat) (power : Int) : Binary64 :=
  let magnitude : Int := (Nat.toDigits 10 digits).length + power
  if digits = 0 || magnitude < -330 then .finite negative 0 0
  else if 310 < magnitude then .infinite negative
  else ofFraction negative (digits * Nat.pow 10 power.toNat) (Nat.pow 10 (-power).toNat)

def isZero : Binary64 → Bool
  | .finite _ significand _ => significand == 0
  | _ => false

/-- The whole number that a value is, if it is one. -/
def toInt? : Binary64 → Option Int
  | .finite negative significand exponent =>
    let (up, down) := powerOfTwo exponent
    if (significand * up) % down = 0 then
      let magnitude : Int := significand * up / down
      some (if negative then -magnitude else magnitude)
    else none
  | _ => none

/-- The exact decimal expansion of a finite value, and the names of the others. -/
def text : Binary64 → List Char
  | .nan => "NaN".toList
  | .infinite negative => (if negative then "-Infinity" else "Infinity").toList
  | .finite negative significand exponent =>
    let places := (-exponent).toNat
    let digits := Nat.toDigits 10 (significand * Nat.pow 2 exponent.toNat * Nat.pow 5 places)
    let padded := List.replicate (places + 1 - digits.length) '0' ++ digits
    let whole := padded.take (padded.length - places)
    let fraction := padded.drop (padded.length - places)
    (if negative then ['-'] else []) ++ whole ++ '.' :: (if fraction.isEmpty then ['0'] else fraction)

end Binary64

end Gameshelf
