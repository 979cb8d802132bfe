/-! Binary64 numbers, kept exactly, and the rounding of ratios to them. -/

namespace Stencil

/-- A finite number is its significand times two to its exponent, with its sign. -/
inductive Number where
  | nan
  | infinite (negative : Bool)
  | finite (negative : Bool) (significand : Nat) (exponent : Int)
deriving Repr, DecidableEq

namespace Number

/-- Significands stay below this bound. -/
def significandBound : Nat := Nat.pow 2 53

/-- The least exponent of a significand. -/
def minExponent : Int := -1074

/-- The greatest exponent of a significand. -/
def maxExponent : Int := 971

def zero (negative : Bool) : Number := finite negative 0 minExponent

instance : Inhabited Number := ⟨zero false⟩

/-- The quotient is rounded to the nearest integer, a half to the even one. -/
def divideRounded (numerator denominator : Nat) : Nat :=
  let quotient := numerator / denominator
  let twice := 2 * (numerator % denominator)
  if denominator < twice ∨ (twice = denominator ∧ quotient % 2 = 1) then quotient + 1 else quotient

/-- The ratio is divided by two to the exponent; the answer is again a ratio. -/
def scale (numerator denominator : Nat) (exponent : Int) : Nat × Nat :=
  (numerator * Nat.pow 2 (-exponent).toNat, denominator * Nat.pow 2 exponent.toNat)

/-- The exponent under which a positive ratio fills the significand, if that exponent is allowed. -/
def exponentOf (numerator denominator : Nat) : Int :=
  let guess := (numerator.log2 : Int) - denominator.log2 - 53
  let scaled := scale numerator denominator guess
  max minExponent (if significandBound * scaled.2 ≤ scaled.1 then guess + 1 else guess)

/-- The number nearest to a ratio, a tie going to the even significand. -/
def ofRatio (negative : Bool) (numerator denominator : Nat) : Number :=
  if numerator = 0 then zero negative
  else
    let exponent := exponentOf numerator denominator
    let scaled := scale numerator denominator exponent
    let rounded := divideRounded scaled.1 scaled.2
    let carried := rounded = significandBound
    let significand := if carried then significandBound / 2 else rounded
    let exponent := if carried then exponent + 1 else exponent
    if maxExponent < exponent then infinite negative else finite negative significand exponent

/-- The number nearest to a natural number. -/
def ofNat (value : Nat) : Number := ofRatio false value 1

instance : Coe Nat Number := ⟨ofNat⟩

/-- The number nearest to digits times a power of ten. -/
def ofDecimal (negative : Bool) (digits : Nat) (exponent : Int) : Number :=
  if digits = 0 then zero negative
  else if 400 < exponent then infinite negative
  else if exponent < -400 - (digits.log2 : Int) then zero negative
  else ofRatio negative (digits * Nat.pow 10 exponent.toNat) (Nat.pow 10 (-exponent).toNat)

/-- The ratio of two finite numbers' magnitudes, or of their product to one. -/
def ratio (first : Nat × Int) (second : Nat × Int) : Nat × Nat :=
  (first.1 * Nat.pow 2 first.2.toNat * Nat.pow 2 (-second.2).toNat,
    second.1 * Nat.pow 2 second.2.toNat * Nat.pow 2 (-first.2).toNat)

/-- The rounded product of two finite numbers; it is used on magnitudes that are finite. -/
def times : Number → Number → Number
  | finite negative significand exponent, finite negative' significand' exponent' =>
      let product := ratio (significand * significand', exponent + exponent') (1, 0)
      ofRatio (negative ^^ negative') product.1 product.2
  | _, _ => nan

/-- The rounded quotient of two finite numbers, the second one not zero. -/
def dividedBy : Number → Number → Number
  | finite negative significand exponent, finite negative' significand' exponent' =>
      let quotient := ratio (significand, exponent) (significand', exponent')
      if significand' = 0 then nan else ofRatio (negative ^^ negative') quotient.1 quotient.2
  | _, _ => nan

/-- The number of the other sign. -/
def negate : Number → Number
  | nan => nan
  | infinite negative => infinite (!negative)
  | finite negative significand exponent => finite (!negative) significand exponent

def isZero : Number → Bool
  | finite _ significand _ => significand == 0
  | _ => false

/-- No number equals NaN, and the two zeros are equal. -/
def equals (first second : Number) : Bool :=
  match first, second with
  | nan, _ => false
  | _, nan => false
  | first, second => (first.isZero && second.isZero) || first == second

/-- Zero and NaN count as false. -/
def isTruthy : Number → Bool
  | nan => false
  | infinite _ => true
  | finite _ significand _ => significand != 0

/-- The magnitude of a finite number if it is a whole number. -/
def whole? : Number → Option Nat
  | finite _ significand exponent =>
      let divisor := Nat.pow 2 (-exponent).toNat
      if significand % divisor = 0 then
        some (significand / divisor * Nat.pow 2 exponent.toNat)
      else none
  | _ => none

end Number

end Stencil
