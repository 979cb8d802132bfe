import Stencil.Json.Basic
import Stencil.Number.Basic

/-! The number that a JSON numeral names, rounded once for its digits and once for its power of ten.
-/

namespace Stencil.Numeral

/-- One more digit than this does not fit into 64 bits. -/
def gatherBound : Nat := Nat.pow 2 64

/-- Digits are gathered as long as they fit; the rest is counted. -/
def gather (gathered : Nat) : List Nat → Nat × Nat
  | [] => (gathered, 0)
  | digit :: rest =>
      if gathered * 10 + digit < gatherBound then gather (gathered * 10 + digit) rest
      else (gathered, rest.length + 1)

/-- The digits that fit into 64 bits, and the power of ten that is left. -/
def gathered (numeral : Numeral) : Nat × Int :=
  let whole := gather 0 numeral.digits
  let all := gather whole.1 numeral.fraction
  (all.1, (whole.2 : Int) - (numeral.fraction.length - all.2 : Nat))

/-- A power of ten between 10^0 and 10^308. -/
def powerOfTen (exponent : Nat) : Number := .ofNat (Nat.pow 10 exponent)

/-- The digits times a power of ten; the answer is absent if it is too large. -/
def scaled? (digits : Nat) (exponent : Int) : Option Number :=
  let number := Number.ofNat digits
  if digits = 0 then some (.zero false)
  else if 308 < exponent then none
  else if 0 ≤ exponent then
    match number.times (powerOfTen exponent.toNat) with
    | .infinite _ => none
    | product => some product
  else if -308 ≤ exponent then some (number.dividedBy (powerOfTen (-exponent).toNat))
  else if -616 ≤ exponent then
    some ((number.dividedBy (powerOfTen 308)).dividedBy (powerOfTen (-exponent - 308).toNat))
  else some (.zero false)

/-- Exponents of 2^31 and more are not added up: they stand for zero or are too large. -/
def exponentBound : Nat := Nat.pow 2 31

/-- The number that a numeral names; one that is too large has none. -/
def magnitude? (numeral : Numeral) : Option Number :=
  let (digits, shift) := numeral.gathered
  match numeral.exponent with
  | none => scaled? digits shift
  | some (negative, exponentDigits) =>
      let exponent := valueOf exponentDigits
      if exponent < exponentBound then
        scaled? digits (if negative then shift - exponent else shift + exponent)
      else if digits = 0 ∨ negative then some (.zero false)
      else none

/-- The number that a numeral names; it is absent if its magnitude is too large. -/
def number? (numeral : Numeral) : Option Number :=
  numeral.magnitude?.map fun magnitude => if numeral.negative then magnitude.negate else magnitude

end Stencil.Numeral
