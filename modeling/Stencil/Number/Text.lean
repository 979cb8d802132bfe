import Stencil.Number.Basic

/-! The text of a number, with the fewest digits that read back. -/

namespace Stencil.Number

/-- The ends of the values that round to a number, in quarters of its last place. -/
def interval (significand : Nat) (exponent : Int) : Nat × Nat :=
  let narrow := 2 * significand = significandBound ∧ minExponent < exponent
  (if narrow then 4 * significand - 1 else 4 * significand - 2, 4 * significand + 2)

/-- A decimal lies in the interval of values that round to the number. -/
def readsBack (significand : Nat) (exponent : Int) (digits : Nat) (place : Int) : Bool :=
  let ends := interval significand exponent
  let quarter := exponent - 2
  let decimal := digits * Nat.pow 10 place.toNat * Nat.pow 2 (-quarter).toNat
  let unit := Nat.pow 10 (-place).toNat * Nat.pow 2 quarter.toNat
  if significand % 2 = 0 then ends.1 * unit ≤ decimal && decimal ≤ ends.2 * unit
  else ends.1 * unit < decimal && decimal < ends.2 * unit

/-- The digits at a decimal place that read back, the nearer of two. -/
def digitsAt? (significand : Nat) (exponent : Int) (place : Int) : Option Nat :=
  let numerator := significand * Nat.pow 2 exponent.toNat * Nat.pow 10 (-place).toNat
  let denominator := Nat.pow 2 (-exponent).toNat * Nat.pow 10 place.toNat
  let lower := numerator / denominator
  let twice := 2 * (numerator % denominator)
  let lowerReads := lower ≠ 0 && readsBack significand exponent lower place
  let upperReads := readsBack significand exponent (lower + 1) place
  if lowerReads && (!upperReads || twice < denominator) then some lower
  else if upperReads then some (lower + 1)
  else none

/-- A decimal place above the first digit of the number. -/
def topPlace (exponent : Int) : Int := (exponent + 54) * 30103 / 100000 + 2

/-- The fewest digits that read back, and the decimal place of the last one. -/
def shortest (significand : Nat) (exponent : Int) : Nat × Int :=
  let candidates := (List.range 24).findSome? fun step =>
    let place := topPlace exponent - (step : Nat)
    (digitsAt? significand exponent place).map (·, place)
  candidates.getD (significand, 0)

/-- Decimal digits are written positionally, never with an exponent. -/
def positional (digits : Nat) (place : Int) : String :=
  let text := digits.repr
  let zeros := fun (count : Nat) => String.ofList (List.replicate count '0')
  if 0 ≤ place then text ++ zeros place.toNat
  else
    let places := (-place).toNat
    let padded := (zeros (places + 1 - text.length) ++ text).toList
    let split := padded.length - places
    String.ofList (padded.take split) ++ "." ++ String.ofList (padded.drop split)

def signText (negative : Bool) : String := if negative then "-" else ""

/-- Both zeros are written without a sign. -/
def text : Number → String
  | nan => "NaN"
  | infinite negative => signText negative ++ "Infinity"
  | finite negative significand exponent =>
      let digits := shortest significand exponent
      let written := signText negative ++ positional digits.1 digits.2
      match (finite negative significand exponent).whole? with
      | some magnitude =>
          if magnitude < Nat.pow 10 15 then signText (negative && magnitude ≠ 0) ++ magnitude.repr
          else written
      | none => written

end Stencil.Number
