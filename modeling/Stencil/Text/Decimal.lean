/-! Decimal digit strings. -/

namespace Stencil.Text

/-- The number that a non-empty string of ASCII digits writes; leading zeros are allowed. -/
def decimal? (text : String) : Option Nat :=
  let digits := text.toList
  if digits ≠ [] ∧ digits.all Char.isDigit = true then
    some (digits.foldl (fun value digit => value * 10 + (digit.toNat - 0x30)) 0)
  else none

/-- Digits and nothing else, with or without zeros in front. -/
def IsDigits (text : String) : Prop := text.toList ≠ [] ∧ text.toList.all Char.isDigit = true

instance (text : String) : Decidable (IsDigits text) := inferInstanceAs (Decidable (_ ∧ _))

/-- The number that digits write. -/
def numberOf (text : String) : Nat := Nat.ofDigitChars 10 text.toList 0

/-- Every string of digits writes a number. -/
theorem decimal?_of_isDigits {text : String} (digits : IsDigits text) :
    decimal? text = some (numberOf text) := by
  simp only [decimal?, numberOf, Nat.ofDigitChars_eq_foldl, Nat.mul_comm 10]
  exact if_pos digits

/-- Numbers are written in digits. -/
theorem isDigits_repr (number : Nat) : IsDigits number.repr := by
  rw [IsDigits, Nat.toList_repr]
  refine ⟨Nat.toDigits_ne_nil, List.all_eq_true.mpr fun digit member => ?_⟩
  exact Nat.isDigit_of_mem_toDigits (by decide) (by decide) member

/-- A number is had back from its digits. -/
theorem numberOf_repr (number : Nat) : numberOf number.repr = number := by
  rw [numberOf, Nat.toList_repr]
  exact Nat.ofDigitChars_toDigits (by decide) (by decide)

end Stencil.Text
