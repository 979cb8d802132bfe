import Stencil.Text.Bytes

/-! ASCII letters in either case. -/

namespace Stencil.Text

variable {character : Char}

/-- What holds of the characters with the first 128 codes, one by one. -/
theorem of_ascii {motive : Char → Prop} (each : ∀ code : Fin 128, motive (Char.ofNat code))
    (ascii : character.toNat < 128) : motive character := by
  have here := each ⟨character.toNat, ascii⟩
  rwa [Char.ofNat_toNat] at here

/-- What holds of the capitals, one by one. -/
theorem of_isUpper {motive : Char → Prop}
    (each : ∀ code : Fin 128, (Char.ofNat code).isUpper = true → motive (Char.ofNat code))
    (capital : character.isUpper = true) : motive character := by
  have high : character.toNat ≤ 90 := UInt32.le_iff_toNat_le.mp (of_decide_eq_true capital).2
  exact of_ascii (motive := fun letter => letter.isUpper = true → motive letter) each (by omega)
    capital

/-- What holds of the small letters, one by one. -/
theorem of_isLower {motive : Char → Prop}
    (each : ∀ code : Fin 128, (Char.ofNat code).isLower = true → motive (Char.ofNat code))
    (small : character.isLower = true) : motive character := by
  have high : character.toNat ≤ 122 :=
    UInt32.le_iff_toNat_le.mp (of_decide_eq_true (Bool.and_eq_true_iff.mp small).2)
  exact of_ascii (motive := fun letter => letter.isLower = true → motive letter) each (by omega)
    small

/-- Only capitals have another small letter. -/
theorem toLower_eq_self (other : character.isUpper = false) : character.toLower = character :=
  dif_neg (of_decide_eq_false other)

/-- Only small letters have another capital. -/
theorem toUpper_eq_self (other : character.isLower = false) : character.toUpper = character := by
  apply dif_neg
  rintro ⟨low, high⟩
  have small : character.isLower = true :=
    Bool.and_eq_true_iff.mpr ⟨decide_eq_true low, decide_eq_true high⟩
  rw [small] at other
  cases other

/-- A capital is had back from its small letter. -/
theorem toUpper_toLower (capital : character.isUpper = true) :
    character.toLower.toUpper = character ∧ character.toLower.isLower = true :=
  of_isUpper (motive := fun letter =>
    letter.toLower.toUpper = letter ∧ letter.toLower.isLower = true) (by decide) capital

/-- A small letter is had back from its capital. -/
theorem toLower_toUpper (small : character.isLower = true) :
    character.toUpper.toLower = character ∧ character.toUpper.isUpper = true :=
  of_isLower (motive := fun letter =>
    letter.toUpper.toLower = letter ∧ letter.toUpper.isUpper = true) (by decide) small

/-- Letters take one byte in either case. -/
theorem utf8Size_toLower (character : Char) : character.toLower.utf8Size = character.utf8Size := by
  cases capital : character.isUpper with
  | false => rw [toLower_eq_self capital]
  | true =>
      exact of_isUpper (motive := fun letter => letter.toLower.utf8Size = letter.utf8Size)
        (by decide) capital

/-- No small letter is a capital. -/
theorem isUpper_toLower (character : Char) : character.toLower.isUpper = false := by
  cases capital : character.isUpper with
  | false => rw [toLower_eq_self capital, capital]
  | true =>
      exact of_isUpper (motive := fun letter => letter.toLower.isUpper = false) (by decide) capital

/-- Small letters take as many bytes as capitals. -/
theorem byteLength_map_toLower (text : List Char) :
    byteLength (text.map Char.toLower) = byteLength text := by
  induction text with
  | nil => rfl
  | cons character rest inductionHypothesis =>
      rw [List.map_cons, byteLength_cons, byteLength_cons, utf8Size_toLower, inductionHypothesis]

/-- No letter has a dash as its capital. -/
theorem toUpper_ne_dash (other : character ≠ '-') : character.toUpper ≠ '-' := by
  cases small : character.isLower with
  | false => rwa [toUpper_eq_self small]
  | true => exact of_isLower (motive := fun letter => letter.toUpper ≠ '-') (by decide) small

/-- No letter has a dash as its small letter. -/
theorem toLower_ne_dash (other : character ≠ '-') : character.toLower ≠ '-' := by
  cases capital : character.isUpper with
  | false => rwa [toLower_eq_self capital]
  | true => exact of_isUpper (motive := fun letter => letter.toLower ≠ '-') (by decide) capital

/-- Small letters bring no dash into a text. -/
theorem dash_notMem_toLower {text : String} (dashless : '-' ∉ text.toList) :
    '-' ∉ text.toLower.toList := by
  intro dash
  have mapped : text.toLower = text.map Char.toLower := rfl
  rw [mapped, String.toList_map] at dash
  obtain ⟨character, member, lowered⟩ := List.mem_map.mp dash
  exact toLower_ne_dash (fun same => dashless (same ▸ member)) lowered

end Stencil.Text
