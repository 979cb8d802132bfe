/-! Texts between separators. -/

namespace Stencil.Text

variable {separator : Char}

/-- A separator in front has nothing before it. -/
theorem splitOn_cons_self (rest : List Char) :
    (separator :: rest).splitOn separator = [] :: rest.splitOn separator := by
  rw [List.splitOn, List.splitOnP_cons_eq_if_modifyHead, if_pos (beq_self_eq_true separator)]
  rfl

/-- Any other character belongs to the first part. -/
theorem splitOn_cons_of_ne {character : Char} (different : character ≠ separator)
    (rest : List Char) :
    (character :: rest).splitOn separator =
      (rest.splitOn separator).modifyHead (character :: ·) := by
  rw [List.splitOn, List.splitOnP_cons_eq_if_modifyHead, if_neg (by simpa using different)]
  rfl

/-- What stands behind a text without a separator belongs to its last part. -/
theorem exists_splitOn_append {back : List Char} (whole : separator ∉ back) (text : List Char) :
    ∃ front last, text.splitOn separator = front ++ [last] ∧
      (text ++ back).splitOn separator = front ++ [last ++ back] := by
  induction text with
  | nil => exact ⟨[], [], rfl, List.splitOn_eq_singleton whole⟩
  | cons character rest inductionHypothesis =>
      obtain ⟨front, last, alone, followed⟩ := inductionHypothesis
      by_cases parts : character = separator
      · subst parts
        refine ⟨[] :: front, last, ?_, ?_⟩
        · rw [splitOn_cons_self, alone, List.cons_append]
        · rw [List.cons_append, splitOn_cons_self, followed, List.cons_append]
      · rw [List.cons_append, splitOn_cons_of_ne parts, splitOn_cons_of_ne parts, alone, followed]
        cases front with
        | nil => exact ⟨[], character :: last, rfl, rfl⟩
        | cons first others => exact ⟨(character :: first) :: others, last, rfl, rfl⟩

/-- The first part stands before a separator, and the other parts are those behind it. -/
theorem splitOn_eq_takeWhile (separator : Char) (text : List Char) :
    text.splitOn separator = text.takeWhile (· != separator) ::
      match text.dropWhile (· != separator) with
      | [] => []
      | _ :: behind => behind.splitOn separator := by
  induction text with
  | nil => rfl
  | cons character rest inductionHypothesis =>
      by_cases here : character = separator
      · subst here
        simp [splitOn_cons_self]
      · rw [splitOn_cons_of_ne here, inductionHypothesis]
        simp [here]

end Stencil.Text
