/-! Texts that start with a given text. -/

namespace Stencil.Text

/-- Whether a text starts with another one. -/
def startsWith (start text : String) : Bool := start.toList.isPrefixOf text.toList

/-- A text that starts with another one goes on with something. -/
theorem startsWith_iff {start text : String} :
    startsWith start text = true ↔ ∃ rest, text.toList = start.toList ++ rest := by
  rw [startsWith, List.isPrefixOf_iff_prefix]
  exact ⟨fun ⟨rest, whole⟩ => ⟨rest, whole.symm⟩, fun ⟨rest, whole⟩ => ⟨rest, whole.symm⟩⟩

/-- What is left behind a start. -/
theorem isPrefixOf?_eq {mark source after : List Char}
    (started : mark.isPrefixOf? source = some after) : source = mark ++ after := by
  induction mark generalizing source with
  | nil => exact Option.some.inj started
  | cons first others inductionHypothesis =>
      cases source with
      | nil => cases started
      | cons character rest =>
          change (if first == character then others.isPrefixOf? rest else none) = some after
            at started
          split at started
          · rename_i same
            rw [inductionHypothesis started, beq_iff_eq.mp same]
            rfl
          · cases started

/-- What follows a mark is had back. -/
theorem isPrefixOf?_append (mark after : List Char) :
    mark.isPrefixOf? (mark ++ after) = some after := by
  induction mark with
  | nil => rfl
  | cons first others inductionHypothesis =>
      show (if first == first then others.isPrefixOf? (others ++ after) else none) = some after
      rw [if_pos (beq_self_eq_true first), inductionHypothesis]

end Stencil.Text
