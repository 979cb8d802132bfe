/-! Blank characters, those with the property White_Space, and trimming. -/

namespace Stencil.Text

/-- These are the 25 characters with the property White_Space. -/
def isBlank (character : Char) : Bool :=
  let code := character.toNat
  (9 ≤ code && code ≤ 13) || code == 0x20 || code == 0x85 || code == 0xA0 || code == 0x1680 ||
    (0x2000 ≤ code && code ≤ 0x200A) || code == 0x2028 || code == 0x2029 || code == 0x202F ||
    code == 0x205F || code == 0x3000

/-- Trimming removes the blank characters at both ends. -/
def trim (text : List Char) : List Char :=
  ((text.dropWhile isBlank).reverse.dropWhile isBlank).reverse

/-- A text is blank when trimming leaves nothing of it. -/
def allBlank (text : String) : Bool := text.toList.all isBlank

/-- A blank in front does not matter. -/
theorem trim_cons_of_isBlank {character : Char} (blank : isBlank character = true)
    (rest : List Char) : trim (character :: rest) = trim rest := by
  rw [trim, List.dropWhile_cons_of_pos blank, trim]

/-- Blanks behind a text do not matter. -/
theorem trim_append_of_blank {back : List Char}
    (blank : ∀ character ∈ back, isBlank character = true) (front : List Char) :
    trim (front ++ back) = trim front := by
  have backwards : ∀ character ∈ back.reverse, isBlank character = true :=
    fun character member => blank character (List.mem_reverse.mp member)
  have gone : (back ++ []).dropWhile isBlank = [].dropWhile isBlank :=
    List.dropWhile_append_of_pos blank
  rw [List.append_nil] at gone
  rw [trim, trim, List.dropWhile_append]
  split
  · rename_i empty
    rw [List.isEmpty_iff.mp empty, gone]
    rfl
  · rw [List.reverse_append, List.dropWhile_append_of_pos backwards]

/-- Blanks stand around what trimming leaves. -/
theorem exists_eq_append_trim (text : List Char) :
    ∃ front back, text = front ++ trim text ++ back ∧
      (∀ character ∈ front, isBlank character = true) ∧
      ∀ character ∈ back, isBlank character = true := by
  have ended := List.takeWhile_append_dropWhile (p := isBlank)
    (l := (text.dropWhile isBlank).reverse)
  refine ⟨text.takeWhile isBlank,
    ((text.dropWhile isBlank).reverse.takeWhile isBlank).reverse, ?_,
    List.all_eq_true.mp List.all_takeWhile, ?_⟩
  · rw [trim, List.append_assoc, ← List.reverse_append, ended, List.reverse_reverse,
      List.takeWhile_append_dropWhile]
  · intro character member
    exact List.all_eq_true.mp List.all_takeWhile _ (List.mem_reverse.mp member)

end Stencil.Text
