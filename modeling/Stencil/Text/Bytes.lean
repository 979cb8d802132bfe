/-! Byte counts of text in UTF-8, and cuts between characters. -/

namespace Stencil.Text

/-- The number of bytes that a text takes in UTF-8. -/
def byteLength : List Char → Nat
  | [] => 0
  | character :: rest => character.utf8Size + byteLength rest

/-- The first characters that take exactly the given number of bytes. -/
def takeBytes? : Nat → List Char → Option (List Char)
  | 0, _ => some []
  | _ + 1, [] => none
  | count + 1, character :: rest =>
      if character.utf8Size ≤ count + 1 then
        (takeBytes? (count + 1 - character.utf8Size) rest).map (character :: ·)
      else none

/-- The last characters that take exactly the given number of bytes. -/
def lastBytes? (count : Nat) (text : List Char) : Option (List Char) :=
  (takeBytes? count text.reverse).map List.reverse

/-- The text from a byte on, if a character starts there or the text ends. -/
def dropBytes? : Nat → List Char → Option (List Char)
  | 0, text => some text
  | _ + 1, [] => none
  | count + 1, character :: rest =>
      if character.utf8Size ≤ count + 1 then dropBytes? (count + 1 - character.utf8Size) rest
      else none

/-- The text between two bytes, if both are between characters. -/
def slice? (start stop : Nat) (text : List Char) : Option (List Char) :=
  (dropBytes? start text).bind (takeBytes? (stop - start))

/-- The number of UTF-16 units of one character. -/
def utf16Units (character : Char) : Nat :=
  if character.toNat < 0x10000 then 1 else 2

@[simp] theorem byteLength_nil : byteLength [] = 0 := rfl

@[simp] theorem byteLength_cons (character : Char) (rest : List Char) :
    byteLength (character :: rest) = character.utf8Size + byteLength rest := rfl

/-- The bytes of two texts add up. -/
@[simp] theorem byteLength_append (first second : List Char) :
    byteLength (first ++ second) = byteLength first + byteLength second := by
  induction first with
  | nil => simp
  | cons character rest inductionHypothesis => simp [inductionHypothesis, Nat.add_assoc]

/-- A cut behind the first character goes on in the rest. -/
theorem takeBytes?_cons (character : Char) (count : Nat) (rest : List Char) :
    takeBytes? (character.utf8Size + count) (character :: rest) =
      (takeBytes? count rest).map (character :: ·) := by
  have positive := character.utf8Size_pos
  obtain ⟨whole, same⟩ : ∃ whole, character.utf8Size + count = whole + 1 :=
    Nat.exists_eq_succ_of_ne_zero (by omega)
  rw [same, takeBytes?, if_pos (by omega), ← same, Nat.add_sub_cancel_left]

/-- A cut at the bytes of a front gives the front. -/
theorem takeBytes?_byteLength (front back : List Char) :
    takeBytes? (byteLength front) (front ++ back) = some front := by
  induction front with
  | nil => simp [takeBytes?]
  | cons character rest inductionHypothesis =>
      rw [byteLength_cons, List.cons_append, takeBytes?_cons, inductionHypothesis, Option.map_some]

/-- A cut takes the front of a text with that many bytes. -/
theorem append_of_takeBytes? {count : Nat} {text front : List Char}
    (cut : takeBytes? count text = some front) :
    ∃ back, text = front ++ back ∧ byteLength front = count := by
  induction text generalizing count front with
  | nil =>
      cases count with
      | zero =>
          cases cut
          exact ⟨[], rfl, rfl⟩
      | succ count => cases cut
  | cons character rest inductionHypothesis =>
      cases count with
      | zero =>
          cases cut
          exact ⟨character :: rest, rfl, rfl⟩
      | succ count =>
          rw [takeBytes?] at cut
          split at cut
          · obtain ⟨inner, cutRest, rfl⟩ := Option.map_eq_some_iff.mp cut
            obtain ⟨back, rfl, length⟩ := inductionHypothesis cutRest
            refine ⟨back, rfl, ?_⟩
            rw [byteLength_cons]
            omega
          · cases cut

/-- What is behind a byte is the text without what is in front of it. -/
theorem dropBytes?_eq (count : Nat) (text : List Char) :
    dropBytes? count text = (takeBytes? count text).map fun front => text.drop front.length := by
  induction text generalizing count with
  | nil => cases count <;> rfl
  | cons character rest inductionHypothesis =>
      cases count with
      | zero => rfl
      | succ count =>
          rw [dropBytes?, takeBytes?]
          split
          · rw [inductionHypothesis, Option.map_map]
            rfl
          · rfl

/-- Behind the bytes of a front stands the rest. -/
theorem dropBytes?_byteLength (front back : List Char) :
    dropBytes? (byteLength front) (front ++ back) = some back := by
  rw [dropBytes?_eq, takeBytes?_byteLength, Option.map_some, List.drop_left]

/-- What is behind a byte has that many bytes in front of it. -/
theorem append_of_dropBytes? {count : Nat} {text back : List Char}
    (cut : dropBytes? count text = some back) :
    ∃ front, text = front ++ back ∧ byteLength front = count := by
  rw [dropBytes?_eq] at cut
  obtain ⟨front, cutFront, rfl⟩ := Option.map_eq_some_iff.mp cut
  obtain ⟨back, rfl, length⟩ := append_of_takeBytes? cutFront
  exact ⟨front, by rw [List.drop_left], length⟩

/-- The order of characters does not matter to their bytes. -/
theorem byteLength_reverse (text : List Char) : byteLength text.reverse = byteLength text := by
  induction text with
  | nil => rfl
  | cons character rest inductionHypothesis =>
      rw [List.reverse_cons, byteLength_append, inductionHypothesis, byteLength_cons,
        byteLength_cons, byteLength_nil, Nat.add_zero, Nat.add_comm]

/-- A cut at the end takes the back of a text with that many bytes. -/
theorem append_of_lastBytes? {count : Nat} {text back : List Char}
    (cut : lastBytes? count text = some back) :
    ∃ front, text = front ++ back ∧ byteLength back = count := by
  obtain ⟨reversed, cutReverse, rfl⟩ := Option.map_eq_some_iff.mp cut
  obtain ⟨rest, whole, length⟩ := append_of_takeBytes? cutReverse
  refine ⟨rest.reverse, ?_, by rw [byteLength_reverse, length]⟩
  rw [← List.reverse_append, ← whole, List.reverse_reverse]

/-- A cut at the end is no longer than the text. -/
theorem lastBytes?_length_le {count : Nat} {text back : List Char}
    (cut : lastBytes? count text = some back) : back.length ≤ text.length := by
  obtain ⟨front, rfl, -⟩ := append_of_lastBytes? cut
  rw [List.length_append]
  exact Nat.le_add_left ..

end Stencil.Text
