import Stencil.Markup.NamedReference

/-! Character references: `&name;`, `&#digits;` and `&#xdigits;`. Which of them there are is assumed
of the tokenizer; that all others stay as written is the parser's own rule. -/

namespace Stencil.Markup

/-- The value of a digit in a base up to sixteen. -/
def digitValue? (base : Nat) (character : Char) : Option Nat :=
  let code := character.toNat
  let value? :=
    if character.isDigit then some (code - 0x30)
    else if 'a' ≤ character ∧ character ≤ 'f' then some (code - 0x61 + 10)
    else if 'A' ≤ character ∧ character ≤ 'F' then some (code - 0x41 + 10)
    else none
  value?.filter (· < base)

/-- The value of a digit string without a sign; no digits have no value. -/
def numeral? (base : Nat) : List Char → Option Nat
  | [] => none
  | digits => digits.foldlM (fun value digit => (digitValue? base digit).map (value * base + ·)) 0

/-- A code point that is a character other than NUL. -/
def character? (code : Nat) : Option Char :=
  if valid : code.isValidChar then
    if code = 0 then none else some (Char.ofNatAux code valid)
  else none

/-- The characters that a reference stands for; a number stands for one. -/
def referenced? : List Char → Option (List Char)
  | '#' :: 'x' :: digits => ((numeral? 16 digits).bind character?).map ([·])
  | '#' :: digits => ((numeral? 10 digits).bind character?).map ([·])
  | name => (namedReferences.lookup (String.ofList name)).map String.toList

/-- A reference in text that stands for nothing is kept as written. -/
def referenceText (body : List Char) : List Char :=
  match referenced? body with
  | some characters => characters
  | none => '&' :: body ++ [';']

/-- A character that neither starts nor ends a reference. -/
def insideReference (character : Char) : Bool := character != '&' && character != ';'

/-- What stands before the semicolon that the ampersand belongs to, and after it. -/
def valueReference? (source : List Char) : Option (List Char × List Char) :=
  match source.dropWhile insideReference with
  | ';' :: after => some (source.takeWhile insideReference, after)
  | _ => none

/-- A reference in a value is ended by its semicolon. -/
theorem valueReference?_eq {source body after : List Char}
    (found : valueReference? source = some (body, after)) : source = body ++ ';' :: after := by
  unfold valueReference? at found
  split at found
  · rename_i stop
    simp only [Option.some.injEq, Prod.mk.injEq] at found
    rw [← found.1, ← found.2, ← stop, List.takeWhile_append_dropWhile]
  · simp at found

/-- If an ampersand starts no reference, or an unknown one, nothing is decoded. -/
def decoded? (value : List Char) : Option (List Char) :=
  match value with
  | [] => some []
  | '&' :: rest =>
      match _found : valueReference? rest with
      | some (body, after) =>
          match referenced? body with
          | some characters => (decoded? after).map (characters ++ ·)
          | none => none
      | none => none
  | character :: rest => (decoded? rest).map (character :: ·)
termination_by value.length
decreasing_by
  · have := congrArg List.length (valueReference?_eq _found)
    simp only [List.length_append, List.length_cons] at this
    simp only [List.length_cons]
    omega
  · simp

/-- An attribute value that does not decode is kept as written. -/
def decodeValue (value : List Char) : List Char := (decoded? value).getD value

end Stencil.Markup
