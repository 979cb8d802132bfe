import Stencil.Json.Basic

/-! The symbols of JSON text: marks, words, strings and numerals. -/

namespace Stencil.Json

/-- The symbols that JSON text is made of. -/
inductive Symbol where
  | openArray
  | closeArray
  | openObject
  | closeObject
  | comma
  | colon
  | null
  | bool (value : Bool)
  | string (content : Option String)
  | number (numeral : Numeral)
deriving Repr, DecidableEq

/-- A character of a string, or an escape for half of a surrogate pair. -/
inductive Piece where
  | character (value : Char)
  | half (code : Nat)
deriving Repr, DecidableEq

def isBlank (character : Char) : Bool :=
  character = ' ' || character = '\t' || character = '\n' || character = '\r'

/-- The character that an escape of one letter stands for. -/
def simpleEscape? : Char → Option Char
  | '"' => some '"'
  | '\\' => some '\\'
  | '/' => some '/'
  | 'b' => some '\x08'
  | 'f' => some '\x0C'
  | 'n' => some '\n'
  | 'r' => some '\r'
  | 't' => some '\t'
  | _ => none

def hexValue? (digit : Char) : Option Nat :=
  if digit.isDigit then some (digit.toNat - 0x30)
  else if 'a' ≤ digit ∧ digit ≤ 'f' then some (digit.toNat - 0x61 + 10)
  else if 'A' ≤ digit ∧ digit ≤ 'F' then some (digit.toNat - 0x41 + 10)
  else none

/-- The piece that four hexadecimal digits name. -/
def unicodePiece? (first second third fourth : Char) : Option Piece := do
  let code := (((← hexValue? first) * 16 + (← hexValue? second)) * 16 + (← hexValue? third)) * 16 +
    (← hexValue? fourth)
  return if 0xD800 ≤ code ∧ code ≤ 0xDFFF then .half code else .character (Char.ofNat code)

/-- The pieces up to the closing quote, and what follows it.
Control characters have to be escaped. -/
def pieces? : List Char → Option (List Piece × List Char)
  | [] => none
  | '"' :: rest => some ([], rest)
  | '\\' :: 'u' :: first :: second :: third :: fourth :: rest => do
      let piece ← unicodePiece? first second third fourth
      let found ← pieces? rest
      return (piece :: found.1, found.2)
  | '\\' :: escape :: rest => do
      let character ← simpleEscape? escape
      let found ← pieces? rest
      return (.character character :: found.1, found.2)
  | character :: rest =>
      if character.toNat < 0x20 then none
      else (pieces? rest).map fun found => (.character character :: found.1, found.2)

/-- The characters of a string; halves count only as a pair, the high one first. -/
def joinPieces? : List Piece → Option (List Char)
  | [] => some []
  | .character value :: rest => (joinPieces? rest).map (value :: ·)
  | .half high :: .half low :: rest =>
      if high < 0xDC00 ∧ 0xDC00 ≤ low then
        (joinPieces? rest).map
          (Char.ofNat (0x10000 + (high - 0xD800) * 0x400 + (low - 0xDC00)) :: ·)
      else none
  | .half _ :: _ => none

/-- The string behind an opening quote, and what follows it. -/
def stringSymbol? (source : List Char) : Option (Symbol × List Char) :=
  (pieces? source).map fun found =>
    (.string ((joinPieces? found.1).map String.ofList), found.2)

/-- The digits that a text starts with. -/
def digitsOf (source : List Char) : List Nat :=
  (source.takeWhile Char.isDigit).map fun digit => digit.toNat - 0x30

/-- What follows the digits at the start of a text. -/
def withoutDigits (source : List Char) : List Char := source.dropWhile Char.isDigit

/-- A fraction has at least one digit; without a point there is none. -/
def fraction? : List Char → Option (List Nat × List Char)
  | '.' :: rest =>
      if digitsOf rest = [] then none else some (digitsOf rest, withoutDigits rest)
  | rest => some ([], rest)

/-- The digits of an exponent behind its sign; there is at least one. -/
def exponentDigits? (negative : Bool) (source : List Char) :
    Option (Option (Bool × List Nat) × List Char) :=
  if digitsOf source = [] then none
  else some (some (negative, digitsOf source), withoutDigits source)

/-- The exponent of a numeral, if it has one. -/
def exponent? (source : List Char) : Option (Option (Bool × List Nat) × List Char) :=
  match source with
  | mark :: rest =>
      if mark = 'e' ∨ mark = 'E' then
        match rest with
        | '-' :: digits => exponentDigits? true digits
        | '+' :: digits => exponentDigits? false digits
        | digits => exponentDigits? false digits
      else some (none, source)
  | [] => some (none, [])

/-- The first digit is zero only if it is the only one before the point. -/
def unsigned? (negative : Bool) (source : List Char) : Option (Numeral × List Char) := do
  let digits := digitsOf source
  if digits = [] ∨ (digits.head? = some 0 ∧ digits.length ≠ 1) then none
  let fraction ← fraction? (withoutDigits source)
  let exponent ← exponent? fraction.2
  return (⟨negative, digits, fraction.1, exponent.1⟩, exponent.2)

/-- A numeral with or without a minus sign. -/
def numeral? : List Char → Option (Numeral × List Char)
  | '-' :: rest => unsigned? true rest
  | rest => unsigned? false rest

/-- The first symbol of a source that starts with no blank. -/
def symbol? : List Char → Option (Symbol × List Char)
  | '[' :: rest => some (.openArray, rest)
  | ']' :: rest => some (.closeArray, rest)
  | '\x7b' :: rest => some (.openObject, rest)
  | '\x7d' :: rest => some (.closeObject, rest)
  | ',' :: rest => some (.comma, rest)
  | ':' :: rest => some (.colon, rest)
  | '"' :: rest => stringSymbol? rest
  | 'n' :: 'u' :: 'l' :: 'l' :: rest => some (.null, rest)
  | 't' :: 'r' :: 'u' :: 'e' :: rest => some (.bool true, rest)
  | 'f' :: 'a' :: 'l' :: 's' :: 'e' :: rest => some (.bool false, rest)
  | source => (numeral? source).map fun found => (.number found.1, found.2)

/-- Reading the pieces of a string makes the text no longer. -/
theorem pieces?_length_le {source : List Char} {found : List Piece × List Char}
    (read : pieces? source = some found) : found.2.length ≤ source.length := by
  induction source using pieces?.induct generalizing found with
  | case1 => simp [pieces?] at read
  | case2 rest =>
      simp only [pieces?, Option.some.injEq] at read
      subst read
      simp
  | case3 first second third fourth rest inductionHypothesis =>
      simp only [pieces?, Option.bind_eq_bind, Option.bind_eq_some_iff] at read
      obtain ⟨piece, _, ⟨inner, readInner, same⟩⟩ := read
      have := inductionHypothesis readInner
      simp only [Option.pure_def, Option.some.injEq] at same
      subst same
      simp only [List.length_cons]
      omega
  | case4 escape rest notUnicode inductionHypothesis =>
      rw [pieces?] at read
      · simp only [Option.bind_eq_bind, Option.bind_eq_some_iff] at read
        obtain ⟨character, _, ⟨inner, readInner, same⟩⟩ := read
        have := inductionHypothesis readInner
        simp only [Option.pure_def, Option.some.injEq] at same
        subst same
        simp only [List.length_cons]
        omega
      · exact notUnicode
  | case5 character rest notQuote notUnicode notEscape control =>
      rw [pieces?] at read
      · simp [control] at read
      all_goals assumption
  | case6 character rest notQuote notUnicode notEscape control inductionHypothesis =>
      rw [pieces?] at read
      · simp only [control, if_false, Option.map_eq_some_iff] at read
        obtain ⟨inner, readInner, same⟩ := read
        have := inductionHypothesis readInner
        subst same
        simp only [List.length_cons]
        omega
      all_goals assumption

theorem withoutDigits_length_le (source : List Char) :
    (withoutDigits source).length ≤ source.length :=
  (List.dropWhile_sublist Char.isDigit).length_le

theorem withoutDigits_length_lt {source : List Char} (someDigit : digitsOf source ≠ []) :
    (withoutDigits source).length < source.length := by
  cases source with
  | nil => simp [digitsOf] at someDigit
  | cons first rest =>
      by_cases digit : first.isDigit
      · have := withoutDigits_length_le rest
        simp only [withoutDigits, List.dropWhile_cons, digit, if_true, List.length_cons] at this ⊢
        omega
      · simp [digitsOf, digit] at someDigit

/-- Reading a fraction makes the text no longer. -/
theorem fraction?_length_le {source : List Char} {found : List Nat × List Char}
    (read : fraction? source = some found) : found.2.length ≤ source.length := by
  unfold fraction? at read
  split at read
  · rename_i rest
    split at read
    · simp at read
    · have := withoutDigits_length_le rest
      simp only [Option.some.injEq] at read
      subst read
      simp only [List.length_cons]
      omega
  · simp only [Option.some.injEq] at read
    subst read
    exact Nat.le_refl _

theorem exponentDigits?_length_le {negative : Bool} {source : List Char}
    {found : Option (Bool × List Nat) × List Char}
    (read : exponentDigits? negative source = some found) : found.2.length ≤ source.length := by
  unfold exponentDigits? at read
  split at read
  · simp at read
  · simp only [Option.some.injEq] at read
    subst read
    exact withoutDigits_length_le source

/-- Reading an exponent makes the text no longer. -/
theorem exponent?_length_le {source : List Char} {found : Option (Bool × List Nat) × List Char}
    (read : exponent? source = some found) : found.2.length ≤ source.length := by
  unfold exponent? at read
  split at read
  · split at read
    · split at read
      all_goals
        have := exponentDigits?_length_le read
        simp only [List.length_cons] at this ⊢
        omega
    · simp only [Option.some.injEq] at read
      subst read
      exact Nat.le_refl _
  · simp only [Option.some.injEq] at read
    subst read
    exact Nat.le_refl _

/-- A numeral takes at least one digit. -/
theorem unsigned?_length_lt {negative : Bool} {source : List Char}
    {found : Numeral × List Char} (read : unsigned? negative source = some found) :
    found.2.length < source.length := by
  unfold unsigned? at read
  simp only [Option.bind_eq_bind] at read
  split at read
  · simp at read
  · rename_i proper
    simp only [Option.bind_eq_some_iff, Option.pure_def, Option.some.injEq] at read
    obtain ⟨fraction, readFraction, exponent, readExponent, same⟩ := read
    have first := @withoutDigits_length_lt source fun none => proper (Or.inl none)
    have second := fraction?_length_le readFraction
    have third := exponent?_length_le readExponent
    subst same
    simp only
    omega

/-- Every symbol takes at least one character. -/
theorem symbol?_length_lt {source : List Char} {found : Symbol × List Char}
    (read : symbol? source = some found) : found.2.length < source.length := by
  unfold symbol? at read
  split at read
  case h_7 rest =>
    obtain ⟨inner, readInner, same⟩ := Option.map_eq_some_iff.mp read
    have := pieces?_length_le readInner
    subst same
    simp only [List.length_cons]
    omega
  case h_11 =>
    obtain ⟨inner, readInner, same⟩ := Option.map_eq_some_iff.mp read
    subst same
    unfold numeral? at readInner
    split at readInner
    · have := unsigned?_length_lt readInner
      simp only [List.length_cons]
      omega
    · exact unsigned?_length_lt readInner
  all_goals
    simp only [Option.some.injEq] at read
    subst read
    simp only [List.length_cons]
    omega

/-- All symbols of a source; blanks may stand between them. -/
def symbols? (source : List Char) : Option (List Symbol) :=
  match _start : source.dropWhile isBlank with
  | [] => some []
  | first :: rest =>
      match _read : symbol? (first :: rest) with
      | none => none
      | some (symbol, after) => (symbols? after).map (symbol :: ·)
termination_by source.length
decreasing_by
  have blanks := (List.dropWhile_sublist isBlank (l := source)).length_le
  have progress := symbol?_length_lt _read
  rw [_start] at blanks
  simp only at progress
  omega

end Stencil.Json
