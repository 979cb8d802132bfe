import Stencil.Text.CaseTable

/-! Lower-casing of text by the full Unicode rules that need no language. -/

namespace Stencil.Text

def CaseRange.covers (range : CaseRange) (code : Nat) : Bool :=
  range.first ≤ code && code ≤ range.last && (code - range.first) % range.step == 0

/-- Whether a character is in one of the ranges. -/
def within (ranges : List (Nat × Nat)) (character : Char) : Bool :=
  ranges.any fun range => range.1 ≤ character.toNat && character.toNat ≤ range.2

def isCaseIgnorable (character : Char) : Bool := within ignorableRanges character

def isCased (character : Char) : Bool := within casedRanges character

/-- A character whose lower case is one character of the table, or itself. -/
def simpleLowerCase (character : Char) : Char :=
  if character.toNat < 0x80 then character.toLower
  else
    match lowerRanges.find? (·.covers character.toNat) with
    | some range => Char.ofNat (character.toNat + range.shift).toNat
    | none => character

/-- The first character that counts is cased. -/
def meetsCased (text : List Char) : Bool :=
  ((text.dropWhile isCaseIgnorable).head?.map isCased).getD false

/-- The lower case of a character between two texts, the first one reversed. -/
def lowerCaseBetween (before : List Char) (character : Char) (after : List Char) : List Char :=
  if character = 'Σ' then [if meetsCased before && !meetsCased after then 'ς' else 'σ']
  else if character = 'İ' then ['i', '\u0307']
  else [simpleLowerCase character]

/-- The lower case of what follows a text, which is reversed. -/
def lowerCaseAfter (before : List Char) : List Char → List Char
  | [] => []
  | character :: rest =>
      lowerCaseBetween before character rest ++ lowerCaseAfter (character :: before) rest

/-- The lower case of a text. -/
def lowerCase (text : String) : String := String.ofList (lowerCaseAfter [] text.toList)

end Stencil.Text
