import Stencil.Markup.Lexeme
import Stencil.Markup.Node
import Stencil.Markup.Reference
import Stencil.Text.Bytes

/-! The content of a start tag: a name and attributes. Attribute pairs and their faults are assumed
of the tokenizer; lower case and decoded values are the parser's own. -/

namespace Stencil.Markup

/-- The reasons why the attributes of a tag cannot be read. -/
inductive AttributeFault where
  | duplicated (position previous : Nat)
  | missingValue (position : Nat)
  | openQuote (position : Nat) (quote : Char)
deriving Repr, DecidableEq

/-- The text of a fault of attributes. -/
def AttributeFault.message : AttributeFault → String
  | duplicated position previous =>
      s!"position {position}: duplicated attribute, previous declaration at position {previous}"
  | missingValue position => s!"position {position}: `=` must be followed by an attribute value"
  | openQuote position quote =>
      s!"position {position}: missing closing quote `{quote}` in attribute value"

def isQuote (character : Char) : Bool := character = '"' || character = '\x27'

/-- A character that may follow the first one of a key. -/
def isKeyPart (character : Char) : Bool := character != '=' && !isSpace character

/-- The value behind a key, and what follows it; without `=` the value is empty. -/
def attributeValue (ending : Nat) (afterKey : List Char) :
    Except AttributeFault (List Char × List Char) :=
  match afterKey.dropWhile isSpace with
  | '=' :: assigned =>
      match assigned.dropWhile isSpace with
      | [] => .error (.missingValue ending)
      | first :: rest =>
          if isQuote first then
            match rest.dropWhile (· != first) with
            | [] => .error (.openQuote ending first)
            | _ :: after => .ok (rest.takeWhile (· != first), after)
          else
            .ok (first :: rest.takeWhile (!isSpace ·), rest.dropWhile (!isSpace ·))
  | _ => .ok ([], afterKey)

/-- Reading a value makes the text no longer. -/
theorem attributeValue_length_le {ending : Nat} {afterKey : List Char}
    {found : List Char × List Char} (read : attributeValue ending afterKey = .ok found) :
    found.2.length ≤ afterKey.length := by
  have shorter : ∀ (keep : Char → Bool) (text : List Char),
      (text.dropWhile keep).length ≤ text.length :=
    fun keep text => (List.dropWhile_sublist keep).length_le
  unfold attributeValue at read
  split at read
  · rename_i assigned behindKey
    have first := shorter isSpace afterKey
    rw [behindKey] at first
    split at read
    · simp at read
    · rename_i mark rest behindEquals
      have second := shorter isSpace assigned
      rw [behindEquals] at second
      split at read
      · split at read
        · simp at read
        · rename_i closing after behindValue
          have third := shorter (· != mark) rest
          rw [behindValue] at third
          simp only [Except.ok.injEq] at read
          subst read
          simp only [List.length_cons] at first second third ⊢
          omega
      · have third := shorter (!isSpace ·) rest
        simp only [Except.ok.injEq] at read
        subst read
        simp only [List.length_cons] at first second third ⊢
        omega
  · simp only [Except.ok.injEq] at read
    subst read
    exact Nat.le_refl _

/-- Keys and values in order; a key that was seen before is a fault. -/
def attributePairs (ending : Nat) (seen : List (List Char × Nat)) (source : List Char) :
    Except AttributeFault (List (List Char × List Char)) :=
  match _start : source.dropWhile isSpace with
  | [] => .ok []
  | first :: rest =>
      let key := first :: rest.takeWhile isKeyPart
      let position := ending - Text.byteLength (first :: rest)
      match seen.lookup key with
      | some previous => .error (.duplicated position previous)
      | none =>
          match _read : attributeValue ending (rest.dropWhile isKeyPart) with
          | .error fault => .error fault
          | .ok (value, after) =>
              (attributePairs ending ((key, position) :: seen) after).map ((key, value) :: ·)
termination_by source.length
decreasing_by
  have spaces := (List.dropWhile_sublist isSpace (l := source)).length_le
  have key := (List.dropWhile_sublist isKeyPart (l := rest)).length_le
  have value := attributeValue_length_le _read
  simp only [_start, List.length_cons] at spaces value
  omega

/-- Names are lower-cased, and the last value of a name wins. -/
def attributesOf (pairs : List (List Char × List Char)) : OrderedMap String :=
  OrderedMap.ofList (pairs.map fun pair =>
    ((String.ofList pair.1).toLower, String.ofList (decodeValue pair.2)))

/-- The tag that the content of a start tag describes. -/
def tagOf (content : List Char) : Except AttributeFault Tag :=
  let name := content.takeWhile (!isSpace ·)
  (attributePairs (Text.byteLength content) [] (content.dropWhile (!isSpace ·))).map fun pairs =>
    ⟨(String.ofList name).toLower, attributesOf pairs⟩

/-- The name in an end tag in small letters; the tokenizer trims the spaces at its end. -/
def closedName (content : List Char) : String :=
  let written := (content.reverse.dropWhile isSpace).reverse
  (String.ofList (if written = [] then content else written)).toLower

end Stencil.Markup
