import Stencil.Expression.Path

/-! Placeholders in text, and backslashes that keep them as text. -/

namespace Stencil

/-- A piece of a text. -/
inductive Piece where
  | literal (content : List Char)
  | placeholder (body : List Char)
  | escaped (body : List Char)
deriving Repr, DecidableEq

namespace Placeholder

/-- Bodies are made of ASCII letters and digits, dots, backslashes and blanks. -/
def isBodyCharacter (character : Char) : Bool :=
  character.isAlphanum || character = '.' || character = '\\' || Text.isBlank character

def opening : List Char := ['$', '\x7b']

def closing : List Char := ['\x7d']

/-- A placeholder with the given body, as it is written. -/
def write (body : List Char) : List Char := opening ++ body ++ closing

/-- The body of the placeholder that a text starts with, and what follows it. -/
def start? : List Char → Option (List Char × List Char)
  | '$' :: '\x7b' :: rest =>
      match rest.dropWhile isBodyCharacter with
      | '\x7d' :: after =>
          let body := rest.takeWhile isBodyCharacter
          if body = [] then none else some (body, after)
      | _ => none
  | _ => none

/-- A placeholder is given back by writing its body, which is not empty. -/
theorem start?_eq {source body after : List Char} (found : start? source = some (body, after)) :
    source = write body ++ after ∧ body ≠ [] ∧ body.all isBodyCharacter = true := by
  unfold start? at found
  split at found
  · rename_i rest
    split at found
    · rename_i behind stop
      simp only at found
      split at found
      · simp at found
      · rename_i nonempty
        simp only [Option.some.injEq, Prod.mk.injEq] at found
        obtain ⟨rfl, rfl⟩ := found
        refine ⟨?_, nonempty, ?_⟩
        · have whole := List.takeWhile_append_dropWhile (p := isBodyCharacter) (l := rest)
          rw [stop] at whole
          simp [write, opening, closing, whole]
        · exact List.all_takeWhile
    · simp at found
  · simp at found

end Placeholder

namespace Piece

/-- The text that a piece was read from. -/
def source : Piece → List Char
  | literal content => content
  | placeholder body => Placeholder.write body
  | escaped body => '\\' :: Placeholder.write body

/-- A placeholder behind a backslash. -/
def escaped? : List Char → Option (Piece × List Char)
  | '\\' :: rest => (Placeholder.start? rest).map fun found => (escaped found.1, found.2)
  | _ => none

/-- The placeholder that a text starts with, and what follows it. -/
def placeholder? (text : List Char) : Option (Piece × List Char) :=
  (Placeholder.start? text).map fun found => (placeholder found.1, found.2)

/-- The characters that a placeholder, escaped or not, can start with. -/
def isMark (character : Char) : Bool := character = '$' || character = '\\'

/-- The characters up to the next mark, if there are any. -/
def run? (text : List Char) : Option (Piece × List Char) :=
  match text.takeWhile fun character => !isMark character with
  | [] => none
  | run => some (literal run, text.dropWhile fun character => !isMark character)

/-- One character, whatever it is. -/
def single? : List Char → Option (Piece × List Char)
  | [] => none
  | character :: rest => some (literal [character], rest)

/-- The piece that a text starts with, by the first way to read one. -/
def next? (text : List Char) : Option (Piece × List Char) :=
  (escaped? text).or ((placeholder? text).or ((run? text).or (single? text)))

/-- Pieces as long as there is one, and the rest; each takes something of the text. -/
def sequence? (text : List Char) : Option (List Piece × List Char) :=
  match next? text with
  | none => some ([], text)
  | some (piece, rest) =>
      if _shorter : rest.length < text.length then
        (sequence? rest).map fun found => (piece :: found.1, found.2)
      else none
termination_by text.length

/-- A literal joins the literal that was read before it. The newest piece stands first. -/
def mergeNext : List Piece → Piece → List Piece
  | literal before :: older, literal content => literal (before ++ content) :: older
  | merged, piece => piece :: merged

/-- Literals side by side become one. -/
def merge (pieces : List Piece) : List Piece := (pieces.foldl mergeNext []).reverse

/-- The pieces of a text. A text that cannot be read is one literal. -/
def scan (text : List Char) : List Piece :=
  match sequence? text with
  | some (pieces, _) => merge pieces
  | none => [literal text]

def isLiteral : Piece → Bool
  | literal _ => true
  | _ => false

/-- The path that a placeholder names. -/
def path (body : List Char) : List String := Path.parse (String.ofList body)

/-- The paths of the placeholders among pieces, in their order. -/
def paths (pieces : List Piece) : List (List String) :=
  pieces.filterMap fun
    | placeholder body => some (path body)
    | literal _ => none
    | escaped _ => none

end Piece

/-- A text has placeholders when some piece of it is one, escaped or not. -/
def hasPlaceholders (pieces : List Piece) : Bool := pieces.any fun piece => !piece.isLiteral

end Stencil
