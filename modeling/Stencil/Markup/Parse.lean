import Stencil.Markup.Forest
import Stencil.Markup.Location
import Stencil.Markup.RawText
import Stencil.Markup.StartTag

/-! Reading markup: lexemes become steps, and steps build the nodes. Lexemes, their positions, and
dropping a byte order mark uncounted are assumed of the tokenizer; steps and raw texts are the
parser's own. -/

namespace Stencil.Markup

/-- The reasons why markup is refused, with the byte position that was counted. -/
inductive ReadFault where
  | malformed (fault : Fault) (position : Nat)
  | badAttribute (fault : AttributeFault)
  | splitCharacter (position : Nat)
deriving Repr, DecidableEq

/-- The rest of a source, its counted position, and whether the count leaves out a mark. -/
structure Reader where
  position : Nat
  marked : Bool
  rest : List Char
deriving Repr, DecidableEq

namespace Reader

/-- A run of lexemes starts here; the tokenizer drops its byte order mark uncounted. -/
def start (position : Nat) : List Char → Reader
  | '\uFEFF' :: rest => ⟨position, true, rest⟩
  | rest => ⟨position, false, rest⟩

/-- A start drops at most the mark. -/
theorem start_length_le (position : Nat) (source : List Char) :
    (start position source).rest.length ≤ source.length := by
  unfold start
  split <;> simp

/-- The characters before the rest that a raw text starts with. -/
def overlap? (marked : Bool) (tagText : List Char) : Option (List Char) :=
  if marked then Text.lastBytes? 3 (tagText.drop 1) else some []

end Reader

/-- A token is either some steps of the construction, or the start of a raw text. -/
inductive Meaning where
  | steps (steps : List Forest.Step)
  | rawText (tag : Tag)

/-- A start tag stands for a void element, a raw text element or an open one. -/
def startMeaning (tag : Tag) : Meaning :=
  if tag.isVoid then .steps [.append (.element tag [])]
  else if tag.isRawText then .rawText tag
  else .steps [.openElement tag]

/-- What the parser makes of a token. -/
def meaning : Token → Except AttributeFault Meaning
  | .text content => .ok (.steps [.text (String.ofList content)])
  | .reference body => .ok (.steps [.text (String.ofList (referenceText body))])
  | .startTag content => (tagOf content).map startMeaning
  | .emptyTag content => (tagOf content).map fun tag => .steps [.append (.element tag [])]
  | .endTag content =>
      let name := closedName content
      .ok (.steps (if voidNames.contains name then [] else [.close name]))
  | .comment content => .ok (.steps [.append (.comment (String.ofList content))])
  | .skipped => .ok (.steps [])

/-- An element with the given raw text; the empty text leaves no child. -/
def rawElement (tag : Tag) (content : List Char) : Node :=
  .element tag (if content = [] then [] else [.text (String.ofList content)])

/-- The steps that a source stands for, up to the first fault. -/
def steps (reader : Reader) : Except ReadFault (List Forest.Step) :=
  match _read : Lexeme.next? reader.rest with
  | .error fault => .error (.malformed fault reader.position)
  | .ok none => .ok []
  | .ok (some lexeme) =>
      let position := reader.position + Text.byteLength lexeme.text
      match meaning lexeme.token with
      | .error fault => .error (.badAttribute fault)
      | .ok (.steps first) =>
          (steps ⟨position, reader.marked, lexeme.rest⟩).map (first ++ ·)
      | .ok (.rawText tag) =>
          match _cut : Reader.overlap? reader.marked lexeme.text with
          | none => .error (.splitCharacter position)
          | some overlap =>
              let region := overlap ++ lexeme.rest
              let content := (rawText tag.name.toList region).1
              let after := (rawText tag.name.toList region).2
              let consumed := Text.byteLength region - Text.byteLength after
              (steps (.start (position + consumed) after)).map
                (.append (rawElement tag content) :: ·)
termination_by reader.rest.length
decreasing_by
  · exact (Lexeme.next?_covers _read).length_lt
  · have covers := Lexeme.next?_covers _read
    have whole := congrArg List.length covers.1
    have nonempty := List.length_pos_iff.mpr covers.2
    have back := (rawText_prefix_suffix tag.name.toList (overlap ++ lexeme.rest)).2.length_le
    have run := Reader.start_length_le (position + consumed) after
    have short : overlap.length < lexeme.text.length := by
      unfold Reader.overlap? at _cut
      split at _cut
      · have := Text.lastBytes?_length_le _cut
        simp only [List.length_drop] at this
        omega
      · simp only [Option.some.injEq] at _cut
        subst _cut
        exact nonempty
    simp only [List.length_append] at whole back
    simp only [after, region, position, consumed] at run ⊢
    omega

end Stencil.Markup

namespace Stencil

/-- The reasons why a source is refused, as they are reported. -/
inductive MarkupError where
  | malformed (fault : Markup.Fault) (location : Markup.Location)
  | badAttribute (fault : Markup.AttributeFault)
  | splitCharacter (position : Nat)
deriving Repr, DecidableEq

namespace MarkupError

/-- A fault is reported at its line and column. -/
def ofFault (source : List Char) : Markup.ReadFault → MarkupError
  | .malformed fault position => malformed fault (.ofOffset source position)
  | .badAttribute fault => badAttribute fault
  | .splitCharacter position => splitCharacter position

/-- The text of an error. -/
def message : MarkupError → String
  | malformed fault location => s!"Markup syntax error at {location.text}: {fault.message}"
  | badAttribute fault => s!"Attribute parsing error: {fault.message}"
  | splitCharacter position => s!"byte index {position} is not a char boundary"

end MarkupError

/-- The nodes of a markup fragment. -/
def parse (source : String) : Except MarkupError (List Node) :=
  match Markup.steps (.start 0 source.toList) with
  | .error fault => .error (.ofFault source.toList fault)
  | .ok steps => .ok (Markup.Forest.build steps)

end Stencil
