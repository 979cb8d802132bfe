import Stencil.Markup.Node

/-! The written form of a tree. -/

namespace Stencil

/-- In text the ampersand, the no-break space and both angle brackets are escaped. -/
def escapeTextCharacter : Char → List Char
  | '&' => "&amp;".toList
  | '\u00A0' => "&nbsp;".toList
  | '<' => "&lt;".toList
  | '>' => "&gt;".toList
  | character => [character]

/-- In an attribute value the ampersand, the no-break space and the quote are escaped. -/
def escapeValueCharacter : Char → List Char
  | '&' => "&amp;".toList
  | '\u00A0' => "&nbsp;".toList
  | '"' => "&quot;".toList
  | character => [character]

/-- A text as it is written in markup. -/
def escapeText (text : String) : String := String.ofList (text.toList.flatMap escapeTextCharacter)

/-- An attribute value as it is written in quotes. -/
def escapeValue (value : String) : String :=
  String.ofList (value.toList.flatMap escapeValueCharacter)

namespace Tag

/-- Each attribute is written behind a space, with its value in quotes. -/
def attributesHtml : List (String × String) → String
  | [] => ""
  | (name, value) :: rest =>
      " " ++ name ++ "=\"" ++ escapeValue value ++ "\"" ++ attributesHtml rest

/-- The start tag of an element. -/
def opening (tag : Tag) : String := "<" ++ tag.name ++ attributesHtml tag.attributes.entries ++ ">"

/-- The end tag of an element. -/
def closing (tag : Tag) : String := "</" ++ tag.name ++ ">"

end Tag

namespace Node

mutual
/-- A void element is written without its children and without an end tag. -/
def html : Node → String
  | element tag children =>
      if tag.isVoid then tag.opening
      else tag.opening ++ htmlWithin tag.isRawText children ++ tag.closing
  | text content => escapeText content
  | comment content => "<!--" ++ content ++ "-->"

/-- Siblings are written one after the other; the texts of a raw text element stay unescaped. -/
def htmlWithin (raw : Bool) : List Node → String
  | [] => ""
  | text content :: rest =>
      (if raw then content else escapeText content) ++ htmlWithin raw rest
  | node :: rest => node.html ++ htmlWithin raw rest
end

end Node

/-- The written form of sibling nodes. -/
def htmlOf (nodes : List Node) : String := Node.htmlWithin false nodes

namespace Element

/-- An element as it is written. -/
def html (element : Element) : String := element.node.html

/-- The children of an element as they are written. -/
def innerHtml (element : Element) : String := htmlOf element.children

end Element

/-- Siblings are written one after the other. -/
theorem htmlOf_cons (node : Node) (rest : List Node) :
    htmlOf (node :: rest) = node.html ++ htmlOf rest := by
  cases node <;> simp [htmlOf, Node.htmlWithin, Node.html]

end Stencil
