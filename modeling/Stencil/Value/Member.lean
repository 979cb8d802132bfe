import Stencil.Markup.Dataset
import Stencil.Markup.Html
import Stencil.Text.Decimal
import Stencil.Value.Basic

/-! Members and entries of values. -/

namespace Stencil

/-- The members of an element, by the names that documents use for them. -/
def Element.member? (element : Element) : String → Option Value
  | "tagName" => some (.string element.tag.name.toUpper)
  | "children" => some (.nodes (element.elementChildren.map Element.node))
  | "childNodes" => some (.nodes element.children)
  | "firstElementChild" => element.elementChildren.head?.map fun child => .node child.node
  | "innerHTML" => some (.string element.innerHtml)
  | "outerHTML" => some (.string element.html)
  | "dataset" =>
      let entries := (Dataset.entries element.tag.attributes).map fun entry =>
        (entry.1, Value.string entry.2)
      some (.map (.ofList entries))
  | _ => none

/-- Every node has its text as a member. -/
def Node.member? (node : Node) (key : String) : Option Value :=
  if key = "textContent" then some (.string node.textContent)
  else node.element?.bind (·.member? key)

namespace Value

/-- Sequences have a length and members at the positions that digit strings write. -/
def sequenceMember? (items : List Value) (key : String) : Option Value :=
  if key = "length" then some (.number (.ofNat items.length))
  else (Text.decimal? key).bind (items[·]?)

/-- Maps are read by key, sequences by position, and nodes by member names. -/
def member? (value : Value) (key : String) : Option Value :=
  match value with
  | map entries => entries.get? key
  | list items => sequenceMember? items key
  | nodes content => sequenceMember? (content.map .node) key
  | string content =>
      sequenceMember? (content.toList.map fun character => .string character.toString) key
  | node content => content.member? key
  | _ => none

end Value

/-- What can be repeated over. -/
inductive Collection where
  | indexed (items : List Value)
  | keyed (entries : List (String × Value))

namespace Collection

/-- The number of items that a repeat runs over. -/
def size : Collection → Nat
  | indexed items => items.length
  | keyed entries => entries.length

/-- The keys of a sequence are its positions, in decimal. -/
def entriesFrom (position : Nat) : List Value → List (String × Value)
  | [] => []
  | item :: rest => (position.repr, item) :: entriesFrom (position + 1) rest

/-- The items with their keys; those of a sequence are positions. -/
def entries : Collection → List (String × Value)
  | indexed items => entriesFrom 0 items
  | keyed entries => entries

end Collection

/-- Lists, node lists and maps can be repeated over; other values cannot. -/
def Value.collection? : Value → Option Collection
  | list items => some (.indexed items)
  | nodes content => some (.indexed (content.map .node))
  | map entries => some (.keyed entries.entries)
  | _ => none

end Stencil
