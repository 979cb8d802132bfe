import Stencil.Markup.Node
import Stencil.Text.Blank
import Stencil.Text.Start

/-! Wrapping of loose content in the cells of a block. -/

namespace Stencil

namespace Cell

def processorName : String := "WrapTextNodes"

def wrapperNames : List String :=
  ["p", "pre", "ul", "ol", "picture", "table", "h1", "h2", "h3", "h4", "h5", "h6"]

/-- An empty cell needs no wrapper. A picture is a wrapper only if it has no company. -/
def needsWrapper (cell : Element) : Bool :=
  match cell.children, cell.elementChildren with
  | [], _ => false
  | _, [] => true
  | _, first :: others =>
      if wrapperNames.contains first.tag.name then
        first.tag.name = "picture" && (!others.isEmpty || !Text.allBlank cell.textContent)
      else true

/-- The attributes that move to the wrapper. -/
def moves (name : String) : Bool :=
  name = "class" || Text.startsWith "data-aue" name || Text.startsWith "data-richtext" name

/-- The wrapper takes all children of the cell. -/
def wrapper (cell : Element) : Node :=
  .element ⟨"p", ⟨cell.tag.attributes.entries.filter (moves ·.1)⟩⟩ cell.children

/-- A paragraph takes over the children and the moved attributes of a cell. -/
def wrap (cell : Element) : Element :=
  ⟨{ cell.tag with attributes := ⟨cell.tag.attributes.entries.filter (!moves ·.1)⟩ },
    [wrapper cell]⟩

/-- A child of a row is wrapped if it is a cell with loose content. -/
def process : Node → Node
  | .element tag children =>
      if tag.name = "div" ∧ needsWrapper ⟨tag, children⟩ = true then
        (wrap ⟨tag, children⟩).node
      else .element tag children
  | node => node

end Cell

/-- The cells of a row are processed. -/
def wrapRow : Node → Node
  | .element tag children =>
      if tag.name = "div" then .element tag (children.map Cell.process)
      else .element tag children
  | node => node

/-- The rows are the top-level `div` elements. -/
def wrapCells (nodes : List Node) : List Node := nodes.map wrapRow

end Stencil
