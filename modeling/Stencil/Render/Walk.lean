import Stencil.Render.Stage

/-! The walk over the nodes of a template. -/

namespace Stencil.Render

variable {World : Type}

/-- The attributes, the content or the include, and the unwrapping of an element. -/
def prepare (host : Host World) (includes : Render World (List Node)) (tag : Tag) :
    Render World (Tag × Option (List Node)) := do
  let tag ← attributeStage host tag
  let content ← contentStage host tag
  let tag := tag.remove Directive.content
  let included ← match content with
    | some nodes => pure (some nodes)
    | none => includeStage host includes tag
  let tag := tag.remove Directive.included
  let tag ← unwrapStage host tag
  return (tag, included)

/-- An element without a content of its own keeps its children, which are rendered. -/
def renderContent (host : Host World) (includes body : Render World (List Node)) (tag : Tag) :
    Render World Node := do
  let (prepared, content) ← prepare host includes tag
  let children ← match content with
    | some nodes => pure nodes
    | none => body
  return .element prepared children

/-- A failed test leaves nothing, and a repeated element is replaced by its copies. -/
def renderElement (host : Host World) (includes body : Render World (List Node)) (tag : Tag) :
    Render World (List Node) := do
  setCurrentNode (.element tag [])
  let passed ← passes host tag.guard?
  if passed then
    match _search : tag.withoutGuard.repeat? with
    | some directive => do
        let entries ← repeatEntries host directive
        copies (itemName directive)
          (renderElement host includes body (tag.withoutGuard.remove directive.name)) 0 entries
    | none => do
        let node ← renderContent host includes body tag.withoutGuard
        return [node]
  else return []
termination_by tag.attributes.size
decreasing_by exact Tag.size_copy_lt _search

mutual
/-- Texts are interpolated, and comments stay as they are. -/
def renderNode (host : Host World) (includes : Render World (List Node)) :
    Node → Render World (List Node)
  | .element tag children =>
      renderElement host includes (renderNodes host includes children) tag
  | .text content => do
      setCurrentNode (.text content)
      let written ← interpolate host content
      return [.text written]
  | .comment content => pure [.comment content]

/-- Siblings are rendered in document order. -/
def renderNodes (host : Host World) (includes : Render World (List Node)) :
    List Node → Render World (List Node)
  | [] => pure []
  | node :: rest => do
      let first ← renderNode host includes node
      let others ← renderNodes host includes rest
      return first ++ others
end

end Stencil.Render
