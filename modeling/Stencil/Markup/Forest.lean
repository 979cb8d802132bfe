import Stencil.Markup.Node

/-! A forest under construction: open elements above the finished top-level nodes. -/

namespace Stencil.Markup

/-- An open element with its children so far, the newest first. -/
structure Frame where
  tag : Tag
  children : List Node := []
deriving Repr, DecidableEq

/-- An open element as it is when it is closed. -/
def Frame.node (frame : Frame) : Node := .element frame.tag frame.children.reverse

/-- The open elements, the innermost first, and the top-level nodes, the newest first. -/
structure Forest where
  frames : List Frame := []
  roots : List Node := []
deriving Repr, DecidableEq

namespace Forest

/-- One step of a construction. -/
inductive Step where
  | openElement (tag : Tag)
  | append (node : Node)
  | text (content : String)
  | close (name : String)
deriving Repr, DecidableEq

/-- Nothing is open, and nothing was built. -/
def empty : Forest := {}

/-- An edit reaches the children of the innermost open element. -/
def edit (change : List Node → List Node) : Forest → Forest
  | ⟨[], roots⟩ => ⟨[], change roots⟩
  | ⟨frame :: outer, roots⟩ => ⟨{ frame with children := change frame.children } :: outer, roots⟩

/-- A node becomes the newest child of the innermost open element. -/
def append (forest : Forest) (node : Node) : Forest := forest.edit (node :: ·)

/-- A text joins a text that stands directly before it; the empty text leaves no node. -/
def joinText (content : String) (nodes : List Node) : List Node :=
  if content = "" then nodes
  else
    match nodes with
    | .text before :: others => .text (before ++ content) :: others
    | _ => .text content :: nodes

/-- A text joins a text that it stands directly behind. -/
def addText (forest : Forest) (content : String) : Forest := forest.edit (joinText content)

/-- An element is open from now on. -/
def openElement (forest : Forest) (tag : Tag) : Forest :=
  { forest with frames := ⟨tag, []⟩ :: forest.frames }

/-- The innermost open element becomes a child of the element around it. -/
def closeInnermost (forest : Forest) : Forest :=
  match forest.frames with
  | [] => forest
  | frame :: outer => append ⟨outer, forest.roots⟩ frame.node

/-- The given number of innermost elements is closed. -/
def closeInner : Nat → Forest → Forest
  | 0, forest => forest
  | count + 1, forest => closeInner count forest.closeInnermost

/-- The innermost open element of a name is closed with all inside it, if there is one. -/
def close (forest : Forest) (name : String) : Forest :=
  match forest.frames.findIdx? (·.tag.name = name) with
  | some inner => closeInner (inner + 1) forest
  | none => forest

/-- What each step does to the forest. -/
def step (forest : Forest) : Step → Forest
  | .openElement tag => forest.openElement tag
  | .append node => forest.append node
  | .text content => forest.addText content
  | .close name => forest.close name

/-- What is still open is closed at the end. -/
def finish (forest : Forest) : List Node :=
  (closeInner forest.frames.length forest).roots.reverse

/-- The forest that steps build, before what is open is closed. -/
def run (steps : List Step) : Forest := steps.foldl step empty

/-- The nodes that a construction yields. -/
def build (steps : List Step) : List Node := (run steps).finish

end Forest

end Stencil.Markup
