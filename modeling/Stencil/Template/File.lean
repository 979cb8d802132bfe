import Stencil.Directive
import Stencil.Template.Error
import Stencil.Template.Key

/-! Template files: markup whose outermost `template` elements are the templates. -/

namespace Stencil

/-- A template with its identifier, its address and its content. -/
structure Template where
  id : String
  path : String
  name : String
  content : List Node
deriving Repr, DecidableEq

instance : DecidableEq (Except TemplateError Template)
  | .ok _, .ok _ => decidable_of_iff _ ⟨congrArg Except.ok, Except.ok.inj⟩
  | .error _, .error _ => decidable_of_iff _ ⟨congrArg Except.error, Except.error.inj⟩
  | .ok _, .error _ | .error _, .ok _ => isFalse nofun

namespace Template

/-- The key of the file and the name of a template. -/
def key (template : Template) : TemplateKey := ⟨template.path, template.name⟩

/-- An element is named by an attribute, or has the empty name. -/
def ofElement (path : String) (element : Element) : Template :=
  let name := (element.tag.get? Directive.name).getD ""
  ⟨TemplateKey.id ⟨path, name⟩, path, name, element.children⟩

mutual
/-- The outermost `template` elements of a node, in document order. -/
def outermost : Node → List Element
  | .element tag children =>
      if tag.name = "template" then [⟨tag, children⟩] else outermostOf children
  | .text _ => []
  | .comment _ => []

def outermostOf : List Node → List Element
  | [] => []
  | node :: rest => outermost node ++ outermostOf rest
end

/-- The first of several templates with one identifier is kept. -/
def keepFirst (seen : List String) : List Template → List Template
  | [] => []
  | template :: rest =>
      if template.id ∈ seen then keepFirst seen rest
      else template :: keepFirst (template.id :: seen) rest

/-- The templates among the nodes of a file. -/
def ofNodes (path : String) (nodes : List Node) : List Template :=
  keepFirst [] ((outermostOf nodes).map (ofElement path))

/-- The templates of a file, in document order. -/
def parseFile (path markup : String) : Except TemplateError (List Template) :=
  match parse markup with
  | .error cause => .error (.markup path cause)
  | .ok nodes => .ok (ofNodes path nodes)

end Template

end Stencil
