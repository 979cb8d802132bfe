import Stencil.Value.Basic

/-! The context of a render: names and their values, in the order of their insertion. -/

namespace Stencil

/-- The values in scope, by name. -/
abbrev Context := OrderedMap Value

namespace Context

def block : String := "block"
def blockNameKey : String := "blockName"
def codeBasePathKey : String := "codeBasePath"
def templateKey : String := "template"
def currentNodeKey : String := "currentNode"

/-- A context as one value. -/
def value (context : Context) : Value := .map context

/-- The name of the block, if the context has one. -/
def blockName? (context : Context) : Option String :=
  (context.get? blockNameKey).bind Value.string?

/-- The path that the files of blocks lie under. -/
def codeBasePath? (context : Context) : Option String :=
  (context.get? codeBasePathKey).bind Value.string?

/-- A part of the address of the template that is rendered. -/
def templateField? (context : Context) (field : String) : Option String :=
  (context.get? templateKey).bind fun template =>
    template.map?.bind fun fields => (fields.get? field).bind Value.string?

def templatePath? (context : Context) : Option String := templateField? context "path"

def templateName? (context : Context) : Option String := templateField? context "name"

/-- The entry that tells which template is rendered. -/
def templateValue (path name : String) : Value :=
  .map ⟨[("path", .string path), ("name", .string name)]⟩

/-- The scope of a template knows its address. -/
def setTemplate (context : Context) (path name : String) : Context :=
  context.insert templateKey (templateValue path name)

/-- The node that is visited is in the context. -/
def setCurrentNode (context : Context) (node : Node) : Context :=
  context.insert currentNodeKey (.node node)

/-- The node that is visited. -/
def currentNode? (context : Context) : Option Node :=
  match context.get? currentNodeKey with
  | some (.node node) => some node
  | _ => none

end Context

end Stencil
