import Stencil.Directive
import Stencil.Render.Scene

/-! The stages that an element goes through: test, repeat, attributes, content, include and unwrap.
-/

namespace Stencil

namespace Stage

/-- The stages in the order in which they run. -/
def names : List String := ["test", "repeat", "attributes", "content", "include", "unwrap"]

end Stage

namespace Tag

/-- The first test or negated test of an element; it decides whether the element is rendered. -/
def guard? (tag : Tag) : Option Qualified := tag.qualified? [Directive.test, Directive.not]

/-- The tag behind its test. -/
def withoutGuard (tag : Tag) : Tag :=
  match tag.guard? with
  | some guard => tag.remove guard.name
  | none => tag

/-- The first repeat of an element. -/
def repeat? (tag : Tag) : Option Qualified := tag.qualified? [Directive.repeated]

/-- A test is at most one attribute. -/
theorem withoutGuard_size_le (tag : Tag) :
    tag.withoutGuard.attributes.size ≤ tag.attributes.size := by
  unfold withoutGuard
  split
  · exact tag.remove_size_le _
  · exact Nat.le_refl _

/-- A copy of a repeated element has fewer attributes. -/
theorem size_copy_lt {tag : Tag} {directive : Qualified}
    (search : tag.withoutGuard.repeat? = some directive) :
    (tag.withoutGuard.remove directive.name).attributes.size < tag.attributes.size :=
  Nat.lt_of_lt_of_le (Tag.remove_size_lt search) tag.withoutGuard_size_le

end Tag

namespace Render

variable {World : Type}

/-- Whether the test passes; the result of a qualified one is stored. -/
def passes (host : Host World) : Option Qualified → Render World Bool
  | none => pure true
  | some guard => do
      let value ← evaluate host guard.expression
      let truthy := (value.map Value.isTruthy).getD false
      let passed := if guard.base = Directive.not then !truthy else truthy
      match guard.qualifier with
      | some name => changeContext (·.insert (Text.lowerCase name) (.bool passed))
      | none => pure ()
      return passed

/-- The name of the items of a repeat. -/
def itemName (directive : Qualified) : String :=
  (directive.qualifier.map Text.lowerCase).getD "item"

/-- The entries that a repeat runs over; what is no collection has none. -/
def repeatEntries (host : Host World) (directive : Qualified) :
    Render World (List (String × Value)) := do
  let value ← evaluate host directive.expression
  return ((value.bind Value.collection?).map Collection.entries).getD []

/-- The bindings that one copy of a repeated element sees. -/
def bindItem (name : String) (position : Nat) (entry : String × Value) (context : Context) :
    Context :=
  context.insertAll
    [(name, entry.2), (name ++ "Index", .number (.ofNat position)),
      (name ++ "Number", .number (.ofNat (position + 1))), (name ++ "Key", .string entry.1)]

/-- Each copy is rendered in a scope of its own; the first that fails ends the repeat. -/
def copies (name : String) (copy : Render World (List Node)) :
    (position : Nat) → List (String × Value) → Render World (List Node)
  | _, [] => pure []
  | position, entry :: rest => do
      let first ← inScope (bindItem name position entry) copy
      let others ← copies name copy (position + 1) rest
      return first ++ others

/-- The placeholders of all attributes but the directives are replaced, in order. -/
def interpolateAttributes (host : Host World) :
    List (String × String) → Render World (List (String × String))
  | [] => pure []
  | (name, value) :: rest => do
      let written ← if Directive.isDirective name then pure value else interpolate host value
      let others ← interpolateAttributes host rest
      return (name, written) :: others

/-- An entry of a map becomes an attribute; null removes it. -/
def overlayEntry (attributes : OrderedMap String) (entry : String × Value) : OrderedMap String :=
  let name := entry.1.toLower
  if entry.2.isNull then attributes.erase name else attributes.insert name entry.2.text

/-- The entries of a map win over the attributes; other values change nothing. -/
def overlay (attributes : OrderedMap String) : Option Value → OrderedMap String
  | some (.map entries) => entries.entries.foldl overlayEntry attributes
  | _ => attributes

/-- The attributes are interpolated first, and then the map of the directive is laid over them. -/
def attributeStage (host : Host World) (tag : Tag) : Render World Tag := do
  let expression := tag.get? Directive.attributes
  let entries ← interpolateAttributes host (tag.remove Directive.attributes).attributes.entries
  let value ← match expression with
    | some expression => evaluate host expression
    | none => pure none
  return { tag with attributes := overlay ⟨entries⟩ value }

/-- Nodes are inserted as they are, and any other value as its text. -/
def nodesOf : Value → List Node
  | .node node => [node]
  | .nodes nodes => nodes
  | value => [.text value.text]

/-- The items of a list are inserted one after the other; absent data leaves nothing. -/
def contentNodes : Option Value → List Node
  | none => []
  | some (.list items) => items.flatMap nodesOf
  | some value => nodesOf value

/-- The content that a directive sets; without one there is no answer. -/
def contentStage (host : Host World) (tag : Tag) : Render World (Option (List Node)) :=
  match tag.get? Directive.content with
  | none => pure none
  | some expression => do
      let value ← evaluate host expression
      return some (contentNodes value)

/-- A target is a path and a name behind a slash, or a name in the file. -/
def includeKey (context : Context) (target : String) : TemplateKey :=
  if Text.startsWith "/" target then
    let parts := target.toList.splitOn '#'
    ⟨String.ofList (parts.headD []), String.ofList (parts.tail.headD [])⟩
  else ⟨context.templatePath?.getD "", target⟩

/-- Another template is rendered in a scope that addresses it. -/
def includeStage (host : Host World) (includes : Render World (List Node)) (tag : Tag) :
    Render World (Option (List Node)) :=
  match tag.get? Directive.included with
  | none => pure none
  | some value => do
      let target ← interpolate host value
      let nodes ← inScope
        (fun context =>
          let key := includeKey context target
          context.setTemplate key.path key.name)
        includes
      return some nodes

/-- An empty marker stays, and a marker with an expression stays when that is true. -/
def unwrapStage (host : Host World) (tag : Tag) : Render World Tag :=
  match tag.get? Directive.unwrap with
  | none => pure tag
  | some expression =>
      if expression = "" then pure tag
      else do
        let value ← evaluate host expression
        return if (value.map Value.isTruthy).getD false then tag else tag.remove Directive.unwrap

end Render

end Stencil
