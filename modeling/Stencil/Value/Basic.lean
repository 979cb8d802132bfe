import Stencil.Markup.Node
import Stencil.Number.Text

/-! The values that templates read. -/

namespace Stencil

/-- A resolver is known by its handle; what it answers is up to the host. -/
structure Resolver where
  handle : Nat
deriving Repr, DecidableEq

/-- The values that expressions lead to. -/
inductive Value where
  | null
  | bool (value : Bool)
  | number (value : Number)
  | string (content : String)
  | list (items : List Value)
  | map (entries : OrderedMap Value)
  | node (node : Node)
  | nodes (nodes : List Node)
  | resolver (resolver : Resolver)

namespace Value

instance : Inhabited Value := ⟨null⟩

instance : Coe String Value := ⟨string⟩

/-- Null stands for data that is absent. -/
def isNull : Value → Bool
  | null => true
  | _ => false

/-- Containers, nodes and resolvers are true even when they are empty. -/
def isTruthy : Value → Bool
  | null => false
  | bool value => value
  | number value => value.isTruthy
  | string content => content != ""
  | list _ | map _ | node _ | nodes _ | resolver _ => true

def string? : Value → Option String
  | string content => some content
  | _ => none

def map? : Value → Option (OrderedMap Value)
  | map entries => some entries
  | _ => none

def resolver? : Value → Option Resolver
  | resolver handle => some handle
  | _ => none

/-- Only null is null. -/
theorem isNull_eq_false {value : Value} (present : value ≠ null) : value.isNull = false := by
  cases value with
  | null => exact absurd rfl present
  | bool _ | number _ | string _ | list _ | map _ | node _ | nodes _ | resolver _ => rfl

/-- A value with the handle of a resolver is that resolver. -/
theorem eq_resolver_of_resolver? {value : Value} {handle : Resolver}
    (held : value.resolver? = some handle) : value = resolver handle := by
  cases value with
  | resolver _ => cases held; rfl
  | null | bool _ | number _ | string _ | list _ | map _ | node _ | nodes _ => cases held

/-- The name of the type of a value. -/
def typeName : Value → String
  | null => "null"
  | bool _ => "boolean"
  | number _ => "number"
  | string _ => "string"
  | list _ => "list"
  | map _ => "map"
  | node _ => "node"
  | nodes _ => "node list"
  | resolver _ => "resolver"

/-- Data that may be missing is null when it is. -/
def ofOption : Option Value → Value
  | some value => value
  | none => null

mutual
/-- The text that a value is written as; null and resolvers leave nothing. -/
def text : Value → String
  | null => ""
  | bool value => if value then "true" else "false"
  | number value => value.text
  | string content => content
  | list items => joinedText items
  | map _ => "[object Object]"
  | node content => content.textContent
  | nodes content => Node.textContents content
  | resolver _ => ""

def joinedText : List Value → String
  | [] => ""
  | [item] => item.text
  | item :: rest => item.text ++ "," ++ joinedText rest
end

mutual
/-- Maps are equal in any order, and resolvers by their handles. -/
def equals : Value → Value → Bool
  | null, null => true
  | bool first, bool second => first == second
  | number first, number second => first.equals second
  | string first, string second => first == second
  | list first, list second => equalsAll first second
  | map ⟨first⟩, map second => first.length == second.size && allHeld first second
  | node first, node second => first == second
  | nodes first, nodes second => first == second
  | resolver first, resolver second => first == second
  | _, _ => false

def equalsAll : List Value → List Value → Bool
  | [], [] => true
  | first :: rest, second :: others => first.equals second && equalsAll rest others
  | _, _ => false

/-- Every entry has an equal one in a map. -/
def allHeld : List (String × Value) → OrderedMap Value → Bool
  | [], _ => true
  | (key, value) :: rest, held =>
      (match held.get? key with
        | some other => value.equals other
        | none => false) && allHeld rest held
end

end Value

end Stencil
