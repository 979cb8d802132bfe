import Stencil.Json.Magnitude
import Stencil.Json.Parse
import Stencil.Value.Basic

/-! Values from JSON. -/

namespace Stencil.Value

mutual
/-- The value of JSON; too large numbers and strings without content have none. -/
def ofJson? : Json → Option Value
  | .null => some null
  | .bool value => some (bool value)
  | .number numeral => numeral.number?.map number
  | .string content => content.map string
  | .array items => (ofJsons? items).map list
  | .object members => (ofMembers? members).map fun entries => map (.ofList entries)

def ofJsons? : List Json → Option (List Value)
  | [] => some []
  | item :: rest =>
      match ofJson? item, ofJsons? rest with
      | some value, some values => some (value :: values)
      | _, _ => none

def ofMembers? : List (Option String × Json) → Option (List (String × Value))
  | [] => some []
  | (key, item) :: rest =>
      match key, ofJson? item, ofMembers? rest with
      | some name, some value, some entries => some ((name, value) :: entries)
      | _, _, _ => none
end

/-- The value that a JSON text writes; it may not nest deeper than the limit. -/
def read? (source : String) : Option Value :=
  (Json.parse? source).bind fun json =>
    if json.depth ≤ Json.depthLimit then ofJson? json else none

end Stencil.Value
