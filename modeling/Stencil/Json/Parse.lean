import Stencil.Json.Symbol

/-! Reading JSON text: a list of symbols drives a stack of open arrays and objects. -/

namespace Stencil.Json

/-- An open array or object; what it holds so far stands the newest first. -/
inductive Open where
  | array (items : List Json)
  | object (members : List (Option String × Json)) (key : Option String)

/-- What the next symbol has to be. -/
inductive Awaited where
  | value
  | valueOrClose
  | key
  | keyOrClose
  | colon
  | separator
  | nothing
deriving DecidableEq

/-- A value that is being read. -/
structure Reading where
  stack : List Open := []
  awaited : Awaited := .value
  finished : Json := .null

namespace Reading

/-- A whole value goes into the innermost open array or object. -/
def place (reading : Reading) (value : Json) : Reading :=
  match reading.stack with
  | [] => ⟨[], .nothing, value⟩
  | .array items :: outer => ⟨.array (value :: items) :: outer, .separator, .null⟩
  | .object members key :: outer =>
      ⟨.object ((key, value) :: members) none :: outer, .separator, .null⟩

/-- Whether a value may stand at this point. -/
def awaitsValue (reading : Reading) : Bool :=
  reading.awaited = .value || reading.awaited = .valueOrClose

/-- A value is put where one is awaited. -/
def placeAwaited? (reading : Reading) (value : Json) : Option Reading :=
  if reading.awaitsValue then some (reading.place value) else none

/-- A closing bracket ends the innermost array. -/
def closeArray? (reading : Reading) : Option Reading :=
  match reading.stack with
  | .array items :: outer =>
      if reading.awaited = .valueOrClose ∨ reading.awaited = .separator then
        some (place ⟨outer, .value, .null⟩ (.array items.reverse))
      else none
  | _ => none

/-- A closing brace ends the innermost object. -/
def closeObject? (reading : Reading) : Option Reading :=
  match reading.stack with
  | .object members _ :: outer =>
      if reading.awaited = .keyOrClose ∨ reading.awaited = .separator then
        some (place ⟨outer, .value, .null⟩ (.object members.reverse))
      else none
  | _ => none

/-- A string is a key or a value, by what is awaited. -/
def string? (reading : Reading) (content : Option String) : Option Reading :=
  match reading.stack with
  | .object members _ :: outer =>
      if reading.awaited = .key ∨ reading.awaited = .keyOrClose then
        some ⟨.object members content :: outer, .colon, .null⟩
      else reading.placeAwaited? (.string content)
  | _ => reading.placeAwaited? (.string content)

/-- A comma stands between two values or members. -/
def comma? (reading : Reading) : Option Reading :=
  match reading.awaited, reading.stack with
  | .separator, .array items :: outer => some ⟨.array items :: outer, .value, .null⟩
  | .separator, .object members key :: outer => some ⟨.object members key :: outer, .key, .null⟩
  | _, _ => none

/-- Each symbol is put into what is open, if it may stand there. -/
def step? (reading : Reading) : Symbol → Option Reading
  | .openArray =>
      if reading.awaitsValue then some ⟨.array [] :: reading.stack, .valueOrClose, .null⟩ else none
  | .openObject =>
      if reading.awaitsValue then some ⟨.object [] none :: reading.stack, .keyOrClose, .null⟩
      else none
  | .closeArray => reading.closeArray?
  | .closeObject => reading.closeObject?
  | .comma => reading.comma?
  | .colon => if reading.awaited = .colon then some { reading with awaited := .value } else none
  | .null => reading.placeAwaited? .null
  | .bool value => reading.placeAwaited? (.bool value)
  | .string content => reading.string? content
  | .number numeral => reading.placeAwaited? (.number numeral)

end Reading

/-- The value that a text writes; nothing but blanks may stand around it. -/
def parse? (source : String) : Option Json := do
  let symbols ← symbols? source.toList
  let reading ← symbols.foldlM Reading.step? {}
  if reading.awaited = .nothing then some reading.finished else none

mutual
/-- Every string and every key has content. -/
def isWellFormed : Json → Bool
  | string content => content.isSome
  | array items => allWellFormed items
  | object members => membersWellFormed members
  | _ => true

def allWellFormed : List Json → Bool
  | [] => true
  | item :: rest => item.isWellFormed && allWellFormed rest

def membersWellFormed : List (Option String × Json) → Bool
  | [] => true
  | (key, value) :: rest => key.isSome && value.isWellFormed && membersWellFormed rest
end

/-- Values that are read into memory nest no deeper than this. -/
def depthLimit : Nat := 127

end Stencil.Json
