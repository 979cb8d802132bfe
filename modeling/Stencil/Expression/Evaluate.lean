import Stencil.Context
import Stencil.Expression.Placeholder
import Stencil.Value.Member

/-! Evaluation of paths and interpolation of text, with resolvers answered by a host. -/

namespace Stencil

/-- A call of a resolver: the value it is a member of, and the context. -/
structure Invocation where
  receiver : Value
  context : Context

/-- How a host answers resolvers. -/
abbrev Answering (World : Type) := Resolver → Invocation → StateM World Value

/-- The pieces one after the other; each placeholder takes the next value, absent data leaves
nothing. -/
def Piece.substitute : List Piece → List (Option Value) → String
  | [], _ => ""
  | .literal content :: rest, values => String.ofList content ++ substitute rest values
  | .escaped body :: rest, values =>
      String.ofList (Placeholder.write body) ++ substitute rest values
  | .placeholder _ :: rest, value :: values =>
      (value.map Value.text).getD "" ++ substitute rest values
  | .placeholder _ :: rest, [] => substitute rest []

namespace Answering

variable {World : Type}

/-- A resolver is replaced by its answer, and that answer is not called again. -/
def settle (answering : Answering World) (context : Context) (receiver : Value) :
    Value → StateM World Value
  | .resolver resolver => answering resolver ⟨receiver, context⟩
  | value => pure value

/-- The remaining segments of a path are read from a value. Null is absent. -/
def follow (answering : Answering World) (context : Context) :
    List String → Value → StateM World (Option Value)
  | [], value => pure (if value.isNull then none else some value)
  | segment :: rest, value =>
      match value.member? segment with
      | none => pure none
      | some found => do
          let settled ← answering.settle context value found
          answering.follow context rest settled

/-- The first segment names an entry of the context. -/
def resolve (answering : Answering World) (context : Context) :
    List String → StateM World (Option Value)
  | [] => pure none
  | first :: rest =>
      match context.get? first with
      | none => pure none
      | some found => do
          let settled ← answering.settle context context.value found
          answering.follow context rest settled

/-- A path is parsed and resolved in a context. -/
def evaluate (answering : Answering World) (context : Context) (expression : String) :
    StateM World (Option Value) :=
  answering.resolve context (Path.parse expression)

/-- The text with its placeholders replaced, if any; all paths are resolved first. -/
def interpolate? (answering : Answering World) (context : Context) (text : String) :
    StateM World (Option String) :=
  let pieces := Piece.scan text.toList
  if hasPlaceholders pieces then do
    let values ← (Piece.paths pieces).mapM (answering.resolve context)
    return some (Piece.substitute pieces values)
  else pure none

/-- A text without placeholders stays as it is. -/
def interpolate (answering : Answering World) (context : Context) (text : String) :
    StateM World String :=
  return (← answering.interpolate? context text).getD text

end Answering

end Stencil
