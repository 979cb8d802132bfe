import Stencil.Text.Bytes

/-! Positions in a source as lines and columns. -/

namespace Stencil.Markup

/-- Lines and columns count from one; columns count bytes. -/
structure Location where
  line : Nat
  column : Nat
deriving Repr, DecidableEq

/-- The place of a byte; one that is no place between characters is the end of the source. -/
def Location.ofOffset (source : List Char) (offset : Nat) : Location :=
  let before := (Text.takeBytes? offset source).getD source
  ⟨before.count '\n' + 1, Text.byteLength (before.reverse.takeWhile (· != '\n')) + 1⟩

/-- A place as it is reported. -/
def Location.text (location : Location) : String :=
  s!"line {location.line}, column {location.column}"

end Stencil.Markup
