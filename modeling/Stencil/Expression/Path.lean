import Stencil.Text.Blank

/-! Property paths: segments between dots. -/

namespace Stencil

/-- The blanks around a path and around each of its segments do not count. -/
def Path.parse (expression : String) : List String :=
  ((Text.trim expression.toList).splitOn '.').map fun segment => String.ofList (Text.trim segment)

end Stencil
