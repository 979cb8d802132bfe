import Stencil.Text.Start

/-! Template files served under a base URL. -/

namespace Stencil

/-- A base URL that template paths are joined to. -/
structure OriginSource where
  baseUrl : String
deriving Repr, DecidableEq

namespace OriginSource

def name : String := "HttpTemplateSource"

/-- Slashes at the end of the base do not count. -/
def ofBase (base : String) : OriginSource :=
  ⟨String.ofList (base.toList.reverse.dropWhile (· = '/')).reverse⟩

/-- The URL of a template path; a path that is a URL itself stays as it is. -/
def urlFor (source : OriginSource) (path : String) : String :=
  if Text.startsWith "http://" path || Text.startsWith "https://" path then path
  else source.baseUrl ++ "/" ++ String.ofList (path.toList.dropWhile (· = '/'))

end OriginSource

end Stencil
