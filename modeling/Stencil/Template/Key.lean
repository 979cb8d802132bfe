import Stencil.Context
import Stencil.Text.Bytes
import Stencil.Text.LowerCase

/-! The addresses of templates: a file and a name in it. -/

namespace Stencil

/-- A file and a name in it. -/
structure TemplateKey where
  path : String
  name : String
deriving Repr, DecidableEq

namespace TemplateKey

def isIdCharacter (character : Char) : Bool := character.isDigit || character.isLower

/-- A character outside the digits and small letters becomes a dash for each of its UTF-16
units. -/
def sanitized (character : Char) : List Char :=
  if isIdCharacter character then [character]
  else List.replicate (Text.utf16Units character) '-'

/-- The identifier under which a template is cached. Different keys may share one. -/
def id (key : TemplateKey) : String :=
  let raw := Text.lowerCase ("faintly-template-" ++ key.path ++ "#" ++ key.name)
  String.ofList (raw.toList.flatMap sanitized)

/-- The file of a block that names no template. -/
def defaultPath (codeBasePath blockName : String) : String :=
  codeBasePath ++ "/blocks/" ++ blockName ++ "/" ++ blockName ++ ".html"

/-- The template that a context addresses, or the default one of its block. -/
def ofContext? (context : Context) (codeBasePath : String) : Option TemplateKey :=
  let name := context.templateName?.getD ""
  match context.templatePath?.filter (· ≠ "") with
  | some path => some ⟨path, name⟩
  | none =>
      context.blockName?.map fun blockName =>
        ⟨defaultPath (context.codeBasePath?.getD codeBasePath) blockName, name⟩

end TemplateKey

end Stencil
