import Stencil.Markup.Parse

/-! The reasons why templates cannot be fetched or rendered. -/

namespace Stencil

/-- The reasons why a source does not answer with markup. -/
inductive SourceError where
  | notFound (path : String)
  | http (path : String) (status : Nat)
  | network (path message : String)
  | device (message : String)
  | invalidEncoding (path : String)
deriving Repr, DecidableEq

/-- The text of a fault of a source. -/
def SourceError.message : SourceError → String
  | notFound path => s!"Template not found: {path}"
  | http path status => s!"Failed to fetch '{path}': HTTP status {status}"
  | network path message => s!"Failed to fetch '{path}': {message}"
  | device message => s!"I/O error: {message}"
  | invalidEncoding path => s!"Template '{path}' is not valid UTF-8"

/-- The reasons why a template is not rendered. -/
inductive TemplateError where
  | fetch (path : String) (cause : SourceError)
  | notFound (id path : String)
  | markup (path : String) (cause : MarkupError)
  | missingBlockName
  | includeDepthExceeded (limit : Nat)
  | cache (message : String)
  | configuration (message : String)
deriving Repr, DecidableEq

/-- The text of an error. -/
def TemplateError.message : TemplateError → String
  | fetch path cause => s!"Failed to fetch template from {path}: {cause.message}"
  | notFound id path => s!"Failed to find template with id {id} in {path}"
  | markup path cause => s!"Invalid template markup in {path}: {cause.message}"
  | missingBlockName => "No template path given and no blockName in the context"
  | includeDepthExceeded limit => s!"Maximum include depth ({limit}) exceeded"
  | cache message => s!"Template cache error: {message}"
  | configuration message => s!"Invalid renderer configuration: {message}"

end Stencil
