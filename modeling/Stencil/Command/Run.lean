import Stencil.Command.Arguments
import Stencil.Files.Tree
import Stencil.Render.Renderer
import Stencil.Value.Json

/-! One run of the command: files are read, and one block or template is rendered. -/

namespace Stencil.Command

/-- The reasons why a run yields no markup. -/
inductive Failure where
  | template (cause : TemplateError)
  | markup (cause : MarkupError)
  | file (fault : FileFault)
  | json
  | usage (message : String)
deriving Repr, DecidableEq

/-- The text that a failed run prints. -/
def Failure.message : Failure → String
  | template cause => s!"Rendering failed: {cause.message}"
  | markup cause => s!"Invalid markup: {cause.message}"
  | file fault => s!"I/O error: {fault.message}"
  | json => "Invalid JSON"
  | usage message => message

/-- What a run finds around it: the texts of files, and the template files of its source. -/
structure Surroundings where
  readText : String → Except FileFault String
  fetch : String → Except SourceError String

/-- A file of the surroundings is read, or the run fails. -/
def readFile (surroundings : Surroundings) (path : String) : Except Failure String :=
  match surroundings.readText path with
  | .ok text => .ok text
  | .error fault => .error (.file fault)

/-- The settings of a file, if one is given, with the options laid over them. -/
def renderConfig (surroundings : Surroundings) (options : Options) :
    Except Failure RenderConfig := do
  let config : RenderConfig ← match options.config with
    | none => pure {}
    | some path => do
        let text ← readFile surroundings path
        match RenderConfig.read? text with
        | some config => pure config
        | none => throw .json
  return {
    codeBasePath := options.codeBasePath.getD config.codeBasePath
    maxIncludeDepth := options.maxIncludeDepth.getD config.maxIncludeDepth
    wrapTextNodes := config.wrapTextNodes && !options.noWrap }

/-- How values that are no object are called. -/
def kindName : Value → String
  | .null => "null"
  | .bool _ => "a boolean"
  | .number _ => "a number"
  | .string _ => "a string"
  | .list _ => "an array"
  | _ => "an object"

/-- The context that a file holds as a JSON object. -/
def contextFile (surroundings : Surroundings) (options : Options) : Except Failure Context := do
  match options.context with
  | none => return ∅
  | some path =>
      let text ← readFile surroundings path
      match Value.read? text with
      | none => throw .json
      | some (.map entries) => return entries
      | some value =>
          throw (.usage s!"{path} must hold a JSON object, found {kindName value}")

/-- The context of the given file, with the block and the template of the options. -/
def loadContext (surroundings : Surroundings) (options : Options) : Except Failure Context := do
  let context ← contextFile surroundings options
  let named : Context := match options.block with
    | some block => context.insert Context.blockNameKey (.string block)
    | none => context
  return if options.template.isSome || options.fragment.isSome then
    named.setTemplate (options.template.getD "") (options.fragment.getD "")
  else named

/-- The host of a run has no resolvers, and records the template files that it fetches. -/
def host (surroundings : Surroundings) : Host (List String) where
  answering _ _ := pure .null
  fetching path := fun asked => (surroundings.fetch path, asked ++ [path])

/-- The outcome of an action that starts with a fresh cache, and the files it fetched. -/
def perform {α : Type} (action : Render (List String) α) (context : Context) :
    Except Failure α × List String :=
  let (outcome, scene) := Renderer.run action context .empty []
  match outcome with
  | .ok answer => (.ok answer, scene.world)
  | .error cause => (.error (.template cause), scene.world)

/-- The first element of a file, named by the block of the options. -/
def blockElement (surroundings : Surroundings) (options : Options) (path : String) :
    Except Failure Element := do
  let markup ← readFile surroundings path
  match parse markup with
  | .error cause => throw (.markup cause)
  | .ok nodes =>
      match (elementsOf nodes).head? with
      | none => throw (.usage s!"{path} contains no element")
      | some element =>
          return match options.block with
            | some block => { element with tag := element.tag.set "data-block-name" block }
            | none => element

/-- What a run has to do once its files are read. -/
inductive Task where
  | fragment
  | block (element : Element)

/-- The options tell whether a block, a template or a fragment is rendered. -/
def task (surroundings : Surroundings) (options : Options) : Except Failure Task :=
  match options.blockHtml with
  | some path => (blockElement surroundings options path).map .block
  | none =>
      if options.block.isNone && options.template.isNone then
        .error (.usage "nothing to render: pass --block, --template or --block-html")
      else .ok .fragment

/-- Everything that is read before the render starts. -/
def prepare (surroundings : Surroundings) (options : Options) :
    Except Failure (RenderConfig × Context × Task) := do
  let config ← renderConfig surroundings options
  let context ← loadContext surroundings options
  let task ← task surroundings options
  return (config, context, task)

/-- The markup of a run, and the template files that it fetched. -/
def run (surroundings : Surroundings) (options : Options) :
    Except Failure String × List String :=
  match prepare surroundings options with
  | .error failure => (.error failure, [])
  | .ok (config, context, .fragment) =>
      let (outcome, fetched) :=
        perform (({ config } : Renderer).render (host surroundings)) context
      (outcome.map htmlOf, fetched)
  | .ok (config, context, .block element) =>
      let (outcome, fetched) :=
        perform (({ config } : Renderer).renderBlock (host surroundings) element) context
      (outcome.map Element.html, fetched)

end Stencil.Command
