import Stencil.Markup.Dataset
import Stencil.Render.Config
import Stencil.Render.Flatten
import Stencil.Render.Walk
import Stencil.Render.WrapCells

/-! Renderers: settings and processors for what the walk over a template yields. -/

namespace Stencil

/-- The processors run in order behind the built-in ones. -/
structure Renderer where
  config : RenderConfig := {}
  processors : List (List Node → List Node) := []

namespace Renderer

variable {World : Type}

/-- Rendered nodes are unwrapped, wrapped if that is set, and processed. -/
def finish (renderer : Renderer) (nodes : List Node) : List Node :=
  let flat := flattenAll nodes
  let wrapped := if renderer.config.wrapTextNodes then wrapCells flat else flat
  renderer.processors.foldl (fun processed processor => processor processed) wrapped

/-- The context's template is looked up; from then on the context addresses it by path. -/
def resolveTemplate (renderer : Renderer) (host : Host World) : Render World Template := do
  let addressed ← Render.ask fun context =>
    TemplateKey.ofContext? context renderer.config.codeBasePath
  match addressed with
  | none => throw .missingBlockName
  | some key => do
      Render.changeContext (·.setTemplate key.path key.name)
      Render.lookUp host key

/-- A template is rendered with room for the given number of nested includes. -/
def renderWithin (renderer : Renderer) (host : Host World) :
    (room : Nat) → Template → Render World (List Node)
  | 0, template => do
      let includes := throw (.includeDepthExceeded renderer.config.maxIncludeDepth)
      let nodes ← Render.renderNodes host includes template.content
      return renderer.finish nodes
  | room + 1, template => do
      let includes := do
        let included ← renderer.resolveTemplate host
        renderer.renderWithin host room included
      let nodes ← Render.renderNodes host includes template.content
      return renderer.finish nodes

/-- A template is walked with all includes that the limit allows. -/
def renderTemplate (renderer : Renderer) (host : Host World) (template : Template) :
    Render World (List Node) :=
  renderer.renderWithin host renderer.config.maxIncludeDepth template

/-- The context's template is looked up and rendered. -/
def render (renderer : Renderer) (host : Host World) : Render World (List Node) := do
  let template ← renderer.resolveTemplate host
  renderer.renderTemplate host template

/-- The rendered nodes replace the children of an element. -/
def renderInto (renderer : Renderer) (host : Host World) (element : Element) :
    Render World Element := do
  let nodes ← renderer.render host
  return { element with children := nodes }

/-- A block names its template; an empty code base path comes from the settings. -/
def blockContext (renderer : Renderer) (block : Element) (context : Context) : Context :=
  let named := (context.insert Context.block (.node block.node)).insert Context.blockNameKey
    (.ofOption ((block.tag.data? "blockName").map .string))
  if ((Context.codeBasePath? named).getD "") = "" then
    named.insert Context.codeBasePathKey (.string renderer.config.codeBasePath)
  else named

/-- A block is rendered with its own template. -/
def renderBlock (renderer : Renderer) (host : Host World) (block : Element) :
    Render World Element := do
  Render.changeContext (renderer.blockContext block)
  renderer.renderInto host block

/-- An action on a scene that starts with the given context. -/
def run {α : Type} (action : Render World α) (context : Context) (cache : Cache) (world : World) :
    Except TemplateError α × Scene World :=
  match action { context, cache, world } with
  | .ok answer scene => (.ok answer, scene)
  | .error cause scene => (.error cause, scene)

end Renderer

/-- The parts that a renderer is assembled from. -/
structure RendererBuilder where
  hasSource : Bool := false
  renderer : Renderer := {}

namespace RendererBuilder

def withSource (builder : RendererBuilder) : RendererBuilder := { builder with hasSource := true }

/-- One of the settings is changed. -/
def editConfig (builder : RendererBuilder) (change : RenderConfig → RenderConfig) :
    RendererBuilder :=
  { builder with renderer := { builder.renderer with config := change builder.renderer.config } }

def withConfig (builder : RendererBuilder) (config : RenderConfig) : RendererBuilder :=
  builder.editConfig fun _ => config

def withCodeBasePath (builder : RendererBuilder) (path : String) : RendererBuilder :=
  builder.editConfig ({ · with codeBasePath := path })

def withMaxIncludeDepth (builder : RendererBuilder) (depth : Nat) : RendererBuilder :=
  builder.editConfig ({ · with maxIncludeDepth := depth })

def withoutTextWrapping (builder : RendererBuilder) : RendererBuilder :=
  builder.editConfig ({ · with wrapTextNodes := false })

/-- Processors run in the order in which they are added. -/
def withProcessor (builder : RendererBuilder) (processor : List Node → List Node) :
    RendererBuilder :=
  { builder with renderer :=
      { builder.renderer with processors := builder.renderer.processors ++ [processor] } }

/-- A renderer needs a source. -/
def build (builder : RendererBuilder) : Except TemplateError Renderer :=
  if builder.hasSource then .ok builder.renderer
  else .error (.configuration "No template source has been configured")

end RendererBuilder

end Stencil
