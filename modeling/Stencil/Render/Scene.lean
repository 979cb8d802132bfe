import Stencil.Expression.Evaluate
import Stencil.Template.Cache

/-! The state of a render, which is kept when the render fails. -/

namespace Stencil

/-- A host answers resolvers and fetches template files. -/
structure Host (World : Type) where
  answering : Answering World
  fetching : Fetching World

/-- The state of a render: the context, the cache, the world and the record. -/
structure Scene (World : Type) where
  context : Context
  cache : Cache
  world : World
  requested : List TemplateKey := []

/-- Before anything is rendered, nothing is cached. -/
def Scene.fresh {World : Type} (world : World) : Scene World :=
  { context := ∅, cache := .empty, world }

/-- A step of a render, which may fail and then keeps the state. -/
abbrev Render (World : Type) := EStateM TemplateError (Scene World)

namespace Render

variable {World α : Type}

/-- An action on the world that reads the context. -/
def reading (action : Context → StateM World α) : Render World α := fun scene =>
  let (answer, world) := action scene.context scene.world
  .ok answer { scene with world }

/-- What the context tells. -/
def ask (question : Context → α) : Render World α := reading fun context => pure (question context)

/-- The context in scope is replaced. -/
def changeContext (change : Context → Context) : Render World Unit := fun scene =>
  .ok () { scene with context := change scene.context }

/-- The node that is visited is in scope. -/
def setCurrentNode (node : Node) : Render World Unit := changeContext (·.setCurrentNode node)

/-- The action sees a changed context; the context is restored behind it, also when it fails. -/
def inScope (change : Context → Context) (action : Render World α) : Render World α := fun scene =>
  match action { scene with context := change scene.context } with
  | .ok answer after => .ok answer { after with context := scene.context }
  | .error cause after => .error cause { after with context := scene.context }

/-- An expression is evaluated in the context in scope. -/
def evaluate (host : Host World) (expression : String) : Render World (Option Value) :=
  reading fun context => host.answering.evaluate context expression

/-- Placeholders are replaced in the context in scope. -/
def interpolate (host : Host World) (text : String) : Render World String :=
  reading fun context => host.answering.interpolate context text

/-- A template is looked up in the cache, which is filled on the way. -/
def lookUp (host : Host World) (key : TemplateKey) : Render World Template := fun scene =>
  let requested := scene.requested ++ [key]
  match scene.cache.resolve host.fetching key scene.world with
  | ((.ok template, cache), world) => .ok template { scene with cache, world, requested }
  | ((.error cause, cache), world) => .error cause { scene with cache, world, requested }

end Render

end Stencil
