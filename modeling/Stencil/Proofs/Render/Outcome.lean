import Stencil.Render.Renderer

/-! Renders as steps from one scene to another, whether they succeed or fail. -/

namespace Stencil

variable {World : Type}

/-- The scene in which a node is visited. -/
def Scene.visiting (scene : Scene World) (node : Node) : Scene World :=
  { scene with context := scene.context.setCurrentNode node }

namespace Render

variable {α β : Type}

/-- The scene that an action leaves. -/
def leaves (action : Render World α) (scene : Scene World) : Scene World :=
  match action scene with
  | .ok _ after => after
  | .error _ after => after

/-- The answer of an action, or the cause of its failure. -/
def outcome (action : Render World α) (scene : Scene World) : Except TemplateError α :=
  match action scene with
  | .ok answer _ => .ok answer
  | .error cause _ => .error cause

theorem leaves_of_ok {action : Render World α} {scene after : Scene World} {answer : α}
    (ran : action scene = .ok answer after) : leaves action scene = after := by
  rw [leaves, ran]

theorem leaves_of_error {action : Render World α} {scene after : Scene World}
    {cause : TemplateError} (ran : action scene = .error cause after) :
    leaves action scene = after := by
  rw [leaves, ran]

@[simp] theorem leaves_pure (answer : α) (scene : Scene World) :
    leaves (pure answer) scene = scene := rfl

theorem bind_of_ok {action : Render World α} {scene after : Scene World} {answer : α}
    (ran : action scene = .ok answer after) (next : α → Render World β) :
    (action >>= next) scene = next answer after := by
  show EStateM.bind action next scene = next answer after
  rw [EStateM.bind, ran]

theorem bind_of_error {action : Render World α} {scene after : Scene World}
    {cause : TemplateError} (ran : action scene = .error cause after) (next : α → Render World β) :
    (action >>= next) scene = .error cause after := by
  show EStateM.bind action next scene = .error cause after
  rw [EStateM.bind, ran]

/-- Only the end of an action matters to what follows it. -/
theorem bind_congr_at {action other : Render World α} {left right : Scene World}
    (same : action left = other right) (next : α → Render World β) :
    (action >>= next) left = (other >>= next) right := by
  cases ran : other right with
  | ok answer after => rw [bind_of_ok ran, bind_of_ok (same.trans ran)]
  | error cause after => rw [bind_of_error ran, bind_of_error (same.trans ran)]

/-- The second action runs where the first one ends. -/
theorem leaves_bind_of_ok {action : Render World α} {scene after : Scene World} {answer : α}
    (ran : action scene = .ok answer after) (next : α → Render World β) :
    leaves (action >>= next) scene = leaves (next answer) after := by
  rw [leaves, leaves, bind_of_ok ran]

/-- Nothing runs behind an action that fails. -/
theorem leaves_bind_of_error {action : Render World α} {scene after : Scene World}
    {cause : TemplateError} (ran : action scene = .error cause after) (next : α → Render World β) :
    leaves (action >>= next) scene = after :=
  leaves_of_error (bind_of_error ran next)

/-- A scope restores the context of the scene that it starts from. -/
theorem leaves_inScope (change : Context → Context) (action : Render World α)
    (scene : Scene World) :
    leaves (inScope change action) scene =
      { leaves action { scene with context := change scene.context } with
        context := scene.context } := by
  simp only [leaves, inScope]
  cases action { scene with context := change scene.context } <;> rfl

/-- A lookup leaves the cache, the world and a record of its key. -/
theorem leaves_lookUp (host : Host World) (key : TemplateKey) (scene : Scene World) :
    leaves (lookUp host key) scene =
      { scene with
        cache := (scene.cache.resolve host.fetching key scene.world).1.2
        world := (scene.cache.resolve host.fetching key scene.world).2
        requested := scene.requested ++ [key] } := by
  unfold leaves lookUp
  rcases scene.cache.resolve host.fetching key scene.world with ⟨⟨answer, cache⟩, world⟩
  cases answer <;> rfl

/-- A lookup gives the answer of the cache. -/
theorem lookUp_eq (host : Host World) (key : TemplateKey) (scene : Scene World) :
    lookUp host key scene =
      match (scene.cache.resolve host.fetching key scene.world).1.1 with
      | .ok template => .ok template (leaves (lookUp host key) scene)
      | .error cause => .error cause (leaves (lookUp host key) scene) := by
  unfold leaves lookUp
  rcases scene.cache.resolve host.fetching key scene.world with ⟨⟨answer, cache⟩, world⟩
  cases answer <;> rfl

/-- An answer is reworked without a trace. -/
theorem leaves_bind_pure (action : Render World α) (rework : α → β) (scene : Scene World) :
    leaves (action >>= fun answer => pure (rework answer)) scene = leaves action scene := by
  cases ran : action scene with
  | ok answer after => rw [leaves_bind_of_ok ran, leaves_of_ok ran, leaves_pure]
  | error cause after => rw [leaves_bind_of_error ran, leaves_of_error ran]

end Render

end Stencil
