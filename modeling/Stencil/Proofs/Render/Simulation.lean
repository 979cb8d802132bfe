import Stencil.Proofs.Render.Closed
import Stencil.Proofs.Template.Consistent

/-! Renders do not depend on the cache. -/

namespace Stencil.Render

variable {World : Type}

/-- Two scenes that a render cannot tell apart. -/
structure Alike (fetching : Fetching World) (left right : Scene World) : Prop where
  context : left.context = right.context
  leftCache : left.cache.Consistent fetching
  rightCache : right.cache.Consistent fetching

/-- Two runs end in the same way and in scenes that are alike. -/
inductive Agree (fetching : Fetching World) {α : Type} :
    EStateM.Result TemplateError (Scene World) α →
    EStateM.Result TemplateError (Scene World) α → Prop
  | ok {answer : α} {left right : Scene World} (alike : Alike fetching left right) :
      Agree fetching (.ok answer left) (.ok answer right)
  | error {cause : TemplateError} {left right : Scene World} (alike : Alike fetching left right) :
      Agree fetching (.error cause left) (.error cause right)

/-- From alike scenes an action runs in step and remembers what was asked. -/
structure Uniform (host : Host World) (keys : TemplateKey → Prop) {α : Type}
    (action : Render World α) : Prop where
  remembers : ∀ scene, scene.requested ⊆ (leaves action scene).requested
  agrees : ∀ left right, Alike host.fetching left right →
    (∀ key ∈ (leaves action left).requested, keys key) →
      Agree host.fetching (action left) (action right)

variable {host : Host World} {keys : TemplateKey → Prop} {α β : Type}

theorem Agree.outcome_eq {fetching : Fetching World} {action : Render World α}
    {left right : Scene World} (agree : Agree fetching (action left) (action right)) :
    outcome action left = outcome action right := by
  unfold outcome
  generalize action left = first at agree
  generalize action right = second at agree
  cases agree <;> rfl

theorem Agree.consistent_leaves {fetching : Fetching World} {action : Render World α}
    {left right : Scene World} (agree : Agree fetching (action left) (action right)) :
    (leaves action left).cache.Consistent fetching := by
  unfold leaves
  generalize action left = first at agree
  generalize action right = second at agree
  cases agree with
  | ok alike => exact alike.leftCache
  | error alike => exact alike.leftCache

theorem uniform_pure (answer : α) : Uniform host keys (pure answer : Render World α) where
  remembers _ := List.Subset.refl _
  agrees _ _ alike _ := .ok alike

theorem uniform_throw (cause : TemplateError) :
    Uniform host keys (throw cause : Render World α) where
  remembers _ := List.Subset.refl _
  agrees _ _ alike _ := .error alike

/-- What the first action asks for is still remembered behind the second. -/
theorem Uniform.bind {action : Render World α} {next : α → Render World β}
    (first : Uniform host keys action) (second : ∀ answer, Uniform host keys (next answer)) :
    Uniform host keys (action >>= next) where
  remembers scene := by
    -- What the first action asked for is among what both asked for.
    have before := first.remembers scene
    cases ran : action scene with
    | error cause after =>
        rw [leaves_bind_of_error ran]
        rw [leaves_of_error ran] at before
        exact before
    | ok answer after =>
        rw [leaves_bind_of_ok ran]
        rw [leaves_of_ok ran] at before
        exact List.Subset.trans before ((second answer).remembers after)
  agrees left right alike asked := by
    cases ran : action left with
    | error cause after =>
        have agreed := first.agrees left right alike
        rw [leaves_of_error ran, ran] at agreed
        rw [leaves_bind_of_error ran] at asked
        rw [bind_of_error ran]
        generalize other : action right = result at agreed
        cases agreed asked with
        | error alike =>
            rw [bind_of_error other]
            exact .error alike
    | ok answer after =>
        have agreed := first.agrees left right alike
        rw [leaves_of_ok ran, ran] at agreed
        rw [leaves_bind_of_ok ran] at asked
        have before : ∀ key ∈ after.requested, keys key := fun key held =>
          asked key ((second answer).remembers after held)
        rw [bind_of_ok ran]
        generalize other : action right = result at agreed
        cases agreed before with
        | ok alike =>
            rw [bind_of_ok other]
            exact (second answer).agrees _ _ alike asked

theorem uniform_reading {action : Context → StateM World α}
    (steady : ∀ context, Steady (action context)) : Uniform host keys (reading action) where
  remembers _ := List.Subset.refl _
  agrees left right alike _ := by
    have same := steady left.context left.world right.world
    have read : reading action right = .ok (action left.context right.world).1
        { right with world := (action left.context right.world).2 } := by
      rw [alike.context]
      rfl
    rw [read, ← same]
    exact .ok ⟨alike.context, alike.leftCache, alike.rightCache⟩

theorem uniform_changeContext (change : Context → Context) :
    Uniform host keys (changeContext change : Render World Unit) where
  remembers _ := List.Subset.refl _
  agrees _ _ alike _ :=
    .ok ⟨congrArg change alike.context, alike.leftCache, alike.rightCache⟩

theorem Uniform.inScope {action : Render World α} (uniform : Uniform host keys action)
    (change : Context → Context) : Uniform host keys (inScope change action) where
  remembers scene := by
    rw [leaves_inScope]
    exact uniform.remembers { scene with context := change scene.context }
  agrees left right alike asked := by
    rw [leaves_inScope] at asked
    have within : Alike host.fetching { left with context := change left.context }
        { right with context := change right.context } :=
      ⟨congrArg change alike.context, alike.leftCache, alike.rightCache⟩
    have agreed := uniform.agrees _ _ within asked
    unfold Render.inScope
    generalize action { left with context := change left.context } = first at agreed
    generalize action { right with context := change right.context } = second at agreed
    cases agreed with
    | ok ended => exact .ok ⟨alike.context, ended.leftCache, ended.rightCache⟩
    | error ended => exact .error ⟨alike.context, ended.leftCache, ended.rightCache⟩

/-- Two caches answer a key in the same way if identifiers tell files apart. -/
theorem uniform_lookUp (steady : host.Steady) (apart : TemplateKey.Apart keys)
    (declared : ∀ key, key.Declared host.fetching → keys key) (key : TemplateKey) :
    Uniform host keys (lookUp host key) where
  remembers scene := by
    rw [leaves_lookUp]
    exact List.subset_append_left _ _
  agrees left right alike asked := by
    have allowed : keys key := by
      apply asked
      rw [leaves_lookUp]
      simp
    have same : (left.cache.resolve host.fetching key left.world).1.1 =
        (right.cache.resolve host.fetching key right.world).1.1 :=
      (alike.leftCache.resolve_eq_fresh steady.fetching apart declared allowed _ left.world).trans
        (alike.rightCache.resolve_eq_fresh steady.fetching apart declared allowed _ _).symm
    have ended : Alike host.fetching (leaves (lookUp host key) left)
        (leaves (lookUp host key) right) := by
      rw [leaves_lookUp, leaves_lookUp]
      exact ⟨alike.context, alike.leftCache.resolve key _, alike.rightCache.resolve key _⟩
    rw [lookUp_eq, lookUp_eq host key right, same]
    cases (right.cache.resolve host.fetching key right.world).1.1 with
    | ok template => exact .ok ended
    | error cause => exact .error ended

/-- Whole renders run in step. -/
theorem closed_uniform (steady : host.Steady) (apart : TemplateKey.Apart keys)
    (declared : ∀ key, key.Declared host.fetching → keys key) :
    ClosedRender host (@Uniform World host keys) where
  pure := uniform_pure
  bind := Uniform.bind
  evaluate expression := uniform_reading fun context =>
    Answering.steady_evaluate steady.answering context expression
  interpolate text := uniform_reading fun context =>
    Answering.steady_interpolate steady.answering context text
  changeContext := uniform_changeContext
  inScope change _ uniform := uniform.inScope change
  throw := uniform_throw
  ask question := uniform_reading fun context => steady_pure (question context)
  lookUp := uniform_lookUp steady apart declared

end Stencil.Render
