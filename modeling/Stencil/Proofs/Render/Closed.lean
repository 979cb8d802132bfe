import Stencil.Proofs.Render.Outcome

/-! Properties of single steps that carry over to whole renders. -/

namespace Stencil.Render

variable {World : Type}

/-- A property of actions that questions to a host have and sequences keep. -/
structure Closed (host : Host World) (P : ∀ {α : Type}, Render World α → Prop) : Prop where
  pure : ∀ {α : Type} (answer : α), P (pure answer : Render World α)
  bind : ∀ {α β : Type} {action : Render World α} {next : α → Render World β},
    P action → (∀ answer, P (next answer)) → P (action >>= next)
  evaluate : ∀ expression, P (evaluate host expression)
  interpolate : ∀ text, P (interpolate host text)

namespace Closed

variable {host : Host World} {P : ∀ {α : Type}, Render World α → Prop}

theorem repeatEntries (closed : Closed host P) (directive : Qualified) :
    P (repeatEntries host directive) := by
  apply closed.bind (closed.evaluate directive.expression)
  intro value
  exact closed.pure _

/-- Copies have a property that each of them has in its scope. -/
theorem copies (closed : Closed host P) {copy : Render World (List Node)}
    (enclosed : ∀ change, P (inScope change copy)) (name : String) (position : Nat)
    (entries : List (String × Value)) : P (copies name copy position entries) := by
  induction entries generalizing position with
  | nil => exact closed.pure []
  | cons entry rest inductionHypothesis =>
      apply closed.bind (enclosed _)
      intro first
      apply closed.bind (inductionHypothesis (position + 1))
      intro others
      exact closed.pure _

theorem interpolateAttributes (closed : Closed host P) (entries : List (String × String)) :
    P (interpolateAttributes host entries) := by
  induction entries with
  | nil => exact closed.pure []
  | cons entry rest inductionHypothesis =>
      have behind (written : String) :
          P (Render.interpolateAttributes host rest >>= fun others =>
            Pure.pure ((entry.1, written) :: others)) := by
        apply closed.bind inductionHypothesis
        intro others
        exact closed.pure _
      simp only [Render.interpolateAttributes]
      split
      · exact closed.bind (closed.pure _) behind
      · exact closed.bind (closed.interpolate _) behind

theorem attributeStage (closed : Closed host P) (tag : Tag) : P (attributeStage host tag) := by
  apply closed.bind (closed.interpolateAttributes _)
  intro entries
  have overlaid (value : Option Value) :
      P (Pure.pure { tag with attributes := overlay ⟨entries⟩ value } : Render World Tag) :=
    closed.pure _
  cases tag.get? Directive.attributes with
  | none => exact closed.bind (closed.pure none) overlaid
  | some expression => exact closed.bind (closed.evaluate expression) overlaid

theorem contentStage (closed : Closed host P) (tag : Tag) : P (contentStage host tag) := by
  unfold Render.contentStage
  cases tag.get? Directive.content with
  | none => exact closed.pure none
  | some expression =>
      apply closed.bind (closed.evaluate expression)
      intro value
      exact closed.pure _

theorem includeStage (closed : Closed host P) {includes : Render World (List Node)}
    (enclosed : ∀ change, P (inScope change includes)) (tag : Tag) :
    P (includeStage host includes tag) := by
  unfold Render.includeStage
  cases tag.get? Directive.included with
  | none => exact closed.pure none
  | some value =>
      apply closed.bind (closed.interpolate value)
      intro target
      apply closed.bind (enclosed _)
      intro nodes
      exact closed.pure _

theorem unwrapStage (closed : Closed host P) (tag : Tag) : P (unwrapStage host tag) := by
  unfold Render.unwrapStage
  cases tag.get? Directive.unwrap with
  | none => exact closed.pure tag
  | some expression =>
      by_cases marked : expression = ""
      · simp only [marked, if_true]
        exact closed.pure tag
      · simp only [marked, if_false]
        apply closed.bind (closed.evaluate expression)
        intro value
        exact closed.pure _

theorem prepare (closed : Closed host P) {includes : Render World (List Node)}
    (enclosed : ∀ change, P (inScope change includes)) (tag : Tag) :
    P (prepare host includes tag) := by
  apply closed.bind (closed.attributeStage tag)
  intro written
  apply closed.bind (closed.contentStage written)
  intro content
  have behind (included : Option (List Node)) :
      P (do
        let last ← Render.unwrapStage host
          ((written.remove Directive.content).remove Directive.included)
        return (last, included)) := by
    apply closed.bind (closed.unwrapStage _)
    intro last
    exact closed.pure _
  cases content with
  | none => exact closed.bind (closed.includeStage enclosed _) behind
  | some nodes => exact closed.bind (closed.pure _) behind

end Closed

/-- An action that leaves everything as it is, except for the world. -/
def OnlyAsks {α : Type} (action : Render World α) : Prop :=
  ∀ scene, ∃ world, leaves action scene = { scene with world }

/-- Stages only ask questions. -/
theorem closed_onlyAsks (host : Host World) : Closed host (@OnlyAsks World) where
  pure _ scene := ⟨scene.world, rfl⟩
  bind {α β action next} first second scene := by
    obtain ⟨world, left⟩ := first scene
    cases ran : action scene with
    | ok answer after =>
        rw [leaves_of_ok ran] at left
        rw [leaves_bind_of_ok ran, left]
        exact second answer { scene with world }
    | error cause after =>
        rw [leaves_of_error ran] at left
        rw [leaves_bind_of_error ran, left]
        exact ⟨world, rfl⟩
  evaluate _ _ := ⟨_, rfl⟩
  interpolate _ _ := ⟨_, rfl⟩

/-- Questions change at most the world. -/
theorem OnlyAsks.exists_world {α : Type} {action : Render World α} (onlyAsks : OnlyAsks action)
    {scene after : Scene World} {answer : α} (ran : action scene = .ok answer after) :
    ∃ world, after = { scene with world } := by
  obtain ⟨world, left⟩ := onlyAsks scene
  exact ⟨world, (leaves_of_ok ran).symm.trans left⟩

/-- A property that changes of the context have, and scopes keep, too. -/
structure ClosedWalk (host : Host World) (P : ∀ {α : Type}, Render World α → Prop) : Prop
    extends Closed host P where
  changeContext : ∀ change, P (changeContext change)
  inScope : ∀ {α : Type} (change : Context → Context) {action : Render World α},
    P action → P (inScope change action)

namespace ClosedWalk

variable {host : Host World} {P : ∀ {α : Type}, Render World α → Prop}

theorem passes (closed : ClosedWalk host P) (guard? : Option Qualified) :
    P (passes host guard?) := by
  cases guard? with
  | none => exact closed.pure true
  | some guard =>
      apply closed.bind (closed.evaluate guard.expression)
      intro value
      cases guard.qualifier with
      | none => exact closed.pure _
      | some name =>
          apply closed.bind (closed.changeContext _)
          intro stored
          exact closed.pure _

theorem renderContent (closed : ClosedWalk host P) {includes body : Render World (List Node)}
    (deeper : P includes) (inner : P body) (tag : Tag) :
    P (renderContent host includes body tag) := by
  apply closed.bind (closed.prepare (fun change => closed.inScope change deeper) tag)
  intro result
  obtain ⟨prepared, content⟩ := result
  have behind (children : List Node) :
      P (Pure.pure (Node.element prepared children) : Render World Node) := closed.pure _
  cases content with
  | none => exact closed.bind inner behind
  | some nodes => exact closed.bind (closed.pure nodes) behind

/-- An element with all its copies is such a step. -/
theorem renderElement (closed : ClosedWalk host P) {includes body : Render World (List Node)}
    (deeper : P includes) (inner : P body) (tag : Tag) :
    P (renderElement host includes body tag) := by
  rw [Render.renderElement]
  apply closed.bind (closed.changeContext _)
  intro visited
  apply closed.bind (closed.passes tag.guard?)
  intro passed
  by_cases rendered : passed
  · simp only [rendered, if_true]
    split
    · rename_i directive search
      -- A copy has fewer attributes, on which the recursion ends.
      have fewer := Tag.size_copy_lt search
      apply closed.bind (closed.repeatEntries directive)
      intro entries
      apply closed.copies
      intro change
      exact closed.inScope change (renderElement closed deeper inner _)
    · apply closed.bind (closed.renderContent deeper inner _)
      intro node
      exact closed.pure _
  · simp only [rendered, Bool.false_eq_true, if_false]
    exact closed.pure _
termination_by tag.attributes.size

mutual
theorem renderNode (closed : ClosedWalk host P) {includes : Render World (List Node)}
    (deeper : P includes) (node : Node) : P (renderNode host includes node) := by
  cases node with
  | element tag children =>
      rw [Render.renderNode]
      exact closed.renderElement deeper (renderNodes closed deeper children) tag
  | text content =>
      apply closed.bind (closed.changeContext _)
      intro visited
      apply closed.bind (closed.interpolate content)
      intro written
      exact closed.pure _
  | comment content => exact closed.pure _

theorem renderNodes (closed : ClosedWalk host P) {includes : Render World (List Node)}
    (deeper : P includes) (nodes : List Node) : P (renderNodes host includes nodes) := by
  cases nodes with
  | nil => exact closed.pure []
  | cons node rest =>
      apply closed.bind (renderNode closed deeper node)
      intro first
      apply closed.bind (renderNodes closed deeper rest)
      intro others
      exact closed.pure _
end

end ClosedWalk

/-- A property that lookups, questions to the context and failures have, too. -/
structure ClosedRender (host : Host World) (P : ∀ {α : Type}, Render World α → Prop) : Prop
    extends ClosedWalk host P where
  throw : ∀ {α : Type} (cause : TemplateError), P (throw cause : Render World α)
  ask : ∀ {α : Type} (question : Context → α), P (ask question : Render World α)
  lookUp : ∀ key, P (lookUp host key)

namespace ClosedRender

variable {host : Host World} {P : ∀ {α : Type}, Render World α → Prop}

theorem resolveTemplate (closed : ClosedRender host P) (renderer : Renderer) :
    P (renderer.resolveTemplate host) := by
  apply closed.bind (closed.ask _)
  intro addressed
  cases addressed with
  | none => exact closed.throw _
  | some key =>
      apply closed.bind (closed.changeContext _)
      intro changed
      exact closed.lookUp key

/-- A template is such a step, by induction on the room for includes. -/
theorem renderWithin (closed : ClosedRender host P) (renderer : Renderer) (room : Nat)
    (template : Template) : P (renderer.renderWithin host room template) := by
  induction room generalizing template with
  | zero =>
      apply closed.bind (closed.renderNodes (closed.throw _) template.content)
      intro nodes
      exact closed.pure _
  | succ room inductionHypothesis =>
      have deeper : P (renderer.resolveTemplate host >>= renderer.renderWithin host room) := by
        apply closed.bind (closed.resolveTemplate renderer)
        intro included
        exact inductionHypothesis included
      apply closed.bind (closed.renderNodes deeper template.content)
      intro nodes
      exact closed.pure _

theorem render (closed : ClosedRender host P) (renderer : Renderer) :
    P (renderer.render host) := by
  apply closed.bind (closed.resolveTemplate renderer)
  intro template
  exact closed.renderWithin renderer _ template

theorem renderInto (closed : ClosedRender host P) (renderer : Renderer) (element : Element) :
    P (renderer.renderInto host element) := by
  apply closed.bind (closed.render renderer)
  intro nodes
  exact closed.pure _

theorem renderBlock (closed : ClosedRender host P) (renderer : Renderer) (block : Element) :
    P (renderer.renderBlock host block) := by
  apply closed.bind (closed.changeContext _)
  intro changed
  exact closed.renderInto renderer block

end ClosedRender

end Stencil.Render
