import Stencil.Proofs.Expression.Composition
import Stencil.Proofs.Render.Contract
import Stencil.Proofs.Render.InStep

/-! Elements that leave nothing, and what they ask the host for. -/

namespace Stencil

variable {World : Type}

namespace Answering

variable {answering : Answering World} {context : Context}

/-- An expression is walked from the entries of a context, with these calls. -/
def Evaluates (answering : Answering World) (context : Context) (expression : String)
    (world : World) (calls : List ResolverCall) (value? : Option Value) (after : World) : Prop :=
  Walk answering context (Path.parse expression) context.value world calls value? after

/-- What an expression evaluates to is its value. -/
theorem Evaluates.evaluate_eq {expression : String} {world after : World}
    {calls : List ResolverCall} {value? : Option Value}
    (evaluates : answering.Evaluates context expression world calls value? after) :
    answering.evaluate context expression world = (value?, after) := by
  rw [← evaluates.follow_eq, evaluate]
  cases segments : Path.parse expression with
  | nil => exact absurd segments (Path.parse_ne_nil expression)
  | cons first rest => rfl

end Answering

/-! Hosts that note their requests. -/

/-- A host is asked to answer a resolver, or to fetch a file. -/
inductive Request
  | call (call : ResolverCall)
  | fetch (path : String)

/-- A host that answers as another one does and notes what it is asked. -/
def Host.recorded (host : Host World) : Host (World × List Request) where
  answering resolver invocation := fun (world, requests) =>
    let (answer, after) := host.answering resolver invocation world
    (answer, after, requests ++ [.call ⟨resolver, invocation⟩])
  fetching path := fun (world, requests) =>
    let (answer, after) := host.fetching path world
    (answer, after, requests ++ [.fetch path])

/-- A scene in which some requests have been noted. -/
def Scene.recording (scene : Scene World) (requests : List Request) :
    Scene (World × List Request) :=
  { scene with world := (scene.world, requests) }

/-- For a host that notes its requests, a walk notes its calls. -/
theorem Answering.Walk.recorded {host : Host World} {context : Context} {segments : List String}
    {value : Value} {world after : World} {calls : List ResolverCall} {result : Option Value}
    (walk : Walk host.answering context segments value world calls result after)
    (requests : List Request) :
    Walk host.recorded.answering context segments value (world, requests) calls result
      (after, requests ++ calls.map .call) := by
  -- Requests are noted at the end, in the order of the calls.
  induction walk generalizing requests with
  | absent =>
      rw [List.map_nil, List.append_nil]
      exact .absent
  | ended present =>
      rw [List.map_nil, List.append_nil]
      exact .ended present
  | missing present nowhere =>
      rw [List.map_nil, List.append_nil]
      exact .missing present nowhere
  | data member data behind inductionHypothesis =>
      exact .data member data (inductionHypothesis requests)
  | @called _ _ value resolver _ _ calls _ member behind inductionHypothesis =>
      have noted := inductionHypothesis (requests ++ [.call ⟨resolver, ⟨value, context⟩⟩])
      rw [List.append_assoc] at noted
      exact .called member noted

/-! Tests. -/

/-- A value passes a test when it is true, and a negated test when it is not. -/
def Qualified.passedBy (guard : Qualified) (value? : Option Value) : Bool :=
  let truthy := (value?.map Value.isTruthy).getD false
  if guard.base = Directive.not then !truthy else truthy

/-- The result of a test is stored under its qualifier in small letters, if it has one. -/
def Qualified.store (guard : Qualified) (passed : Bool) (context : Context) : Context :=
  match guard.qualifier with
  | some name => context.insert (Text.lowerCase name) (.bool passed)
  | none => context

namespace Render

variable {host : Host World} {includes : Render World (List Node)} {tag : Tag}
  {children : List Node} {scene tested : Scene World} {guard? : Option Qualified}
  {directive : Qualified} {calls more : List ResolverCall} {passed : Bool}
  {value? : Option Value} {world : World}

/-- A test calls these resolvers, passes or not, and leaves this scene. -/
inductive Tested (host : Host World) (scene : Scene World) :
    Option Qualified → List ResolverCall → Bool → Scene World → Prop
  | free : Tested host scene none [] true scene
  | evaluated {guard : Qualified} {calls : List ResolverCall} {value? : Option Value}
      {world : World} (evaluates : host.answering.Evaluates scene.context guard.expression
        scene.world calls value? world) :
      Tested host scene (some guard) calls (guard.passedBy value?)
        { scene with context := guard.store (guard.passedBy value?) scene.context, world }

/-- Every test comes to an end. -/
theorem exists_tested (host : Host World) (scene : Scene World) (guard? : Option Qualified) :
    ∃ calls passed tested, Tested host scene guard? calls passed tested := by
  cases guard? with
  | none => exact ⟨[], true, scene, .free⟩
  | some guard =>
      obtain ⟨calls, value?, world, walk⟩ := Answering.exists_walk host.answering scene.context
        (Path.parse guard.expression) scene.context.value scene.world
      exact ⟨calls, _, _, .evaluated walk⟩

/-- A test passes as it is tested. -/
theorem Tested.passes_eq (ran : Tested host scene guard? calls passed tested) :
    passes host guard? scene = .ok passed tested := by
  cases ran with
  | free => rfl
  | @evaluated guard _ value? world evaluates =>
      have evaluated := evaluate_at host guard.expression scene
      rw [evaluates.evaluate_eq] at evaluated
      rw [passes, bind_of_ok evaluated, Qualified.store]
      cases guard.qualifier with
      | none => rfl
      | some name => rfl

/-- A host that notes its requests notes the calls of a test. -/
theorem Tested.recorded (ran : Tested host scene guard? calls passed tested)
    (requests : List Request) :
    Tested host.recorded (scene.recording requests) guard? calls passed
      (tested.recording (requests ++ calls.map .call)) := by
  cases ran with
  | free =>
      rw [List.map_nil, List.append_nil]
      exact .free
  | evaluated evaluates => exact .evaluated (evaluates.recorded requests)

/-! Elements that are removed. -/

/-- An element whose test fails gives no nodes. -/
theorem renderNode_of_failed (host : Host World) (includes : Render World (List Node))
    (children : List Node)
    (failed : passes host tag.guard? (scene.visiting (.element tag [])) = .ok false tested) :
    renderNode host includes (.element tag children) scene = .ok [] tested := by
  rw [renderNode, renderElement_eq]
  exact (bind_of_ok (Renderer.setCurrentNode_run _ scene) _).trans (bind_of_ok failed _)

/-- A repeat over an empty collection gives no nodes. -/
theorem renderNode_of_empty (includes : Render World (List Node)) (children : List Node)
    (passed : passes host tag.guard? (scene.visiting (.element tag [])) = .ok true tested)
    (repeated : tag.repeat? = some directive)
    (evaluates : host.answering.Evaluates tested.context directive.expression tested.world more
      value? world)
    (empty : ∀ collection, value?.bind Value.collection? = some collection →
      collection.entries = []) :
    renderNode host includes (.element tag children) scene = .ok [] { tested with world } := by
  have evaluated := evaluate_at host directive.expression tested
  rw [evaluates.evaluate_eq] at evaluated
  have entries : repeatEntries host directive tested = .ok [] { tested with world } := by
    rw [repeatEntries, bind_of_ok evaluated]
    cases collected : value?.bind Value.collection? with
    | none => rfl
    | some collection => rw [Option.map_some, empty collection collected]; rfl
  rw [renderNode, renderElement_eq]
  refine (bind_of_ok (Renderer.setCurrentNode_run _ scene) _).trans ((bind_of_ok passed _).trans ?_)
  rw [if_pos rfl, tag.repeat?_withoutGuard, repeated]
  exact bind_of_ok entries _

/-- A node is rendered to no nodes, with these calls and nothing else. -/
structure Removes (host : Host World) (node : Node) (scene : Scene World)
    (calls : List ResolverCall) (after : Scene World) : Prop where
  result : ∀ includes, renderNode host includes node scene = .ok [] after
  record : ∀ includes requests, renderNode host.recorded includes node (scene.recording requests) =
    .ok [] (after.recording (requests ++ calls.map .call))

/-- An element that is removed does no more than its test and its repeat. -/
theorem renderNode_removed (host : Host World) (tag : Tag) (children : List Node)
    (scene : Scene World) :
    (∃ calls passed tested,
      Tested host (scene.visiting (.element tag [])) tag.guard? calls passed tested) ∧
    ∀ calls passed tested,
      Tested host (scene.visiting (.element tag [])) tag.guard? calls passed tested →
      (passed = false → Removes host (.element tag children) scene calls tested) ∧
      ∀ directive, passed = true → tag.repeat? = some directive →
        (∃ more value? world, host.answering.Evaluates tested.context directive.expression
          tested.world more value? world) ∧
        ∀ more value? world, host.answering.Evaluates tested.context directive.expression
          tested.world more value? world →
          (∀ collection, value?.bind Value.collection? = some collection →
            collection.entries = []) →
          Removes host (.element tag children) scene (calls ++ more) { tested with world } := by
  refine ⟨exists_tested host _ _, fun calls passed tested ran => ⟨?_, ?_⟩⟩
  · rintro rfl
    exact ⟨fun includes => renderNode_of_failed host includes children ran.passes_eq,
      fun includes requests => renderNode_of_failed host.recorded includes children
        (ran.recorded requests).passes_eq⟩
  · rintro directive rfl repeated
    refine ⟨Answering.exists_walk _ _ _ _ _, fun more value? world evaluates empty => ⟨?_, ?_⟩⟩
    · exact fun includes => renderNode_of_empty includes children ran.passes_eq repeated evaluates
        empty
    · intro includes requests
      -- What the test asked for is noted when the repeat is evaluated.
      rw [List.map_append, ← List.append_assoc]
      have noted : passes host.recorded tag.guard?
          ((scene.recording requests).visiting (.element tag [])) =
            .ok true (tested.recording (requests ++ calls.map .call)) :=
        (ran.recorded requests).passes_eq
      exact renderNode_of_empty includes children noted repeated (evaluates.recorded _) empty

/-- A negated test, a repeat, placeholders, and an include of what does not exist. -/
def guardedTag : Tag :=
  ⟨"p", ⟨[("title", "$\x7bnoisy\x7d"), ("data-fly-not.Busy", "noisy"),
    ("data-fly-repeat", "people"), ("data-fly-attributes", "noisy"),
    ("data-fly-include", "/missing.html#$\x7bnoisy\x7d")]⟩⟩

/-- A resolver under the name that every expression starts from, and no people. -/
def guardedContext : Context := ⟨[("noisy", .resolver ⟨0⟩), ("people", .list [])]⟩

/-- Its children have placeholders and a test of their own. -/
def guardedChildren : List Node :=
  [.text "$\x7bnoisy\x7d", .element ⟨"b", ⟨[("data-fly-test", "noisy")]⟩⟩ [.text "x"]]

/-- A host that counts its calls and answers each of them with the same value. -/
def countingHost (answer : Value) : Host Nat where
  answering _ _ := fun count => (answer, count + 1)
  fetching path := pure (.error (.notFound path))

/-- A scene with the guarded context and nothing cached. -/
def guardedScene : Scene Nat := ⟨guardedContext, .empty, 0, []⟩

/-- The context in which the test is evaluated. -/
def visitedContext : Context := (guardedScene.visiting (.element guardedTag [])).context

/-- The one call of the resolver. -/
def guardedCall : ResolverCall := ⟨⟨0⟩, ⟨visitedContext.value, visitedContext⟩⟩

/-- The test is evaluated with one call, whatever its answer is. -/
theorem tested_guardedTag {answer : Value} (present : answer ≠ .null) :
    Tested (countingHost answer) (guardedScene.visiting (.element guardedTag [])) guardedTag.guard?
      [guardedCall] (!answer.isTruthy)
      ⟨visitedContext.insert "busy" (.bool !answer.isTruthy), .empty, 1, []⟩ := by
  have walk : (countingHost answer).answering.Evaluates visitedContext "noisy" 0 [guardedCall]
      (some answer) 1 := .called rfl (.ended present)
  exact @Tested.evaluated Nat (countingHost answer) (guardedScene.visiting (.element guardedTag []))
    ⟨Directive.not, "data-fly-not.Busy", some "Busy", "noisy"⟩ _ _ _ walk

/-- The element is removed by its test, or else by its repeat. -/
theorem renderNode_removed_guardedTag :
    Removes (countingHost (.bool true)) (.element guardedTag guardedChildren) guardedScene
      [guardedCall] ⟨visitedContext.insert "busy" (.bool false), .empty, 1, []⟩ ∧
    Removes (countingHost (.bool false)) (.element guardedTag guardedChildren) guardedScene
      [guardedCall] ⟨visitedContext.insert "busy" (.bool true), .empty, 1, []⟩ := by
  have failed := (renderNode_removed (countingHost (.bool true)) guardedTag guardedChildren
    guardedScene).2 _ _ _ (tested_guardedTag nofun)
  have passed := (renderNode_removed (countingHost (.bool false)) guardedTag guardedChildren
    guardedScene).2 _ _ _ (tested_guardedTag nofun)
  have nobody : (countingHost (.bool false)).answering.Evaluates
      (visitedContext.insert "busy" (.bool true)) "people" 1 [] (some (.list [])) 1 :=
    .data rfl rfl (.ended nofun)
  have empty : ∀ collection, (some (Value.list [])).bind Value.collection? = some collection →
      collection.entries = [] := by
    rintro _ ⟨⟩
    rfl
  exact ⟨failed.1 rfl,
    (passed.2 ⟨Directive.repeated, "data-fly-repeat", none, "people"⟩ rfl rfl).2 _ _ _ nobody empty⟩

end Render

end Stencil
