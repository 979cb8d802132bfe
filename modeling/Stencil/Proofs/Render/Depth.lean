import Stencil.Proofs.Render.Calls

/-! Every call of a render ends, and nothing is walked beyond the limit for includes. -/

namespace Stencil

variable {World : Type}

namespace Render

variable {α : Type}

/-- An action that cannot fail. -/
def Succeeds (action : Render World α) : Prop :=
  ∀ scene, ∃ answer after, action scene = .ok answer after

/-- Every step but an include succeeds. -/
theorem closed_succeeds (host : Host World) : ClosedWalk host (@Succeeds World) where
  pure answer scene := ⟨answer, scene, rfl⟩
  bind first second scene := by
    obtain ⟨answer, after, ran⟩ := first scene
    obtain ⟨other, last, ranBehind⟩ := second answer after
    exact ⟨other, last, (bind_of_ok ran _).trans ranBehind⟩
  evaluate _ _ := ⟨_, _, rfl⟩
  interpolate _ _ := ⟨_, _, rfl⟩
  changeContext _ _ := ⟨_, _, rfl⟩
  inScope change action succeeds scene := by
    obtain ⟨answer, after, ran⟩ := succeeds { scene with context := change scene.context }
    exact ⟨answer, { after with context := scene.context }, by rw [inScope, ran]⟩

/-- An action that looks no template up. -/
def AsksNothing (action : Render World α) : Prop :=
  ∀ scene, (leaves action scene).requested = scene.requested

/-- Every step but an include asks for no template. -/
theorem closed_asksNothing (host : Host World) : ClosedWalk host (@AsksNothing World) where
  pure _ _ := rfl
  bind {α β action next} first second scene := by
    have before := first scene
    cases ran : action scene with
    | ok answer after =>
        rw [leaves_of_ok ran] at before
        rw [leaves_bind_of_ok ran, second answer after, before]
    | error cause after =>
        rw [leaves_of_error ran] at before
        rw [leaves_bind_of_error ran, before]
  evaluate _ _ := rfl
  interpolate _ _ := rfl
  changeContext _ _ := rfl
  inScope change action asksNothing scene := by
    rw [leaves_inScope]
    exact asksNothing { scene with context := change scene.context }

/-- A step that asks for no template leaves the requests alone. -/
theorem AsksNothing.requested_eq {action : Render World α} (asksNothing : AsksNothing action)
    {scene after : Scene World} {answer : α} (ran : action scene = .ok answer after) :
    after.requested = scene.requested := by
  rw [← asksNothing scene, leaves_of_ok ran]

/-- A lookup is recorded, whatever its answer is. -/
theorem requested_lookUp (host : Host World) (key : TemplateKey) (scene : Scene World) :
    (leaves (lookUp host key) scene).requested = scene.requested ++ [key] := by
  rw [leaves_lookUp]

end Render

namespace Renderer

open Render

variable {renderer : Renderer} {host : Host World} {depth : Nat}

/-- A call ends from every scene. -/
def Ends (renderer : Renderer) (host : Host World) (call : Call) : Prop :=
  ∀ scene, ∃ log ending, Runs renderer host call scene log ending

section

variable (deeper : Ends renderer host (.addressed (depth + 1)))

include deeper

/-- Behind its repeats, an element runs an include or its children. -/
theorem ends_content {children : List Node} (inside : Ends renderer host (.nodes depth children))
    (tag : Tag) : Ends renderer host (.content depth tag children) := by
  intro scene
  have closed := closed_succeeds host
  obtain ⟨written, first, attributes⟩ := closed.attributeStage tag scene
  obtain ⟨content?, second, content⟩ := closed.contentStage written first
  have unwrapped :=
    closed.unwrapStage ((written.remove Directive.content).remove Directive.included)
  cases content? with
  | some nodes =>
      obtain ⟨last, after, unwrap⟩ := unwrapped second
      exact ⟨_, _, .filled attributes content unwrap⟩
  | none =>
      cases target : (written.remove Directive.content).get? Directive.included with
      | none =>
          obtain ⟨last, third, unwrap⟩ := unwrapped second
          obtain ⟨log, ending, walk⟩ := inside third
          exact ⟨_, _, .kept attributes content target unwrap walk⟩
      | some value =>
          obtain ⟨text, third, read⟩ := closed.interpolate value second
          obtain ⟨log, ending, jump⟩ := deeper (third.including text)
          cases ending with
          | error cause inner =>
              exact ⟨_, _, .includingFails attributes content target read jump⟩
          | ok nodes inner =>
              obtain ⟨last, after, unwrap⟩ := unwrapped { inner with context := third.context }
              exact ⟨_, _, .including attributes content target read jump unwrap⟩

end

/-- The copies of an element end if each of them does. -/
theorem ends_copies {tag : Tag} {children : List Node}
    (each : Ends renderer host (.element depth tag children)) (name : String) (position : Nat)
    (entries : List (String × Value)) :
    Ends renderer host (.copies depth tag children name position entries) := by
  induction entries generalizing position with
  | nil => exact fun scene => ⟨_, _, .noCopies⟩
  | cons entry rest inductionHypothesis =>
      intro scene
      obtain ⟨log, ending, first⟩ :=
        each { scene with context := bindItem name position entry scene.context }
      cases ending with
      | error cause inner => exact ⟨_, _, .copyFails first⟩
      | ok nodes inner =>
          obtain ⟨more, last, others⟩ :=
            inductionHypothesis (position + 1) { inner with context := scene.context }
          exact ⟨_, _, .copy first others⟩

/-- An element ends if its children and its includes do. -/
theorem ends_element (deeper : Ends renderer host (.addressed (depth + 1))) {children : List Node}
    (inside : Ends renderer host (.nodes depth children)) (tag : Tag) :
    Ends renderer host (.element depth tag children) := by
  intro scene
  have closed := closed_succeeds host
  obtain ⟨passed, inner, tested⟩ := closed.passes tag.guard? (scene.visiting (.element tag []))
  cases passed with
  | false => exact ⟨_, _, .hidden tested⟩
  | true =>
      -- A copy has one repeat less, on which the recursion ends.
      cases search : tag.withoutGuard.repeat? with
      | none =>
          obtain ⟨log, ending, behind⟩ := ends_content deeper inside tag.withoutGuard inner
          exact ⟨_, _, .shown tested search behind⟩
      | some directive =>
          have fewer := Tag.size_copy_lt search
          have each := ends_element deeper inside (tag.withoutGuard.remove directive.name)
          obtain ⟨entries, after, read⟩ := closed.repeatEntries directive inner
          obtain ⟨log, ending, copies⟩ := ends_copies each (itemName directive) 0 entries after
          exact ⟨_, _, .repeated tested search read copies⟩
termination_by tag.attributes.size

/-- Nodes end, by induction on the tree. -/
theorem ends_nodes (deeper : Ends renderer host (.addressed (depth + 1))) (nodes : List Node) :
    Ends renderer host (.nodes depth nodes) := by
  match nodes with
  | [] => exact fun scene => ⟨_, _, .noNodes⟩
  | .comment content :: rest =>
      intro scene
      obtain ⟨log, ending, others⟩ := ends_nodes deeper rest scene
      exact ⟨_, _, .comment others⟩
  | .text content :: rest =>
      intro scene
      obtain ⟨written, after, read⟩ :=
        (closed_succeeds host).interpolate content (scene.visiting (.text content))
      obtain ⟨log, ending, others⟩ := ends_nodes deeper rest after
      exact ⟨_, _, .text read others⟩
  | .element tag children :: rest =>
      intro scene
      obtain ⟨log, ending, first⟩ := ends_element deeper (ends_nodes deeper children) tag scene
      cases ending with
      | error cause after => exact ⟨_, _, .elementFails first⟩
      | ok nodes after =>
          obtain ⟨more, last, others⟩ := ends_nodes deeper rest after
          exact ⟨_, _, .element first others⟩

theorem ends_template (deeper : Ends renderer host (.addressed (depth + 1)))
    (template : Template) : Ends renderer host (.template depth template) := by
  intro scene
  obtain ⟨log, ending, walk⟩ := ends_nodes deeper template.content scene
  exact ⟨_, _, .template walk⟩

/-- Addressing ends, by recursion on the includes that are left. -/
theorem ends_addressed (renderer : Renderer) (host : Host World) (depth : Nat) :
    Ends renderer host (.addressed depth) := by
  intro scene
  by_cases tooDeep : renderer.config.maxIncludeDepth < depth
  · exact ⟨_, _, .refused tooDeep⟩
  · have within : depth ≤ renderer.config.maxIncludeDepth := Nat.le_of_not_lt tooDeep
    cases address : TemplateKey.ofContext? scene.context renderer.config.codeBasePath with
    | none => exact ⟨_, _, .unaddressed within address⟩
    | some key =>
        cases answer : lookUp host key (scene.addressing key) with
        | error cause after => exact ⟨_, _, .missing within address answer⟩
        | ok template inner =>
            have deeper := ends_addressed renderer host (depth + 1)
            obtain ⟨log, ending, walk⟩ := ends_template deeper template inner
            exact ⟨_, _, .walked within address answer walk⟩
termination_by renderer.config.maxIncludeDepth + 1 - depth

/-- Every call ends. -/
theorem ends (renderer : Renderer) (host : Host World) (call : Call) :
    Ends renderer host call := by
  have deeper (depth : Nat) := ends_addressed renderer host (depth + 1)
  cases call with
  | addressed depth => exact ends_addressed renderer host depth
  | template depth template => exact ends_template (deeper depth) template
  | nodes depth nodes => exact ends_nodes (deeper depth) nodes
  | element depth tag children =>
      exact ends_element (deeper depth) (ends_nodes (deeper depth) children) tag
  | copies depth tag children name position entries =>
      exact ends_copies (ends_element (deeper depth) (ends_nodes (deeper depth) children) tag) name
        position entries
  | content depth tag children =>
      exact ends_content (deeper depth) (ends_nodes (deeper depth) children) tag

/-- Keys are recorded in the order in which the log meets them. -/
theorem Runs.requested {call : Call} {scene : Scene World} {log : List Event}
    {ending : Ending World} (runs : Runs renderer host call scene log ending) :
    ending.scene.requested = scene.requested ++ log.filterMap Event.key? := by
  -- Only lookups record keys; all other steps leave the requests alone.
  have asksNothing := closed_asksNothing host
  induction runs with
  | noNodes | noCopies | refused | unaddressed =>
      simp [Event.key?]
  | comment others inductionHypothesis | template walk inductionHypothesis =>
      simpa using inductionHypothesis
  | text read others inductionHypothesis =>
      simpa [(asksNothing.interpolate _).requested_eq read] using inductionHypothesis
  | element first others firstHypothesis othersHypothesis =>
      rw [Ending.scene_ok] at firstHypothesis
      simp [othersHypothesis, firstHypothesis]
  | elementFails first inductionHypothesis => exact inductionHypothesis
  | hidden tested => simpa using (asksNothing.passes _).requested_eq tested
  | repeated tested search read each inductionHypothesis =>
      rw [inductionHypothesis, (asksNothing.repeatEntries _).requested_eq read,
        (asksNothing.passes _).requested_eq tested, Scene.requested_visiting]
  | shown tested search behind inductionHypothesis =>
      rw [inductionHypothesis, (asksNothing.passes _).requested_eq tested,
        Scene.requested_visiting]
  | copy first others firstHypothesis othersHypothesis =>
      rw [Ending.scene_ok] at firstHypothesis
      simp [othersHypothesis, firstHypothesis]
  | copyFails first inductionHypothesis => simpa using inductionHypothesis
  | filled attributes content unwrap =>
      simp [(asksNothing.unwrapStage _).requested_eq unwrap,
        (asksNothing.contentStage _).requested_eq content,
        (asksNothing.attributeStage _).requested_eq attributes]
  | kept attributes content untargeted unwrap inside inductionHypothesis =>
      rw [Ending.scene_rework, inductionHypothesis,
        (asksNothing.unwrapStage _).requested_eq unwrap,
        (asksNothing.contentStage _).requested_eq content,
        (asksNothing.attributeStage _).requested_eq attributes]
  | including attributes content targeted read deeper unwrap inductionHypothesis =>
      have before := (asksNothing.interpolate _).requested_eq read
      rw [Ending.scene_ok] at inductionHypothesis
      simp [(asksNothing.unwrapStage _).requested_eq unwrap, inductionHypothesis, before,
        (asksNothing.contentStage _).requested_eq content,
        (asksNothing.attributeStage _).requested_eq attributes]
  | includingFails attributes content targeted read deeper inductionHypothesis =>
      have before := (asksNothing.interpolate _).requested_eq read
      rw [Ending.scene_error] at inductionHypothesis
      simp [inductionHypothesis, before, (asksNothing.contentStage _).requested_eq content,
        (asksNothing.attributeStage _).requested_eq attributes]
  | missing within address answer =>
      simp [← leaves_of_error answer, requested_lookUp, Event.key?]
  | walked within address answer walk inductionHypothesis =>
      simp [inductionHypothesis, ← leaves_of_ok answer, requested_lookUp, Event.key?]

/-- What is addressed is refused if it is deeper than the limit, and for no other reason. -/
theorem Runs.isRefusal_iff {call : Call} {scene : Scene World} {log : List Event}
    {ending : Ending World} (runs : Runs renderer host call scene log ending) :
    ∀ event ∈ log, event.isRefusal = true ↔ renderer.config.maxIncludeDepth < event.depth := by
  induction runs with
  | noNodes | noCopies | hidden | filled => simp
  | comment _ inductionHypothesis | text _ _ inductionHypothesis
  | elementFails _ inductionHypothesis | repeated _ _ _ _ inductionHypothesis
  | shown _ _ _ inductionHypothesis | copyFails _ inductionHypothesis
  | kept _ _ _ _ _ inductionHypothesis | including _ _ _ _ _ _ inductionHypothesis
  | includingFails _ _ _ _ _ inductionHypothesis | template _ inductionHypothesis =>
      exact inductionHypothesis
  | element _ _ firstHypothesis othersHypothesis | copy _ _ firstHypothesis othersHypothesis =>
      intro event eventMem
      rcases List.mem_append.mp eventMem with inFirst | inOthers
      · exact firstHypothesis event inFirst
      · exact othersHypothesis event inOthers
  | refused tooDeep => simpa [Event.isRefusal, Event.depth] using tooDeep
  | unaddressed within | missing within =>
      simpa [Event.isRefusal, Event.depth] using within
  | walked within address answer walk inductionHypothesis =>
      intro event eventMem
      rcases List.mem_cons.mp eventMem with rfl | inside
      · simpa [Event.isRefusal, Event.depth] using within
      · exact inductionHypothesis event inside

/-- What is not refused is not beyond the limit. -/
theorem Runs.isRefusal_eq_false_iff {call : Call} {scene : Scene World} {log : List Event}
    {ending : Ending World} (runs : Runs renderer host call scene log ending) :
    ∀ event ∈ log, event.isRefusal = false ↔ event.depth ≤ renderer.config.maxIncludeDepth := by
  intro event eventMem
  rw [← Bool.not_eq_true, runs.isRefusal_iff event eventMem, Nat.not_lt]

/-- Nothing behind a refusal changes the failure. -/
theorem Runs.fails_of_isRefusal {call : Call} {scene : Scene World} {log : List Event}
    {ending : Ending World} (runs : Runs renderer host call scene log ending)
    (refusal : ∃ event ∈ log, event.isRefusal = true) :
    ∃ after, ending = .error (.includeDepthExceeded renderer.config.maxIncludeDepth) after := by
  -- A call that succeeds has no refusal in its log, so that none is passed over.
  induction runs with
  | noNodes | noCopies | hidden | filled | unaddressed | missing =>
      simp [Event.isRefusal] at refusal
  | comment _ inductionHypothesis | text _ _ inductionHypothesis
  | kept _ _ _ _ _ inductionHypothesis | template _ inductionHypothesis =>
      obtain ⟨after, rfl⟩ := inductionHypothesis refusal
      exact ⟨after, rfl⟩
  | elementFails _ inductionHypothesis | repeated _ _ _ _ inductionHypothesis
  | shown _ _ _ inductionHypothesis =>
      exact inductionHypothesis refusal
  | copyFails _ inductionHypothesis | includingFails _ _ _ _ _ inductionHypothesis =>
      obtain ⟨after, failed⟩ := inductionHypothesis refusal
      cases failed
      exact ⟨_, rfl⟩
  | element _ _ firstHypothesis othersHypothesis | copy _ _ firstHypothesis othersHypothesis =>
      obtain ⟨event, eventMem, refused⟩ := refusal
      rcases List.mem_append.mp eventMem with inFirst | inOthers
      · obtain ⟨after, failed⟩ := firstHypothesis ⟨event, inFirst, refused⟩
        cases failed
      · obtain ⟨after, rfl⟩ := othersHypothesis ⟨event, inOthers, refused⟩
        exact ⟨after, rfl⟩
  | including _ _ _ _ _ _ inductionHypothesis =>
      obtain ⟨after, failed⟩ := inductionHypothesis refusal
      cases failed
  | refused tooDeep => exact ⟨_, rfl⟩
  | walked within address answer walk inductionHypothesis =>
      obtain ⟨event, eventMem, refused⟩ := refusal
      rcases List.mem_cons.mp eventMem with rfl | inside
      · cases refused
      · exact inductionHypothesis ⟨event, inside, refused⟩

/-- A call that gives nodes met no refusal. -/
theorem Runs.isRefusal_eq_false {call : Call} {scene after : Scene World} {log : List Event}
    {nodes : List Node} (runs : Runs renderer host call scene log (.ok nodes after)) :
    ∀ event ∈ log, event.isRefusal = false := by
  intro event eventMem
  rw [Bool.eq_false_iff]
  intro refusal
  obtain ⟨last, failed⟩ := runs.fails_of_isRefusal ⟨event, eventMem, refusal⟩
  cases failed

/-- Every call ends, with its lookups in a log and refusals exactly beyond the limit. -/
theorem ends_within_limit (renderer : Renderer) (host : Host World) (call : Call)
    (scene : Scene World) :
    (∃ log, Runs renderer host call scene log (call.action renderer host scene)) ∧
    ∀ log ending, Runs renderer host call scene log ending →
      ending = call.action renderer host scene ∧
      ending.scene.requested = scene.requested ++ log.filterMap Event.key? ∧
      (∀ event ∈ log,
        event.isRefusal = true ↔ renderer.config.maxIncludeDepth < event.depth) ∧
      ((∃ event ∈ log, renderer.config.maxIncludeDepth < event.depth) →
        ∃ after, ending =
          .error (.includeDepthExceeded renderer.config.maxIncludeDepth) after) := by
  refine ⟨?_, fun log ending runs => ⟨runs.eq_action, runs.requested, runs.isRefusal_iff, ?_⟩⟩
  · obtain ⟨log, ending, runs⟩ := ends renderer host call scene
    exact ⟨log, runs.eq_action ▸ runs⟩
  · rintro ⟨event, eventMem, tooDeep⟩
    exact runs.fails_of_isRefusal
      ⟨event, eventMem, (runs.isRefusal_iff event eventMem).mpr tooDeep⟩

end Renderer

end Stencil
