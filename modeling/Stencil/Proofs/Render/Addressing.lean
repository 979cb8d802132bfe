import Stencil.Proofs.Render.Chain
import Stencil.Proofs.Render.Contract

/-! The file that the context addresses while a template is walked. -/

namespace Stencil

variable {World : Type}

namespace TemplateKey

/-- The key of an include: a path and a name behind a slash, else a name in this file. -/
def included (key : TemplateKey) (target : String) : TemplateKey :=
  if Text.startsWith "/" target then
    let path := target.toList.takeWhile (· != '#')
    let behind := (target.toList.dropWhile (· != '#')).drop 1
    ⟨String.ofList path, String.ofList (behind.takeWhile (· != '#'))⟩
  else ⟨key.path, target⟩

end TemplateKey

namespace Render

/-- Within a file, the key that is read is the key of the target. -/
theorem includeKey_eq_included {context : Context} {key : TemplateKey}
    (inFile : context.templatePath? = some key.path) (target : String) :
    includeKey context target = key.included target := by
  rw [includeKey, TemplateKey.included, inFile]
  split
  · rw [Text.splitOn_eq_takeWhile]
    cases target.toList.dropWhile (· != '#') with
    | nil => rfl
    | cons _ behind =>
        simp only [List.headD_cons, List.tail_cons, List.drop_succ_cons, List.drop_zero]
        rw [Text.splitOn_eq_takeWhile, List.headD_cons]
  · rfl

/-- Questions to the host leave the context alone. -/
theorem OnlyAsks.context_eq {α : Type} {action : Render World α} (onlyAsks : OnlyAsks action)
    {scene after : Scene World} {answer : α} (ran : action scene = .ok answer after) :
    after.context = scene.context := by
  obtain ⟨world, rfl⟩ := onlyAsks.exists_world ran
  rfl

/-- The stages in front of the content of an element leave the context alone. -/
theorem context_of_stages {host : Host World} {tag written : Tag} {content? : Option (List Node)}
    {scene first second : Scene World}
    (attributes : attributeStage host tag scene = .ok written first)
    (content : contentStage host written first = .ok content? second) :
    second.context = scene.context := by
  have asks := closed_onlyAsks host
  exact ((asks.contentStage _).context_eq content).trans
    ((asks.attributeStage _).context_eq attributes)

end Render

namespace Renderer

open Render

variable {renderer : Renderer} {host : Host World} {origin : Scene World}

/-! Walks through templates. -/

/-- A template is found within the limit, and its walk starts in the last scene. -/
structure Finds (renderer : Renderer) (host : Host World) (depth : Nat) (scene : Scene World)
    (key : TemplateKey) (template : Template) (inner : Scene World) : Prop where
  within : depth ≤ renderer.config.maxIncludeDepth
  address : TemplateKey.ofContext? scene.context renderer.config.codeBasePath = some key
  answer : lookUp host key (scene.addressing key) = .ok template inner

/-- The calls that a call makes in the same template, with the scenes they start from. -/
inductive Makes (renderer : Renderer) (host : Host World) :
    Call → Scene World → Call → Scene World → Prop
  | template {depth : Nat} {template : Template} {scene : Scene World} :
      Makes renderer host (.template depth template) scene (.nodes depth template.content) scene
  | comment {depth : Nat} {content : String} {rest : List Node} {scene : Scene World} :
      Makes renderer host (.nodes depth (.comment content :: rest)) scene (.nodes depth rest) scene
  | text {depth : Nat} {content written : String} {rest : List Node} {scene after : Scene World}
      (read : interpolate host content (scene.visiting (.text content)) = .ok written after) :
      Makes renderer host (.nodes depth (.text content :: rest)) scene (.nodes depth rest) after
  | element {depth : Nat} {tag : Tag} {children rest : List Node} {scene : Scene World} :
      Makes renderer host (.nodes depth (.element tag children :: rest)) scene
        (.element depth tag children) scene
  | sibling {depth : Nat} {tag : Tag} {children rest nodes : List Node}
      {scene after : Scene World}
      (first : (Call.element depth tag children).action renderer host scene = .ok nodes after) :
      Makes renderer host (.nodes depth (.element tag children :: rest)) scene
        (.nodes depth rest) after
  | repeated {depth : Nat} {tag : Tag} {children : List Node} {directive : Qualified}
      {entries : List (String × Value)} {scene inner after : Scene World}
      (tested : passes host tag.guard? (scene.visiting (.element tag [])) = .ok true inner)
      (search : tag.withoutGuard.repeat? = some directive)
      (read : repeatEntries host directive inner = .ok entries after) :
      Makes renderer host (.element depth tag children) scene
        (.copies depth (tag.withoutGuard.remove directive.name) children (itemName directive) 0
          entries) after
  | shown {depth : Nat} {tag : Tag} {children : List Node} {scene inner : Scene World}
      (tested : passes host tag.guard? (scene.visiting (.element tag [])) = .ok true inner)
      (search : tag.withoutGuard.repeat? = none) :
      Makes renderer host (.element depth tag children) scene
        (.content depth tag.withoutGuard children) inner
  | copy {depth : Nat} {tag : Tag} {children : List Node} {name : String} {position : Nat}
      {entry : String × Value} {rest : List (String × Value)} {scene : Scene World} :
      Makes renderer host (.copies depth tag children name position (entry :: rest)) scene
        (.element depth tag children)
        { scene with context := bindItem name position entry scene.context }
  | others {depth : Nat} {tag : Tag} {children nodes : List Node} {name : String}
      {position : Nat} {entry : String × Value} {rest : List (String × Value)}
      {scene inner : Scene World}
      (first : (Call.element depth tag children).action renderer host
        { scene with context := bindItem name position entry scene.context } = .ok nodes inner) :
      Makes renderer host (.copies depth tag children name position (entry :: rest)) scene
        (.copies depth tag children name (position + 1) rest)
        { inner with context := scene.context }
  | inside {depth : Nat} {tag written last : Tag} {children : List Node}
      {scene first second third : Scene World}
      (attributes : attributeStage host tag scene = .ok written first)
      (content : contentStage host written first = .ok none second)
      (untargeted : (written.remove Directive.content).get? Directive.included = none)
      (unwrap : unwrapStage host
        ((written.remove Directive.content).remove Directive.included) second = .ok last third) :
      Makes renderer host (.content depth tag children) scene (.nodes depth children) third

/-- An include that a call attempts, with its tag, its target and the scenes around it. -/
structure Attempt (host : Host World) (call : Call) (scene : Scene World) where
  depth : Nat
  tag : Tag
  target : String
  before : Scene World
  asked : Scene World
  reached : ∃ whole children written first, call = .content depth whole children ∧
    attributeStage host whole scene = .ok written first ∧
    contentStage host written first = .ok none before ∧ tag = written.remove Directive.content
  read : ∃ value, tag.get? Directive.included = some value ∧
    interpolate host value before = .ok target asked

/-- What a render walks through, each call in the template that was found for a key. -/
inductive Walking (renderer : Renderer) (host : Host World) (origin : Scene World) :
    TemplateKey → Call → Scene World → Prop
  | start {key : TemplateKey} {template : Template} {inner : Scene World}
      (finds : Finds renderer host 0 origin key template inner) :
      Walking renderer host origin key (.template 0 template) inner
  | part {key : TemplateKey} {call made : Call} {scene inner : Scene World}
      (walking : Walking renderer host origin key call scene)
      (makes : Makes renderer host call scene made inner) :
      Walking renderer host origin key made inner
  | included {outer key : TemplateKey} {call : Call} {template : Template}
      {scene inner : Scene World} (walking : Walking renderer host origin outer call scene)
      (attempt : Attempt host call scene)
      (finds : Finds renderer host (attempt.depth + 1) (attempt.asked.including attempt.target)
        key template inner) :
      Walking renderer host origin key (.template (attempt.depth + 1) template) inner

theorem Walking.not_addressed {key : TemplateKey} {depth : Nat} {scene : Scene World} :
    ¬ Walking renderer host origin key (.addressed depth) scene := by
  intro walking
  cases walking with
  | part walking makes => cases makes

/-- A run ends in the scene that its call leaves. -/
theorem Runs.leaves_eq {call : Call} {scene : Scene World} {log : List Event}
    {ending : Ending World} (runs : Runs renderer host call scene log ending) :
    leaves (call.action renderer host) scene = ending.scene := by
  rw [leaves, ← runs.eq_action]
  cases ending <;> rfl

/-! The address of the file. -/

/-- The context of a scene addresses the file of a key. -/
structure InFile (key : TemplateKey) (scene : Scene World) : Prop where
  nonempty : key.path ≠ ""
  path : scene.context.templatePath? = some key.path

/-- A found template starts in its own file. -/
theorem Finds.inFile {depth : Nat} {scene inner : Scene World} {key : TemplateKey}
    {template : Template} (finds : Finds renderer host depth scene key template inner) :
    InFile key inner where
  nonempty := TemplateKey.path_ne_empty_of_ofContext? finds.address
  path := by
    rw [← leaves_of_ok finds.answer, leaves_lookUp]
    exact Context.templatePath?_setTemplate _ _ _

/-- No element that a render walks through writes the address. -/
def KeepsAddress (renderer : Renderer) (host : Host World) (origin : Scene World) : Prop :=
  ∀ key depth tag children scene,
    Walking renderer host origin key (.element depth tag children) scene → tag.KeepsAddress

section

variable (keeps : KeepsAddress renderer host origin) {key : TemplateKey} {call made : Call}
  {scene inner : Scene World}
include keeps

/-- Items do not have the name of the address. -/
theorem Walking.itemName_ne {depth : Nat} {tag : Tag} {children : List Node} {name : String}
    {position : Nat} {entries : List (String × Value)}
    (walking : Walking renderer host origin key
      (.copies depth tag children name position entries) scene) :
    name ≠ Context.templateKey := by
  generalize whole : Call.copies depth tag children name position entries = call at walking
  induction walking generalizing depth tag children name position entries with
  | start finds => cases whole
  | included walking attempt finds => cases whole
  | part walking makes inductionHypothesis =>
      cases makes with
      | repeated tested search read =>
          cases whole
          exact (Tag.KeepsAddress.withoutGuard (keeps _ _ _ _ _ walking)).itemName_ne search
      | others first =>
          cases whole
          exact inductionHypothesis rfl
      | template | comment | text | element | sibling | shown | copy | inside => cases whole

/-- Testing an element leaves the address alone. -/
theorem Walking.templatePath?_of_tested {depth : Nat} {tag : Tag} {children : List Node}
    {passed : Bool} (walking : Walking renderer host origin key (.element depth tag children) scene)
    (tested : passes host tag.guard? (scene.visiting (.element tag [])) = .ok passed inner) :
    inner.context.templatePath? = scene.context.templatePath? :=
  (templatePath?_of_passes (keeps _ _ _ _ _ walking) tested).trans (templatePath?_visiting _ _)

/-- A call that is walked leaves the address alone, however it ends. -/
theorem Walking.templatePath?_of_runs {log : List Event} {ending : Ending World}
    (walking : Walking renderer host origin key call scene)
    (runs : Runs renderer host call scene log ending) :
    ending.scene.context.templatePath? = scene.context.templatePath? := by
  have asks := closed_onlyAsks host
  induction runs with
  | noNodes | noCopies => rfl
  | comment others inductionHypothesis =>
      rw [Ending.scene_rework]
      exact inductionHypothesis (walking.part .comment)
  | text read others inductionHypothesis =>
      rw [Ending.scene_rework, inductionHypothesis (walking.part (.text read)),
        (asks.interpolate _).context_eq read, templatePath?_visiting]
  | element first others firstHypothesis othersHypothesis =>
      rw [Ending.scene_rework, othersHypothesis (walking.part (.sibling first.eq_action.symm))]
      exact firstHypothesis (walking.part .element)
  | elementFails first inductionHypothesis => exact inductionHypothesis (walking.part .element)
  | hidden tested => exact walking.templatePath?_of_tested keeps tested
  | repeated tested search read each inductionHypothesis =>
      rw [inductionHypothesis (walking.part (.repeated tested search read)),
        (asks.repeatEntries _).context_eq read, walking.templatePath?_of_tested keeps tested]
  | shown tested search behind inductionHypothesis =>
      rw [inductionHypothesis (walking.part (.shown tested search)),
        walking.templatePath?_of_tested keeps tested]
  | copy first others firstHypothesis othersHypothesis =>
      rw [Ending.scene_rework, othersHypothesis (walking.part (.others first.eq_action.symm))]
  | copyFails first => rfl
  | filled attributes content unwrap =>
      rw [Ending.scene_ok, (asks.unwrapStage _).context_eq unwrap,
        context_of_stages attributes content]
  | kept attributes content untargeted unwrap inside inductionHypothesis =>
      rw [Ending.scene_rework,
        inductionHypothesis (walking.part (.inside attributes content untargeted unwrap)),
        (asks.unwrapStage _).context_eq unwrap, context_of_stages attributes content]
  | including attributes content targeted read deeper unwrap =>
      rw [Ending.scene_ok, (asks.unwrapStage _).context_eq unwrap,
        (asks.interpolate _).context_eq read, context_of_stages attributes content]
  | includingFails attributes content targeted read deeper =>
      rw [Ending.scene_error, (asks.interpolate _).context_eq read,
        context_of_stages attributes content]
  -- An include runs in a scope of its own, so that nothing has to be known of its run.
  | refused | unaddressed | missing | walked => exact absurd walking Walking.not_addressed
  | template walk inductionHypothesis =>
      rw [Ending.scene_rework]
      exact inductionHypothesis (walking.part .template)

/-- A call starts where the address is that of the call that makes it. -/
theorem Makes.templatePath? (makes : Makes renderer host call scene made inner)
    (walking : Walking renderer host origin key call scene) :
    inner.context.templatePath? = scene.context.templatePath? := by
  have asks := closed_onlyAsks host
  cases makes with
  | template | comment | element | others => rfl
  | text read => rw [(asks.interpolate _).context_eq read, templatePath?_visiting]
  | sibling first =>
      -- The element in front is walked, too, and leaves the address alone.
      obtain ⟨log, ending, runs⟩ := ends renderer host _ scene
      have kept := (walking.part .element).templatePath?_of_runs keeps runs
      rw [runs.eq_action, first] at kept
      exact kept
  | repeated tested search read =>
      rw [(asks.repeatEntries _).context_eq read, walking.templatePath?_of_tested keeps tested]
  | shown tested search => exact walking.templatePath?_of_tested keeps tested
  | copy => exact templatePath?_bindItem (walking.itemName_ne keeps) _ _ _
  | inside attributes content untargeted unwrap =>
      rw [(asks.unwrapStage _).context_eq unwrap, context_of_stages attributes content]

/-- Every call that is walked starts in the file of its template. -/
theorem Walking.inFile (walking : Walking renderer host origin key call scene) :
    InFile key scene := by
  induction walking with
  | start finds => exact finds.inFile
  | included walking attempt finds => exact finds.inFile
  | part walking makes inductionHypothesis =>
      exact ⟨inductionHypothesis.nonempty,
        (makes.templatePath? keeps walking).trans inductionHypothesis.path⟩

/-- It ends there, too. -/
theorem Walking.inFile_leaves (walking : Walking renderer host origin key call scene) :
    InFile key (leaves (call.action renderer host) scene) := by
  have starts := walking.inFile keeps
  obtain ⟨log, ending, runs⟩ := ends renderer host call scene
  refine ⟨starts.nonempty, ?_⟩
  rw [runs.leaves_eq]
  exact (walking.templatePath?_of_runs keeps runs).trans starts.path

end

/-! Includes. -/

namespace Attempt

variable {call : Call} {scene : Scene World} {key : TemplateKey}

theorem context_asked (attempt : Attempt host call scene) :
    attempt.asked.context = scene.context := by
  obtain ⟨whole, children, written, first, -, attributes, content, -⟩ := attempt.reached
  obtain ⟨value, -, read⟩ := attempt.read
  exact (((closed_onlyAsks host).interpolate _).context_eq read).trans
    (context_of_stages attributes content)

theorem inFile (attempt : Attempt host call scene) (inFile : InFile key scene) :
    InFile key attempt.asked :=
  ⟨inFile.nonempty, attempt.context_asked ▸ inFile.path⟩

/-- An include in a file addresses the template of its target. -/
theorem address (attempt : Attempt host call scene) (inFile : InFile key scene) :
    TemplateKey.ofContext? (attempt.asked.including attempt.target).context
      renderer.config.codeBasePath = some (key.included attempt.target) := by
  have asked := attempt.inFile inFile
  rw [← includeKey_eq_included asked.path]
  exact TemplateKey.ofContext?_setTemplate _ _
    (path_includeKey_ne_empty asked.path asked.nonempty _)

/-- Behind an include the context is what it was. -/
theorem leaves_includeStage (attempt : Attempt host call scene)
    (includes : Render World (List Node)) :
    leaves (includeStage host includes attempt.tag) attempt.before =
      { leaves includes (attempt.asked.including attempt.target) with
        context := attempt.asked.context } := by
  obtain ⟨value, targeted, read⟩ := attempt.read
  rw [includeStage, targeted]
  simp only [leaves_bind_of_ok read, leaves_bind_pure, leaves_inScope]
  rfl

theorem requested_asked (attempt : Attempt host call scene) :
    attempt.asked.requested = attempt.before.requested := by
  obtain ⟨value, -, read⟩ := attempt.read
  exact ((closed_asksNothing host).interpolate _).requested_eq read

end Attempt

/-- The template that a context addresses is looked up first, unless it is refused. -/
theorem requested_addressed {depth : Nat} {scene : Scene World} {key : TemplateKey}
    (address : TemplateKey.ofContext? scene.context renderer.config.codeBasePath = some key) :
    ∃ asked, (leaves ((Call.addressed depth).action renderer host) scene).requested =
        scene.requested ++ asked ∧
      asked.head? = if depth ≤ renderer.config.maxIncludeDepth then some key else none := by
  obtain ⟨log, ending, runs⟩ := ends renderer host (.addressed depth) scene
  refine ⟨log.filterMap Event.key?, by rw [runs.leaves_eq, runs.requested], ?_⟩
  -- What is addressed is the first event of the log.
  cases runs with
  | refused tooDeep =>
      rw [if_neg (Nat.not_le_of_lt tooDeep)]
      rfl
  | unaddressed within unaddressed =>
      rw [address] at unaddressed
      cases unaddressed
  | missing within addressed answer =>
      rw [address] at addressed
      cases addressed
      rw [if_pos within]
      rfl
  | walked within addressed answer walk =>
      rw [address] at addressed
      cases addressed
      rw [if_pos within]
      rfl

/-- A key that the first context addresses, or that of an include. -/
inductive Asked (renderer : Renderer) (host : Host World) (origin : Scene World)
    (key : TemplateKey) : Prop
  | origin (address : TemplateKey.ofContext? origin.context renderer.config.codeBasePath = some key)
  | included {outer : TemplateKey} {call : Call} {scene : Scene World}
      (walking : Walking renderer host origin outer call scene) (attempt : Attempt host call scene)
      (within : attempt.depth < renderer.config.maxIncludeDepth)
      (same : key = outer.included attempt.target)

/-- A call that is walked, or that addresses the first template or that of an include. -/
inductive Asking (renderer : Renderer) (host : Host World) (origin : Scene World) :
    Call → Scene World → Prop
  | walking {key : TemplateKey} {call : Call} {scene : Scene World}
      (walking : Walking renderer host origin key call scene) :
      Asking renderer host origin call scene
  | origin : Asking renderer host origin (.addressed 0) origin
  | included {outer : TemplateKey} {call : Call} {scene : Scene World}
      (walking : Walking renderer host origin outer call scene)
      (attempt : Attempt host call scene) :
      Asking renderer host origin (.addressed (attempt.depth + 1))
        (attempt.asked.including attempt.target)

section

variable (keeps : KeepsAddress renderer host origin) {call : Call} {scene inner : Scene World}

/-- The template that is found for a call is walked. -/
theorem Asking.walking_of_finds {depth : Nat} {key : TemplateKey} {template : Template}
    (asking : Asking renderer host origin (.addressed depth) scene)
    (finds : Finds renderer host depth scene key template inner) :
    Walking renderer host origin key (.template depth template) inner := by
  cases asking with
  | origin => exact .start finds
  | walking walking => exact absurd walking Walking.not_addressed
  | included walking attempt => exact .included walking attempt finds

include keeps

/-- What a call looks up is asked for. -/
theorem Asking.asked {depth : Nat} {key : TemplateKey}
    (asking : Asking renderer host origin (.addressed depth) scene)
    (within : depth ≤ renderer.config.maxIncludeDepth)
    (address : TemplateKey.ofContext? scene.context renderer.config.codeBasePath = some key) :
    Asked renderer host origin key := by
  cases asking with
  | origin => exact .origin address
  | walking walking => exact absurd walking Walking.not_addressed
  | included walking attempt =>
      have same := (attempt.address (walking.inFile keeps)).symm.trans address
      exact .included walking attempt within (Option.some.inj same).symm

/-- Nothing else is looked up, by induction on the run. -/
theorem Asking.asked_of_runs {log : List Event} {ending : Ending World}
    (asking : Asking renderer host origin call scene)
    (runs : Runs renderer host call scene log ending) :
    ∀ key ∈ log.filterMap Event.key?, Asked renderer host origin key := by
  induction runs with
  | noNodes | noCopies | hidden | filled => exact nofun
  | refused | unaddressed => exact nofun
  | comment others inductionHypothesis =>
      obtain ⟨walking⟩ := asking
      exact inductionHypothesis (.walking (walking.part .comment))
  | text read others inductionHypothesis =>
      obtain ⟨walking⟩ := asking
      exact inductionHypothesis (.walking (walking.part (.text read)))
  | element first others firstHypothesis othersHypothesis =>
      obtain ⟨walking⟩ := asking
      rw [List.filterMap_append]
      exact List.forall_mem_append.mpr
        ⟨firstHypothesis (.walking (walking.part .element)),
          othersHypothesis (.walking (walking.part (.sibling first.eq_action.symm)))⟩
  | elementFails first inductionHypothesis =>
      obtain ⟨walking⟩ := asking
      exact inductionHypothesis (.walking (walking.part .element))
  | repeated tested search read each inductionHypothesis =>
      obtain ⟨walking⟩ := asking
      exact inductionHypothesis (.walking (walking.part (.repeated tested search read)))
  | shown tested search behind inductionHypothesis =>
      obtain ⟨walking⟩ := asking
      exact inductionHypothesis (.walking (walking.part (.shown tested search)))
  | copy first others firstHypothesis othersHypothesis =>
      obtain ⟨walking⟩ := asking
      rw [List.filterMap_append]
      exact List.forall_mem_append.mpr
        ⟨firstHypothesis (.walking (walking.part .copy)),
          othersHypothesis (.walking (walking.part (.others first.eq_action.symm)))⟩
  | copyFails first inductionHypothesis =>
      obtain ⟨walking⟩ := asking
      exact inductionHypothesis (.walking (walking.part .copy))
  | kept attributes content untargeted unwrap inside inductionHypothesis =>
      obtain ⟨walking⟩ := asking
      exact inductionHypothesis
        (.walking (walking.part (.inside attributes content untargeted unwrap)))
  -- An include is addressed in the scope of its target, whatever its run does.
  | including attributes content targeted read deeper unwrap inductionHypothesis =>
      obtain ⟨walking⟩ := asking
      exact inductionHypothesis (.included walking
        ⟨_, _, _, _, _, ⟨_, _, _, _, rfl, attributes, content, rfl⟩, _, targeted, read⟩)
  | includingFails attributes content targeted read deeper inductionHypothesis =>
      obtain ⟨walking⟩ := asking
      exact inductionHypothesis (.included walking
        ⟨_, _, _, _, _, ⟨_, _, _, _, rfl, attributes, content, rfl⟩, _, targeted, read⟩)
  | missing within address answer =>
      exact List.forall_mem_singleton.mpr (asking.asked keeps within address)
  | walked within address answer walk inductionHypothesis =>
      exact List.forall_mem_cons.mpr ⟨asking.asked keeps within address,
        inductionHypothesis (.walking (asking.walking_of_finds ⟨within, address, answer⟩))⟩
  | template walk inductionHypothesis =>
      obtain ⟨walking⟩ := asking
      exact inductionHypothesis (.walking (walking.part .template))

end

/-! Renders. -/

/-- A render is started for its nodes, for the content of an element, or for a block. -/
inductive Entry where
  | nodes
  | into (element : Element)
  | block (block : Element)

namespace Entry

/-- The scene in which the first template is addressed. -/
def addressed (renderer : Renderer) : Entry → Scene World → Scene World
  | .nodes, start | .into _, start => start
  | .block element, start =>
      { start with context := renderer.blockContext element start.context }

/-- The scene that the render leaves. -/
def leaves (renderer : Renderer) (host : Host World) : Entry → Scene World → Scene World
  | .nodes => Render.leaves (renderer.render host)
  | .into element => Render.leaves (renderer.renderInto host element)
  | .block element => Render.leaves (renderer.renderBlock host element)

theorem leaves_eq (entry : Entry) (start : Scene World) :
    entry.leaves renderer host start =
      Render.leaves (renderer.render host) (entry.addressed renderer start) := by
  have into (element : Element) (scene : Scene World) :
      Render.leaves (renderer.renderInto host element) scene =
        Render.leaves (renderer.render host) scene :=
    leaves_bind_pure _ _ _
  cases entry with
  | nodes => rfl
  | into element => exact into element start
  | block element =>
      have changed : changeContext (renderer.blockContext element) start =
          .ok () ((Entry.block element).addressed renderer start) := rfl
      exact (leaves_bind_of_ok changed _).trans (into element _)

theorem requested_addressed (entry : Entry) (start : Scene World) :
    (entry.addressed renderer start).requested = start.requested := by
  cases entry <;> rfl

end Entry

/-- Calls start and end in the file of their template, and includes look up its targets. -/
theorem includes_stay_inFile (renderer : Renderer) (host : Host World) (entry : Entry)
    (start : Scene World) (keeps : KeepsAddress renderer host (entry.addressed renderer start)) :
    (∀ key call scene, Walking renderer host (entry.addressed renderer start) key call scene →
      InFile key scene ∧ InFile key (leaves (call.action renderer host) scene) ∧
      ∀ attempt : Attempt host call scene,
        let includes := (Call.addressed (attempt.depth + 1)).action renderer host
        let behind := leaves (includeStage host includes attempt.tag) attempt.before
        InFile key attempt.asked ∧ InFile key behind ∧
        ∃ asked, behind.requested = attempt.before.requested ++ asked ∧
          asked.head? = if attempt.depth < renderer.config.maxIncludeDepth
            then some (key.included attempt.target) else none) ∧
    ∃ asked, (entry.leaves renderer host start).requested = start.requested ++ asked ∧
      ∀ key ∈ asked, Asked renderer host (entry.addressed renderer start) key := by
  constructor
  · intro key call scene walking
    have inFile := walking.inFile keeps
    refine ⟨inFile, walking.inFile_leaves keeps, fun attempt => ?_⟩
    have asked := attempt.inFile inFile
    intro includes behind
    have result : behind = _ := attempt.leaves_includeStage includes
    refine ⟨asked, ?_, ?_⟩
    · rw [result]
      exact ⟨asked.nonempty, asked.path⟩
    · rw [result, ← attempt.requested_asked]
      exact requested_addressed (attempt.address inFile)
  · obtain ⟨log, ending, runs⟩ := ends renderer host (.addressed 0) (entry.addressed renderer start)
    refine ⟨log.filterMap Event.key?, ?_, Asking.asked_of_runs keeps .origin runs⟩
    rw [entry.leaves_eq, ← action_addressed_zero, runs.leaves_eq, runs.requested,
      entry.requested_addressed]

/-! What a contract says of a walk. -/

namespace Contract

variable (contract : Contract renderer host) {key : TemplateKey} {call made : Call}
  {scene inner : Scene World}

/-- What a call leaves that a contract allows is as the contract has it. -/
theorem holds_of_ok (allowed : contract.Allows scene call) {nodes : List Node}
    (ran : call.action renderer host scene = .ok nodes inner) : contract.Holds inner := by
  obtain ⟨log, ending, runs⟩ := ends renderer host call scene
  have meets := contract.meets_of_runs runs allowed
  rw [runs.eq_action, ran] at meets
  exact meets.1

/-- A contract allows what an allowed call makes. -/
theorem allows_of_makes (allowed : contract.Allows scene call)
    (makes : Makes renderer host call scene made inner) : contract.Allows inner made := by
  cases makes with
  | template => exact allowed
  | comment => exact ⟨allowed.1, (List.forall_mem_cons.mp allowed.2).2⟩
  | text read => exact allowed.text read
  | element => exact ⟨allowed.1, allowed.2 _ List.mem_cons_self⟩
  | @sibling depth tag children _ _ _ _ first =>
      obtain ⟨here, behind⟩ := List.forall_mem_cons.mp allowed.2
      have element : contract.Allows scene (.element depth tag children) := ⟨allowed.1, here⟩
      exact ⟨contract.holds_of_ok element first, behind⟩
  | repeated tested search read => exact allowed.repeated tested search read
  | shown tested search => exact allowed.shown tested search
  | copy => exact allowed.copy
  | others first => exact allowed.others (contract.holds_of_ok allowed.copy first)
  | inside attributes content untargeted unwrap => exact allowed.inside attributes content unwrap

/-- An attempt is a call that the contract allows. -/
theorem allows_of_attempt (allowed : contract.Allows scene call)
    (attempt : Attempt host call scene) :
    contract.Allows (attempt.asked.including attempt.target) (.addressed (attempt.depth + 1)) := by
  obtain ⟨tag, children, written, first, called, attributes, content, same⟩ := attempt.reached
  obtain ⟨value, targeted, read⟩ := attempt.read
  rw [called] at allowed
  rw [same] at targeted
  exact (allowed.including attributes content targeted read).2

/-- A contract allows all that a render walks through. -/
theorem allows_of_walking (allowed : contract.Allows origin (.addressed 0))
    (walking : Walking renderer host origin key call scene) : contract.Allows scene call := by
  induction walking with
  | start finds => exact allowed.walked finds.address finds.answer
  | part walking makes inductionHypothesis =>
      exact contract.allows_of_makes inductionHypothesis makes
  | included walking attempt finds inductionHypothesis =>
      have addressed := contract.allows_of_attempt inductionHypothesis attempt
      exact addressed.walked finds.address finds.answer

end Contract

/-- The elements of a source write no address. Nothing is said of contexts and rendered nodes. -/
def unaddressed (renderer : Renderer) (host : Host World)
    (known : ∀ template, Cache.Offered host.fetching template →
      ∀ tag ∈ Node.tagsOf template.content, tag.KeepsAddress) : Contract renderer host where
  context _ := True
  addressed _ := True
  cache := Cache.Sound host.fetching
  fit node := ∀ tag ∈ node.tags, tag.KeepsAddress
  drawn _ := True
  done _ := True
  below fit child member tag among :=
    fit tag (List.mem_cons_of_mem _ (Node.mem_tagsOf.mpr ⟨child, member, among⟩))
  copied := by
    intro tag children directive fit search
    obtain ⟨here, inside⟩ := List.forall_mem_cons.mp fit
    exact List.forall_mem_cons.mpr ⟨(Tag.KeepsAddress.withoutGuard here).remove _, inside⟩
  found := by
    intro scope store key world template _ sound answered
    have kept := sound.resolve key world
    refine ⟨kept.1, fun node member tag among => ?_⟩
    have offered := (kept.1 key.id template (kept.2 template answered)).2
    exact known template offered tag (Node.mem_tagsOf.mpr ⟨node, member, among⟩)
  visitedText _ _ := trivial
  visited _ _ := trivial
  tested _ _ _ _ _ := trivial
  bound _ _ _ _ _ _ := trivial
  attributes _ _ _ _ _ := trivial
  removed _ _ := trivial
  content _ _ _ _ _ _ := trivial
  included _ _ _ _ := trivial
  entered _ _ := trivial
  text _ := trivial
  comment _ := trivial
  element _ _ := trivial
  finished _ _ _ := trivial

/-- Where no element of the source writes the address, no render walks through one that does. -/
theorem keepsAddress_of_offered (renderer : Renderer)
    (known : ∀ template, Cache.Offered host.fetching template →
      ∀ tag ∈ Node.tagsOf template.content, tag.KeepsAddress)
    (sound : origin.cache.Sound host.fetching) : KeepsAddress renderer host origin := by
  intro key depth tag children scene walking
  have allowed := (unaddressed renderer host known).allows_of_walking ⟨trivial, sound⟩ walking
  exact allowed.2 tag List.mem_cons_self

/-- Two files with fragments of one name that include each other's and their own. -/
def crossedFiles : List (String × String) :=
  [("/a", "<template><p data-fly-include='/b##c'></p>" ++
      "<i data-fly-repeat.x='xs' data-fly-include='$\x7bx\x7d'></i></template>" ++
      "<template data-fly-name='n'></template>"),
    ("/b", "<template><i data-fly-include='n'></i></template>" ++
      "<template data-fly-name='n'></template>")]

def crossedScene : Scene Unit where
  context := ((∅ : Context).setTemplate "/a" "").insert "xs" (.list [.string "n"])
  cache := .empty
  world := ()

/-- Behind the include of the other file, the item names a fragment of the first file again. -/
theorem includes_stay_inFile_crossedFiles :
    KeepsAddress {} (.holding crossedFiles) crossedScene ∧
    (Entry.nodes.leaves {} (.holding crossedFiles) crossedScene).requested =
      [⟨"/a", ""⟩, ⟨"/b", ""⟩, ⟨"/b", "n"⟩, ⟨"/a", "n"⟩] ∧
    ∀ key : TemplateKey, key ∈ [⟨"/b", ""⟩, ⟨"/b", "n"⟩, ⟨"/a", "n"⟩] →
      ∃ outer call scene, ∃ attempt : Attempt (.holding crossedFiles) call scene,
        Walking {} (.holding crossedFiles) crossedScene outer call scene ∧ InFile outer scene ∧
          key = outer.included attempt.target := by
  have known : ∀ template ∈ Host.templatesOf crossedFiles,
      ∀ tag ∈ Node.tagsOf template.content, tag.KeepsAddress := by decide +kernel
  have keeps : KeepsAddress {} (.holding crossedFiles) crossedScene :=
    keepsAddress_of_offered {}
      (fun template offered => known template (Host.mem_templatesOf_of_offered offered))
      (Cache.sound_empty _)
  obtain ⟨stays, asked, requested, each⟩ :=
    includes_stay_inFile {} (.holding crossedFiles) .nodes crossedScene keeps
  have keys : (Entry.nodes.leaves {} (.holding crossedFiles) crossedScene).requested =
      [⟨"/a", ""⟩, ⟨"/b", ""⟩, ⟨"/b", "n"⟩, ⟨"/a", "n"⟩] := by
    decide +kernel
  refine ⟨keeps, keys, fun key among => ?_⟩
  have later : key ∈ asked ∧ TemplateKey.ofContext? crossedScene.context
      (({} : Renderer).config.codeBasePath) ≠ some key := by
    rw [show asked = _ from requested.symm.trans keys]
    refine ⟨List.mem_cons_of_mem _ among, ?_⟩
    revert key
    decide +kernel
  cases each key later.1 with
  | origin address => exact absurd address later.2
  | included walking attempt within same =>
      exact ⟨_, _, _, attempt, walking, (stays _ _ _ walking).1, same⟩

end Renderer

end Stencil
