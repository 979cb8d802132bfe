import Stencil.Proofs.Render.InStep

/-! The calls of a render, with includes counted from the outside, and their logs. -/

namespace Stencil

variable {World : Type}

/-- The scene in the scope of an include that has found its key. -/
def Scene.addressing (scene : Scene World) (key : TemplateKey) : Scene World :=
  { scene with context := scene.context.setTemplate key.path key.name }

/-- The scene in the scope of an include with a target. -/
def Scene.including (scene : Scene World) (target : String) : Scene World :=
  scene.addressing (Render.includeKey scene.context target)

@[simp] theorem Scene.requested_visiting (scene : Scene World) (node : Node) :
    (scene.visiting node).requested = scene.requested := rfl

@[simp] theorem Scene.requested_addressing (scene : Scene World) (key : TemplateKey) :
    (scene.addressing key).requested = scene.requested := rfl

@[simp] theorem Scene.requested_including (scene : Scene World) (target : String) :
    (scene.including target).requested = scene.requested := rfl

namespace Renderer

/-- The calls of a render, each with the number of includes around it. -/
inductive Call where
  | addressed (depth : Nat)
  | template (depth : Nat) (template : Template)
  | nodes (depth : Nat) (nodes : List Node)
  | element (depth : Nat) (tag : Tag) (children : List Node)
  | copies (depth : Nat) (tag : Tag) (children : List Node) (name : String) (position : Nat)
      (entries : List (String × Value))
  | content (depth : Nat) (tag : Tag) (children : List Node)

/-- What becomes of the template that a context addresses. -/
inductive Event where
  | refused (depth : Nat)
  | unaddressed (depth : Nat)
  | missing (depth : Nat) (key : TemplateKey)
  | walked (depth : Nat) (key : TemplateKey)

namespace Event

/-- How many includes are around an event. -/
def depth : Event → Nat
  | refused depth | unaddressed depth => depth
  | missing depth _ | walked depth _ => depth

/-- Whether an include was too deep. -/
def isRefusal : Event → Bool
  | refused _ => true
  | _ => false

/-- The key that is looked up. -/
def key? : Event → Option TemplateKey
  | refused _ | unaddressed _ => none
  | missing _ key | walked _ key => some key

end Event

/-- How a call ends: with nodes or for a cause, and in a scene. -/
abbrev Ending (World : Type) := EStateM.Result TemplateError (Scene World) (List Node)

namespace Ending

/-- Nodes that a call gave are changed, and failures are kept. -/
def rework (change : List Node → List Node) : Ending World → Ending World
  | .ok nodes after => .ok (change nodes) after
  | .error cause after => .error cause after

def scene : Ending World → Scene World
  | .ok _ after => after
  | .error _ after => after

@[simp] theorem rework_ok (change : List Node → List Node) (nodes : List Node)
    (after : Scene World) : rework change (.ok nodes after) = .ok (change nodes) after := rfl

@[simp] theorem rework_error (change : List Node → List Node) (cause : TemplateError)
    (after : Scene World) : rework change (.error cause after) = .error cause after := rfl

@[simp] theorem scene_ok (nodes : List Node) (after : Scene World) :
    scene (.ok nodes after) = after := rfl

@[simp] theorem scene_error (cause : TemplateError) (after : Scene World) :
    scene (.error cause after) = after := rfl

/-- Changing the nodes leaves the scene alone. -/
@[simp] theorem scene_rework (change : List Node → List Node) (ending : Ending World) :
    (ending.rework change).scene = ending.scene := by
  cases ending <;> rfl

end Ending

/-- A call runs from a scene to an ending, with a log of what is addressed. -/
inductive Runs (renderer : Renderer) (host : Host World) :
    Call → Scene World → List Event → Ending World → Prop
  | noNodes {depth : Nat} {scene : Scene World} :
      Runs renderer host (.nodes depth []) scene [] (.ok [] scene)
  | comment {depth : Nat} {content : String} {rest : List Node} {scene : Scene World}
      {log : List Event} {ending : Ending World}
      (others : Runs renderer host (.nodes depth rest) scene log ending) :
      Runs renderer host (.nodes depth (.comment content :: rest)) scene log
        (ending.rework (.comment content :: ·))
  | text {depth : Nat} {content written : String} {rest : List Node} {scene after : Scene World}
      {log : List Event} {ending : Ending World}
      (read : Render.interpolate host content (scene.visiting (.text content)) =
        .ok written after)
      (others : Runs renderer host (.nodes depth rest) after log ending) :
      Runs renderer host (.nodes depth (.text content :: rest)) scene log
        (ending.rework (.text written :: ·))
  | element {depth : Nat} {tag : Tag} {children rest nodes : List Node}
      {scene after : Scene World} {log more : List Event} {ending : Ending World}
      (first : Runs renderer host (.element depth tag children) scene log (.ok nodes after))
      (others : Runs renderer host (.nodes depth rest) after more ending) :
      Runs renderer host (.nodes depth (.element tag children :: rest)) scene (log ++ more)
        (ending.rework (nodes ++ ·))
  | elementFails {depth : Nat} {tag : Tag} {children rest : List Node}
      {scene after : Scene World} {log : List Event} {cause : TemplateError}
      (first : Runs renderer host (.element depth tag children) scene log (.error cause after)) :
      Runs renderer host (.nodes depth (.element tag children :: rest)) scene log
        (.error cause after)
  | hidden {depth : Nat} {tag : Tag} {children : List Node} {scene after : Scene World}
      (tested : Render.passes host tag.guard? (scene.visiting (.element tag [])) =
        .ok false after) :
      Runs renderer host (.element depth tag children) scene [] (.ok [] after)
  | repeated {depth : Nat} {tag : Tag} {children : List Node} {directive : Qualified}
      {entries : List (String × Value)} {scene inner after : Scene World} {log : List Event}
      {ending : Ending World}
      (tested : Render.passes host tag.guard? (scene.visiting (.element tag [])) =
        .ok true inner)
      (search : tag.withoutGuard.repeat? = some directive)
      (read : Render.repeatEntries host directive inner = .ok entries after)
      (each : Runs renderer host
        (.copies depth (tag.withoutGuard.remove directive.name) children
          (Render.itemName directive) 0 entries) after log ending) :
      Runs renderer host (.element depth tag children) scene log ending
  | shown {depth : Nat} {tag : Tag} {children : List Node} {scene inner : Scene World}
      {log : List Event} {ending : Ending World}
      (tested : Render.passes host tag.guard? (scene.visiting (.element tag [])) =
        .ok true inner)
      (search : tag.withoutGuard.repeat? = none)
      (behind : Runs renderer host (.content depth tag.withoutGuard children) inner log ending) :
      Runs renderer host (.element depth tag children) scene log ending
  | noCopies {depth : Nat} {tag : Tag} {children : List Node} {name : String} {position : Nat}
      {scene : Scene World} :
      Runs renderer host (.copies depth tag children name position []) scene [] (.ok [] scene)
  | copy {depth : Nat} {tag : Tag} {children nodes : List Node} {name : String} {position : Nat}
      {entry : String × Value} {rest : List (String × Value)} {scene inner : Scene World}
      {log more : List Event} {ending : Ending World}
      (first : Runs renderer host (.element depth tag children)
        { scene with context := Render.bindItem name position entry scene.context } log
        (.ok nodes inner))
      (others : Runs renderer host (.copies depth tag children name (position + 1) rest)
        { inner with context := scene.context } more ending) :
      Runs renderer host (.copies depth tag children name position (entry :: rest)) scene
        (log ++ more) (ending.rework (nodes ++ ·))
  | copyFails {depth : Nat} {tag : Tag} {children : List Node} {name : String} {position : Nat}
      {entry : String × Value} {rest : List (String × Value)} {scene inner : Scene World}
      {log : List Event} {cause : TemplateError}
      (first : Runs renderer host (.element depth tag children)
        { scene with context := Render.bindItem name position entry scene.context } log
        (.error cause inner)) :
      Runs renderer host (.copies depth tag children name position (entry :: rest)) scene log
        (.error cause { inner with context := scene.context })
  | filled {depth : Nat} {tag written last : Tag} {children nodes : List Node}
      {scene first second after : Scene World}
      (attributes : Render.attributeStage host tag scene = .ok written first)
      (content : Render.contentStage host written first = .ok (some nodes) second)
      (unwrap : Render.unwrapStage host
        ((written.remove Directive.content).remove Directive.included) second = .ok last after) :
      Runs renderer host (.content depth tag children) scene [] (.ok [.element last nodes] after)
  | kept {depth : Nat} {tag written last : Tag} {children : List Node}
      {scene first second third : Scene World} {log : List Event} {ending : Ending World}
      (attributes : Render.attributeStage host tag scene = .ok written first)
      (content : Render.contentStage host written first = .ok none second)
      (untargeted : (written.remove Directive.content).get? Directive.included = none)
      (unwrap : Render.unwrapStage host
        ((written.remove Directive.content).remove Directive.included) second = .ok last third)
      (inside : Runs renderer host (.nodes depth children) third log ending) :
      Runs renderer host (.content depth tag children) scene log
        (ending.rework ([.element last ·]))
  | including {depth : Nat} {tag written last : Tag} {children nodes : List Node}
      {value target : String} {scene first second third inner after : Scene World}
      {log : List Event}
      (attributes : Render.attributeStage host tag scene = .ok written first)
      (content : Render.contentStage host written first = .ok none second)
      (targeted : (written.remove Directive.content).get? Directive.included = some value)
      (read : Render.interpolate host value second = .ok target third)
      (deeper : Runs renderer host (.addressed (depth + 1)) (third.including target) log
        (.ok nodes inner))
      (unwrap : Render.unwrapStage host
        ((written.remove Directive.content).remove Directive.included)
          { inner with context := third.context } = .ok last after) :
      Runs renderer host (.content depth tag children) scene log (.ok [.element last nodes] after)
  | includingFails {depth : Nat} {tag written : Tag} {children : List Node}
      {value target : String} {scene first second third inner : Scene World}
      {log : List Event} {cause : TemplateError}
      (attributes : Render.attributeStage host tag scene = .ok written first)
      (content : Render.contentStage host written first = .ok none second)
      (targeted : (written.remove Directive.content).get? Directive.included = some value)
      (read : Render.interpolate host value second = .ok target third)
      (deeper : Runs renderer host (.addressed (depth + 1)) (third.including target) log
        (.error cause inner)) :
      Runs renderer host (.content depth tag children) scene log
        (.error cause { inner with context := third.context })
  | refused {depth : Nat} {scene : Scene World}
      (tooDeep : renderer.config.maxIncludeDepth < depth) :
      Runs renderer host (.addressed depth) scene [.refused depth]
        (.error (.includeDepthExceeded renderer.config.maxIncludeDepth) scene)
  | unaddressed {depth : Nat} {scene : Scene World}
      (within : depth ≤ renderer.config.maxIncludeDepth)
      (address : TemplateKey.ofContext? scene.context renderer.config.codeBasePath = none) :
      Runs renderer host (.addressed depth) scene [.unaddressed depth]
        (.error .missingBlockName scene)
  | missing {depth : Nat} {key : TemplateKey} {scene after : Scene World}
      {cause : TemplateError}
      (within : depth ≤ renderer.config.maxIncludeDepth)
      (address : TemplateKey.ofContext? scene.context renderer.config.codeBasePath = some key)
      (answer : Render.lookUp host key (scene.addressing key) = .error cause after) :
      Runs renderer host (.addressed depth) scene [.missing depth key] (.error cause after)
  | walked {depth : Nat} {key : TemplateKey} {template : Template} {scene inner : Scene World}
      {log : List Event} {ending : Ending World}
      (within : depth ≤ renderer.config.maxIncludeDepth)
      (address : TemplateKey.ofContext? scene.context renderer.config.codeBasePath = some key)
      (answer : Render.lookUp host key (scene.addressing key) = .ok template inner)
      (walk : Runs renderer host (.template depth template) inner log ending) :
      Runs renderer host (.addressed depth) scene (.walked depth key :: log) ending
  | template {depth : Nat} {template : Template} {scene : Scene World} {log : List Event}
      {ending : Ending World}
      (walk : Runs renderer host (.nodes depth template.content) scene log ending) :
      Runs renderer host (.template depth template) scene log (ending.rework renderer.finish)

/-- What a call does. -/
def Call.action (renderer : Renderer) (host : Host World) : Call → Render World (List Node)
  | .addressed depth =>
      renderer.includesWithin host (renderer.config.maxIncludeDepth + 1 - depth)
  | .template depth fragment =>
      renderer.renderWithin host (renderer.config.maxIncludeDepth - depth) fragment
  | .nodes depth siblings =>
      Render.renderNodes host
        (renderer.includesWithin host (renderer.config.maxIncludeDepth - depth)) siblings
  | .element depth tag children =>
      let includes := renderer.includesWithin host (renderer.config.maxIncludeDepth - depth)
      Render.renderElement host includes (Render.renderNodes host includes children) tag
  | .copies depth tag children name position entries =>
      let includes := renderer.includesWithin host (renderer.config.maxIncludeDepth - depth)
      Render.copies name
        (Render.renderElement host includes (Render.renderNodes host includes children) tag)
        position entries
  | .content depth tag children => do
      let includes := renderer.includesWithin host (renderer.config.maxIncludeDepth - depth)
      let node ← Render.renderContent host includes (Render.renderNodes host includes children) tag
      return [node]

/-- A whole render is the template that its context addresses. -/
theorem action_addressed_zero (renderer : Renderer) (host : Host World) :
    (Call.addressed 0).action renderer host = renderer.render host := rfl

/-- A whole template is rendered without an include around it. -/
theorem action_template_zero (renderer : Renderer) (host : Host World) (template : Template) :
    (Call.template 0 template).action renderer host = renderer.renderTemplate host template := rfl

end Renderer

namespace Render

open Renderer

/-- Nodes are reworked behind an action that gives them. -/
theorem bind_pure_eq_rework (action : Render World (List Node)) (change : List Node → List Node)
    (scene : Scene World) :
    (action >>= fun nodes => pure (change nodes)) scene =
      Ending.rework change (action scene) := by
  cases ran : action scene with
  | ok nodes after => exact bind_of_ok ran _
  | error cause after => exact bind_of_error ran _

theorem inScope_of_ok (change : Context → Context) {action : Render World (List Node)}
    {scene inner : Scene World} {nodes : List Node}
    (ran : action { scene with context := change scene.context } = .ok nodes inner) :
    inScope change action scene = .ok nodes { inner with context := scene.context } := by
  rw [inScope, ran]

theorem inScope_of_error (change : Context → Context) {action : Render World (List Node)}
    {scene inner : Scene World} {cause : TemplateError}
    (ran : action { scene with context := change scene.context } = .error cause inner) :
    inScope change action scene = .error cause { inner with context := scene.context } := by
  rw [inScope, ran]

end Render

namespace Renderer

open Render

variable {renderer : Renderer} {host : Host World}

theorem setCurrentNode_run (node : Node) (scene : Scene World) :
    setCurrentNode node scene = .ok () (scene.visiting node) := rfl

theorem action_nodes_text (depth : Nat) (content : String) (rest : List Node) :
    (Call.nodes depth (.text content :: rest)).action renderer host = do
      setCurrentNode (.text content)
      let written ← interpolate host content
      let others ← (Call.nodes depth rest).action renderer host
      return .text written :: others := by
  simp only [Call.action, renderNodes, renderNode, bind_assoc, pure_bind]
  rfl

theorem action_nodes_element (depth : Nat) (tag : Tag) (children rest : List Node) :
    (Call.nodes depth (.element tag children :: rest)).action renderer host = do
      let first ← (Call.element depth tag children).action renderer host
      let others ← (Call.nodes depth rest).action renderer host
      return first ++ others := by
  simp only [Call.action, renderNodes, renderNode]

/-- An element is tested, and then repeated or rendered once. -/
theorem action_element (depth : Nat) (tag : Tag) (children : List Node) :
    (Call.element depth tag children).action renderer host = do
      setCurrentNode (.element tag [])
      let passed ← passes host tag.guard?
      if passed then
        match tag.withoutGuard.repeat? with
        | some directive => do
            let entries ← repeatEntries host directive
            (Call.copies depth (tag.withoutGuard.remove directive.name) children
              (itemName directive) 0 entries).action renderer host
        | none => (Call.content depth tag.withoutGuard children).action renderer host
      else return [] :=
  renderElement_eq host _ _ tag

/-- The first copy is rendered in the scope of its item. -/
theorem action_copies_cons (depth : Nat) (tag : Tag) (children : List Node) (name : String)
    (position : Nat) (entry : String × Value) (rest : List (String × Value)) :
    (Call.copies depth tag children name position (entry :: rest)).action renderer host = do
      let first ← inScope (bindItem name position entry)
        ((Call.element depth tag children).action renderer host)
      let others ← (Call.copies depth tag children name (position + 1) rest).action renderer host
      return first ++ others := rfl

/-- The include of a call, which has the next depth. -/
theorem action_addressed_succ (depth : Nat) :
    (Call.addressed (depth + 1)).action renderer host =
      renderer.includesWithin host (renderer.config.maxIncludeDepth - depth) := by
  rw [Call.action, Nat.add_sub_add_right]

theorem action_addressed_of_lt {depth : Nat} (tooDeep : renderer.config.maxIncludeDepth < depth) :
    (Call.addressed depth).action renderer host =
      throw (.includeDepthExceeded renderer.config.maxIncludeDepth) := by
  rw [Call.action, Nat.sub_eq_zero_of_le (Nat.succ_le_of_lt tooDeep), includesWithin]

theorem action_addressed_of_le {depth : Nat} (within : depth ≤ renderer.config.maxIncludeDepth) :
    (Call.addressed depth).action renderer host = (do
      let template ← renderer.resolveTemplate host
      (Call.template depth template).action renderer host) := by
  rw [Call.action, Nat.succ_sub within, includesWithin]
  rfl

theorem resolveTemplate_of_none {scene : Scene World}
    (address : TemplateKey.ofContext? scene.context renderer.config.codeBasePath = none) :
    renderer.resolveTemplate host scene = .error .missingBlockName scene := by
  have asked : ask (fun context => TemplateKey.ofContext? context renderer.config.codeBasePath)
      scene = .ok (α := Option TemplateKey) none scene := by
    rw [← address]
    rfl
  rw [resolveTemplate, bind_of_ok asked]
  rfl

/-- The key of a template is looked up in a scene that addresses it. -/
theorem resolveTemplate_of_some {scene : Scene World} {key : TemplateKey}
    (address : TemplateKey.ofContext? scene.context renderer.config.codeBasePath = some key) :
    renderer.resolveTemplate host scene = lookUp host key (scene.addressing key) := by
  have asked : ask (fun context => TemplateKey.ofContext? context renderer.config.codeBasePath)
      scene = .ok (some key) scene := by
    rw [← address]
    rfl
  rw [resolveTemplate, bind_of_ok asked]
  rfl

/-- The stages in front of the content of an element. -/
theorem content_of_filled {depth : Nat} {tag written last : Tag} {children nodes : List Node}
    {scene first second after : Scene World}
    (attributes : attributeStage host tag scene = .ok written first)
    (content : contentStage host written first = .ok (some nodes) second)
    (unwrap : unwrapStage host
      ((written.remove Directive.content).remove Directive.included) second = .ok last after) :
    (Call.content depth tag children).action renderer host scene =
      .ok [.element last nodes] after := by
  simp only [Call.action, renderContent, prepare, bind_assoc, bind_of_ok attributes,
    bind_of_ok content, pure_bind, bind_of_ok unwrap]
  rfl

/-- Without content of its own or an include, an element keeps its children. -/
theorem content_of_kept {depth : Nat} {tag written last : Tag} {children : List Node}
    {scene first second third : Scene World}
    (attributes : attributeStage host tag scene = .ok written first)
    (content : contentStage host written first = .ok none second)
    (untargeted : (written.remove Directive.content).get? Directive.included = none)
    (unwrap : unwrapStage host
      ((written.remove Directive.content).remove Directive.included) second = .ok last third) :
    (Call.content depth tag children).action renderer host scene =
      Ending.rework ([.element last ·])
        ((Call.nodes depth children).action renderer host third) := by
  rw [← bind_pure_eq_rework]
  simp only [Call.action, renderContent, prepare, bind_assoc, bind_of_ok attributes,
    bind_of_ok content, pure_bind, includeStage, untargeted, bind_of_ok unwrap]

section

variable {depth : Nat} {tag written : Tag} {children : List Node} {value target : String}
  {scene first second third inner : Scene World}
  (attributes : attributeStage host tag scene = .ok written first)
  (content : contentStage host written first = .ok none second)
  (targeted : (written.remove Directive.content).get? Directive.included = some value)
  (read : interpolate host value second = .ok target third)

include attributes content targeted read

/-- An include that succeeds becomes the content. -/
theorem content_of_including {nodes : List Node} {last : Tag} {after : Scene World}
    (deeper : (Call.addressed (depth + 1)).action renderer host (third.including target) =
      .ok nodes inner)
    (unwrap : unwrapStage host ((written.remove Directive.content).remove Directive.included)
      { inner with context := third.context } = .ok last after) :
    (Call.content depth tag children).action renderer host scene =
      .ok [.element last nodes] after := by
  rw [action_addressed_succ] at deeper
  have entered := inScope_of_ok (fun context =>
    context.setTemplate (includeKey context target).path (includeKey context target).name) deeper
  simp only [Call.action, renderContent, prepare, bind_assoc, bind_of_ok attributes,
    bind_of_ok content, pure_bind, includeStage, targeted, bind_of_ok read, bind_of_ok entered,
    bind_of_ok unwrap]
  rfl

/-- An include that fails makes the element fail. -/
theorem content_of_includingFails {cause : TemplateError}
    (deeper : (Call.addressed (depth + 1)).action renderer host (third.including target) =
      .error cause inner) :
    (Call.content depth tag children).action renderer host scene =
      .error cause { inner with context := third.context } := by
  rw [action_addressed_succ] at deeper
  have entered := inScope_of_error (fun context =>
    context.setTemplate (includeKey context target).path (includeKey context target).name) deeper
  simp only [Call.action, renderContent, prepare, bind_assoc, bind_of_ok attributes,
    bind_of_ok content, pure_bind, includeStage, targeted, bind_of_ok read]
  exact bind_of_error entered _

end

/-- A run ends as the call does. -/
theorem Runs.eq_action {call : Call} {scene : Scene World} {log : List Event}
    {ending : Ending World} (runs : Runs renderer host call scene log ending) :
    ending = call.action renderer host scene := by
  induction runs with
  | noNodes => rfl
  | comment others inductionHypothesis =>
      rw [inductionHypothesis, ← bind_pure_eq_rework]
      rfl
  | text read others inductionHypothesis =>
      rw [inductionHypothesis, action_nodes_text, bind_of_ok (setCurrentNode_run _ _),
        bind_of_ok read, bind_pure_eq_rework]
  | element first others firstHypothesis othersHypothesis =>
      rw [othersHypothesis, action_nodes_element, bind_of_ok firstHypothesis.symm,
        bind_pure_eq_rework]
  | elementFails first inductionHypothesis =>
      rw [action_nodes_element, bind_of_error inductionHypothesis.symm]
  | hidden tested =>
      rw [action_element, bind_of_ok (setCurrentNode_run _ _), bind_of_ok tested]
      rfl
  | repeated tested search read each inductionHypothesis =>
      rw [inductionHypothesis, action_element, bind_of_ok (setCurrentNode_run _ _),
        bind_of_ok tested, if_pos rfl, search]
      exact (bind_of_ok read _).symm
  | shown tested search behind inductionHypothesis =>
      rw [inductionHypothesis, action_element, bind_of_ok (setCurrentNode_run _ _),
        bind_of_ok tested, if_pos rfl, search]
  | noCopies => rfl
  | copy first others firstHypothesis othersHypothesis =>
      rw [othersHypothesis, action_copies_cons,
        bind_of_ok (inScope_of_ok _ firstHypothesis.symm), bind_pure_eq_rework]
  | copyFails first inductionHypothesis =>
      rw [action_copies_cons, bind_of_error (inScope_of_error _ inductionHypothesis.symm)]
  | filled attributes content unwrap => rw [content_of_filled attributes content unwrap]
  | kept attributes content untargeted unwrap inside inductionHypothesis =>
      rw [inductionHypothesis, content_of_kept attributes content untargeted unwrap]
  | including attributes content targeted read deeper unwrap inductionHypothesis =>
      rw [content_of_including attributes content targeted read inductionHypothesis.symm unwrap]
  | includingFails attributes content targeted read deeper inductionHypothesis =>
      rw [content_of_includingFails attributes content targeted read inductionHypothesis.symm]
  | refused tooDeep =>
      rw [action_addressed_of_lt tooDeep]
      rfl
  | unaddressed within address =>
      rw [action_addressed_of_le within, bind_of_error (resolveTemplate_of_none address)]
  | missing within address answer =>
      rw [action_addressed_of_le within,
        bind_of_error ((resolveTemplate_of_some address).trans answer)]
  | walked within address answer walk inductionHypothesis =>
      rw [inductionHypothesis, action_addressed_of_le within,
        bind_of_ok ((resolveTemplate_of_some address).trans answer)]
  | template walk inductionHypothesis =>
      rw [inductionHypothesis, ← bind_pure_eq_rework, Call.action, Call.action, renderWithin_eq]

end Renderer

end Stencil
