import Mathlib.Data.List.Nodup
import Stencil.Proofs.Expression.Data
import Stencil.Proofs.Render.Contract

/-! Renders fail where an include fails, and nowhere else. -/

namespace Stencil

variable {World : Type}

namespace Node

/-- A node stands among some nodes or below one of them. -/
inductive Within (node : Node) : List Node → Prop
  | here {rest : List Node} : Within node (node :: rest)
  | behind {other : Node} {rest : List Node} (within : Within node rest) :
      Within node (other :: rest)
  | inside {tag : Tag} {children rest : List Node} (within : Within node children) :
      Within node (.element tag children :: rest)

theorem within_of_mem {node : Node} {nodes : List Node} (member : node ∈ nodes) :
    Within node nodes := by
  induction member with
  | head => exact .here
  | tail _ _ inductionHypothesis => exact .behind inductionHypothesis

theorem Within.child {tag : Tag} {children nodes : List Node}
    (within : Within (.element tag children) nodes) {child : Node} (member : child ∈ children) :
    Within child nodes := by
  induction within with
  | here => exact .inside (within_of_mem member)
  | behind _ inductionHypothesis => exact .behind inductionHypothesis
  | inside _ inductionHypothesis => exact .inside inductionHypothesis

/-- The tag of an element within a list is among its tags. -/
theorem Within.mem_tagsOf {tag : Tag} {children nodes : List Node}
    (within : Within (.element tag children) nodes) : tag ∈ tagsOf nodes := by
  induction within with
  | here => exact List.mem_cons_self
  | behind _ inductionHypothesis => exact List.mem_append_right _ inductionHypothesis
  | inside _ inductionHypothesis =>
      exact List.mem_append_left _ (List.mem_cons_of_mem _ inductionHypothesis)

/-- A node of a template as it is walked: tests and repeats may have taken attributes off it. -/
def Walked (content : List Node) : Node → Prop
  | .element tag children => ∃ whole, Within (.element whole children) content ∧
      tag.name = whole.name ∧ tag.attributes.entries.Sublist whole.attributes.entries
  | .text written => Within (.text written) content
  | .comment written => Within (.comment written) content

/-- What is within a template is walked as it is. -/
theorem walked_of_within {node : Node} {content : List Node} (within : Within node content) :
    Walked content node := by
  cases node with
  | element tag children => exact ⟨tag, within, rfl, .refl _⟩
  | text written => exact within
  | comment written => exact within

end Node

theorem Tag.entries_remove_sublist (tag : Tag) (name : String) :
    (tag.remove name).attributes.entries.Sublist tag.attributes.entries := List.filter_sublist

theorem Tag.entries_withoutGuard_sublist (tag : Tag) :
    tag.withoutGuard.attributes.entries.Sublist tag.attributes.entries := by
  unfold withoutGuard
  split
  · exact tag.entries_remove_sublist _
  · exact .refl _

namespace Node.Walked

open Node

variable {content : List Node} {tag : Tag} {children : List Node}

theorem child (walked : Walked content (.element tag children)) :
    ∀ child ∈ children, Walked content child := by
  obtain ⟨whole, within, -, -⟩ := walked
  exact fun child member => walked_of_within (within.child member)

theorem copied (walked : Walked content (.element tag children)) (name : String) :
    Walked content (.element (tag.withoutGuard.remove name) children) := by
  obtain ⟨whole, within, named, fewer⟩ := walked
  refine ⟨whole, within, tag.name_withoutGuard.trans named, ?_⟩
  exact (Tag.entries_remove_sublist _ name).trans (tag.entries_withoutGuard_sublist.trans fewer)

/-- A walked element has no other attributes than the template gives it. -/
theorem mem_keys (walked : Walked content (.element tag children)) {name : String}
    (member : name ∈ tag.attributes.keys) :
    ∃ whole ∈ tagsOf content, name ∈ whole.attributes.keys := by
  obtain ⟨whole, within, -, fewer⟩ := walked
  exact ⟨whole, within.mem_tagsOf, (fewer.map Prod.fst).subset member⟩

end Node.Walked

namespace Render

/-- The contexts in which the expressions of a template may be evaluated. -/
inductive Scope (answering : Answering World) (content : List Node) (start : Context) :
    Context → Prop
  | start : Scope answering content start start
  | visitedText {written : String} {context : Context}
      (walked : Node.Walked content (.text written))
      (inside : Scope answering content start context) :
      Scope answering content start (context.setCurrentNode (.text written))
  | visited {tag : Tag} {children : List Node} {context : Context}
      (walked : Node.Walked content (.element tag children))
      (inside : Scope answering content start context) :
      Scope answering content start (context.setCurrentNode (.element tag []))
  | tested {tag : Tag} {children : List Node} {guard : Qualified} {name : String}
      {context : Context} (passed : Bool) (walked : Node.Walked content (.element tag children))
      (search : tag.guard? = some guard) (qualified : guard.qualifier = some name)
      (inside : Scope answering content start context) :
      Scope answering content start (context.insert (Text.lowerCase name) (.bool passed))
  | bound {tag : Tag} {children : List Node} {directive : Qualified} {context : Context}
      {world : World} {value : Value} {collection : Collection} {position : Nat}
      {entry : String × Value} (walked : Node.Walked content (.element tag children))
      (search : tag.withoutGuard.repeat? = some directive)
      (evaluated : (answering.evaluate context directive.expression world).1 = some value)
      (collected : value.collection? = some collection)
      (listed : collection.entries[position]? = some entry)
      (inside : Scope answering content start context) :
      Scope answering content start (bindItem (itemName directive) position entry context)

/-- No map that an expression can reach has a key that is an include in any case. -/
def Unlaid (answering : Answering World) (content : List Node) (start : Context) : Prop :=
  ∀ context, Scope answering content start context → ∀ expression world entries,
    (answering.evaluate context expression world).1 = some (.map entries) →
      ∀ entry ∈ entries.entries, entry.1.toLower ≠ Directive.included

/-- Values and resolvers without a map that has such a key. -/
def unlaidMaterial : Material where
  keys key := key.toLower ≠ Directive.included
  nodes _ := True
  resolvers := True

/-- The conditions on what brings no include are kept by every member. -/
theorem closed_unlaidMaterial : unlaidMaterial.Closed where
  child _ _ _ := trivial
  data _ entry member := by
    intro same
    have dashless := Text.dash_notMem_toLower (Dataset.dash_notMem_of_mem_entries member)
    rw [same] at dashless
    exact dashless (by decide)

/-- What is bound in the scopes of a template is made of what the context starts with. -/
theorem Scope.made {answering : Answering World} (answers : unlaidMaterial.Answers answering)
    {content : List Node} {start context : Context}
    (made : ∀ key value, start.get? key = some value → value.Made unlaidMaterial)
    (scope : Scope answering content start context) :
    ∀ key value, context.get? key = some value → value.Made unlaidMaterial := by
  have inserted {context : Context}
      (held : ∀ key value, context.get? key = some value → value.Made unlaidMaterial) (key : String)
      {value : Value} (allowed : value.Made unlaidMaterial) :
      ∀ query found, (context.insert key value).get? query = some found →
        found.Made unlaidMaterial :=
    OrderedMap.forall_get?_insert held allowed
  induction scope with
  | start => exact made
  | visitedText walked inside inductionHypothesis | visited walked inside inductionHypothesis =>
      exact inserted inductionHypothesis _ (.node trivial)
  | tested passed walked search qualified inside inductionHypothesis =>
      exact inserted inductionHypothesis _ (.bool passed)
  | @bound _ _ _ _ _ _ _ position entry walked search evaluated collected listed inside
      inductionHypothesis =>
      have whole := Context.made_evaluate closed_unlaidMaterial answers
        (fun key _ => inductionHypothesis key) evaluated
      have item := whole.collection? collected entry (List.mem_of_getElem? listed)
      exact inserted (inserted (inserted (inserted inductionHypothesis _ item) _
        (.number (.ofNat position))) _ (.number (.ofNat (position + 1)))) _ (.string entry.1)

/-- Maps of the context and of the answers of resolvers without such a key are enough. -/
theorem unlaid_of_made {answering : Answering World} (answers : unlaidMaterial.Answers answering)
    {start : Context}
    (made : ∀ key value, start.get? key = some value → value.Made unlaidMaterial)
    (content : List Node) : Unlaid answering content start := by
  intro context scope expression world entries evaluated
  have whole := Context.made_evaluate closed_unlaidMaterial answers
    (fun key _ => scope.made answers made key) evaluated
  cases whole with
  | map named each => exact named

end Render

namespace Renderer

open Render

/-- Templates without includes, on data that brings none. -/
def includeFree (renderer : Renderer) (host : Host World) (content : List Node) (start : Context)
    (bare : ∀ tag ∈ Node.tagsOf content, tag.has Directive.included = false)
    (unlaid : Unlaid host.answering content start) : Contract renderer host where
  context := Scope host.answering content start
  addressed _ := False
  cache _ := True
  fit := Node.Walked content
  drawn tag := Directive.included ∉ tag.attributes.keys
  done _ := True
  below := Node.Walked.child
  copied walked _ := walked.copied _
  visitedText := .visitedText
  visited := .visited
  tested := .tested
  bound walked search inside evaluated collected listed :=
    .bound walked search evaluated collected listed inside
  attributes := by
    intro tag children entries value? scope walked _ inside names laid member
    rcases mem_keys_overlay member with written | ⟨map, rfl, entry, among, named⟩
    · have kept : Directive.included ∈
          (tag.withoutGuard.remove Directive.attributes).attributes.keys := names ▸ written
      have held := tag.keys_withoutGuard_subset (Tag.mem_keys_remove.mp kept).1
      obtain ⟨whole, inTemplate, there⟩ := walked.mem_keys held
      have missing := bare whole inTemplate
      rw [Tag.has, OrderedMap.contains_eq_isSome_get?] at missing
      obtain ⟨value, found⟩ := OrderedMap.mem_keys_iff.mp there
      rw [found] at missing
      cases missing
    · obtain ⟨expression, world, -, evaluated⟩ := laid _ rfl
      exact unlaid scope inside expression world map evaluated entry among named
  removed name absent member := absent (Tag.mem_keys_remove.mp member).1
  content _ _ _ _ _ _ := trivial
  included _ absent held _ := absent (OrderedMap.mem_keys_iff.mpr ⟨_, held⟩)
  entered impossible := impossible.elim
  found impossible := impossible.elim
  text _ := trivial
  comment _ := trivial
  element _ _ := trivial
  finished _ _ _ := trivial

variable {renderer : Renderer} {host : Host World}

/-- A template without includes gives nodes. -/
theorem renderTemplate_of_includeFree {template : Template} {scene : Scene World}
    (bare : ∀ tag ∈ Node.tagsOf template.content, tag.has Directive.included = false)
    (unlaid : Unlaid host.answering template.content scene.context) :
    ∃ nodes after, renderer.renderTemplate host template scene = .ok nodes after := by
  have meets := (includeFree renderer host template.content scene.context bare
    unlaid).meets_renderTemplate (fun node member => Node.walked_of_within
      (Node.within_of_mem member)) .start trivial
  cases ran : renderer.renderTemplate host template scene with
  | ok nodes after => exact ⟨nodes, after, rfl⟩
  | error cause after =>
      rw [ran] at meets
      obtain ⟨scope, impossible⟩ := meets
      exact impossible.elim

/-- An include fails by itself: it is too deep, not addressed, or looked up in vain. -/
inductive FailsAs (renderer : Renderer) (host : Host World) :
    Event → Scene World → TemplateError → Scene World → Prop
  | refused {depth : Nat} {scene : Scene World}
      (tooDeep : renderer.config.maxIncludeDepth < depth) :
      FailsAs renderer host (.refused depth) scene
        (.includeDepthExceeded renderer.config.maxIncludeDepth) scene
  | unaddressed {depth : Nat} {scene : Scene World}
      (within : depth ≤ renderer.config.maxIncludeDepth)
      (address : TemplateKey.ofContext? scene.context renderer.config.codeBasePath = none) :
      FailsAs renderer host (.unaddressed depth) scene .missingBlockName scene
  | missing {depth : Nat} {key : TemplateKey} {scene after : Scene World} {cause : TemplateError}
      (within : depth ≤ renderer.config.maxIncludeDepth)
      (address : TemplateKey.ofContext? scene.context renderer.config.codeBasePath = some key)
      (answer : lookUp host key (scene.addressing key) = .error cause after) :
      FailsAs renderer host (.missing depth key) scene cause after

/-- A call comes to an include in a scene, after everything in front of it gave nodes. -/
inductive StopsAt (renderer : Renderer) (host : Host World) :
    Call → Scene World → Nat → Scene World → Prop
  | attempt {depth : Nat} {scene : Scene World} :
      StopsAt renderer host (.addressed depth) scene depth scene
  | walked {depth deep : Nat} {key : TemplateKey} {template : Template}
      {scene inner attempt : Scene World} (within : depth ≤ renderer.config.maxIncludeDepth)
      (address : TemplateKey.ofContext? scene.context renderer.config.codeBasePath = some key)
      (answer : lookUp host key (scene.addressing key) = .ok template inner)
      (stops : StopsAt renderer host (.template depth template) inner deep attempt) :
      StopsAt renderer host (.addressed depth) scene deep attempt
  | template {depth deep : Nat} {template : Template} {scene attempt : Scene World}
      (stops : StopsAt renderer host (.nodes depth template.content) scene deep attempt) :
      StopsAt renderer host (.template depth template) scene deep attempt
  | sibling {depth deep : Nat} (before : List Node) {behind children nodes : List Node} {tag : Tag}
      {scene between attempt : Scene World} {log : List Event}
      (rendered : Runs renderer host (.nodes depth before) scene log (.ok nodes between))
      (stops : StopsAt renderer host (.element depth tag children) between deep attempt) :
      StopsAt renderer host (.nodes depth (before ++ .element tag children :: behind)) scene deep
        attempt
  | repeated {depth deep : Nat} {tag : Tag} {children : List Node} {directive : Qualified}
      {entries : List (String × Value)} {scene inner after attempt : Scene World}
      (tested : passes host tag.guard? (scene.visiting (.element tag [])) = .ok true inner)
      (search : tag.withoutGuard.repeat? = some directive)
      (read : repeatEntries host directive inner = .ok entries after)
      (stops : StopsAt renderer host
        (.copies depth (tag.withoutGuard.remove directive.name) children (itemName directive) 0
          entries) after deep attempt) :
      StopsAt renderer host (.element depth tag children) scene deep attempt
  | copy {depth deep position : Nat} {tag : Tag} {children nodes : List Node} {name : String}
      {entry : String × Value} (before : List (String × Value)) {behind : List (String × Value)}
      {scene between attempt : Scene World} {log : List Event}
      (rendered : Runs renderer host (.copies depth tag children name position before) scene log
        (.ok nodes between))
      (stops : StopsAt renderer host (.element depth tag children)
        { between with
          context := bindItem name (position + before.length) entry between.context }
        deep attempt) :
      StopsAt renderer host (.copies depth tag children name position (before ++ entry :: behind))
        scene deep attempt
  | shown {depth deep : Nat} {tag : Tag} {children : List Node} {scene inner attempt : Scene World}
      (tested : passes host tag.guard? (scene.visiting (.element tag [])) = .ok true inner)
      (search : tag.withoutGuard.repeat? = none)
      (stops : StopsAt renderer host (.content depth tag.withoutGuard children) inner deep
        attempt) :
      StopsAt renderer host (.element depth tag children) scene deep attempt
  | inside {depth deep : Nat} {tag written last : Tag} {children : List Node}
      {scene first second third attempt : Scene World}
      (attributes : attributeStage host tag scene = .ok written first)
      (content : contentStage host written first = .ok none second)
      (untargeted : (written.remove Directive.content).get? Directive.included = none)
      (unwrap : unwrapStage host
        ((written.remove Directive.content).remove Directive.included) second = .ok last third)
      (stops : StopsAt renderer host (.nodes depth children) third deep attempt) :
      StopsAt renderer host (.content depth tag children) scene deep attempt
  | included {depth deep : Nat} {tag written : Tag} {children : List Node} {value target : String}
      {scene first second third attempt : Scene World}
      (attributes : attributeStage host tag scene = .ok written first)
      (content : contentStage host written first = .ok none second)
      (targeted : (written.remove Directive.content).get? Directive.included = some value)
      (read : interpolate host value second = .ok target third)
      (stops : StopsAt renderer host (.addressed (depth + 1)) (third.including target) deep
        attempt) :
      StopsAt renderer host (.content depth tag children) scene deep attempt

/-- A failed call stopped at the include that was attempted last, and did nothing behind it. -/
def Stopped (renderer : Renderer) (host : Host World) (call : Call) (scene : Scene World)
    (log : List Event) (cause : TemplateError) (after : Scene World) : Prop :=
  ∃ before event attempt last, log = before ++ [event] ∧
    StopsAt renderer host call scene event.depth attempt ∧
    FailsAs renderer host event attempt cause last ∧ after = { last with context := after.context }

namespace Stopped

variable {call other : Call} {scene inner after : Scene World} {log : List Event}
  {cause : TemplateError}

/-- A call stops where a call that is part of it stops. -/
theorem through (stopped : Stopped renderer host call inner log cause after) (front : List Event)
    (onwards : ∀ {deep attempt}, StopsAt renderer host call inner deep attempt →
      StopsAt renderer host other scene deep attempt) :
    Stopped renderer host other scene (front ++ log) cause after := by
  obtain ⟨before, event, attempt, last, rfl, stops, fails, idle⟩ := stopped
  exact ⟨front ++ before, event, attempt, last, (List.append_assoc ..).symm, onwards stops, fails,
    idle⟩

theorem restored (stopped : Stopped renderer host call scene log cause after) (context : Context) :
    Stopped renderer host call scene log cause { after with context } := by
  obtain ⟨before, event, attempt, last, logged, stops, fails, idle⟩ := stopped
  exact ⟨before, event, attempt, last, logged, stops, fails, by rw [idle]⟩

/-- An include that fails by itself stops there. -/
theorem of_failsAs {depth : Nat} {event : Event}
    (fails : FailsAs renderer host event scene cause after) (deep : event.depth = depth) :
    Stopped renderer host (.addressed depth) scene [event] cause after :=
  ⟨[], event, scene, after, rfl, deep ▸ .attempt, fails, rfl⟩

end Stopped

/-- Changing nodes brings no failure about. -/
theorem Ending.eq_error_of_rework {change : List Node → List Node} {ending : Ending World}
    {cause : TemplateError} {after : Scene World}
    (failed : ending.rework change = .error cause after) : ending = .error cause after := by
  cases ending with
  | ok nodes last => cases failed
  | error reason last => exact failed

section Stops

variable {depth deep position : Nat} {tag : Tag} {children nodes rest : List Node} {name : String}
  {entry : String × Value} {entries : List (String × Value)}
  {scene between attempt : Scene World} {log : List Event}

/-- What gives nodes in front of siblings is in front of the include at which these stop. -/
theorem StopsAt.cons {node : Node} (log : List Event)
    (rendered : ∀ {before more nodes last},
      Runs renderer host (.nodes depth before) between more (.ok nodes last) →
        ∃ all, Runs renderer host (.nodes depth (node :: before)) scene (log ++ more)
          (.ok all last))
    (stops : StopsAt renderer host (.nodes depth rest) between deep attempt) :
    StopsAt renderer host (.nodes depth (node :: rest)) scene deep attempt := by
  cases stops with
  | @sibling _ _ before _ _ _ _ _ _ _ more ran stops =>
      obtain ⟨all, whole⟩ := rendered ran
      exact .sibling (node :: before) whole stops

/-- A copy that gives nodes is in front of the include at which the others stop. -/
theorem StopsAt.cons_copy
    (first : Runs renderer host (.element depth tag children)
      { scene with context := bindItem name position entry scene.context } log (.ok nodes between))
    (stops : StopsAt renderer host (.copies depth tag children name (position + 1) entries)
      { between with context := scene.context } deep attempt) :
    StopsAt renderer host (.copies depth tag children name position (entry :: entries)) scene deep
      attempt := by
  cases stops with
  | @copy _ _ _ _ _ _ _ _ before _ _ last _ more ran stops =>
      have shifted : position + (entry :: before).length = position + 1 + before.length := by
        rw [List.length_cons]
        omega
      refine .copy (entry :: before) (.copy first ran) ?_
      rw [shifted]
      exact stops

end Stops

/-- A call that fails stops at the include that is attempted last. -/
theorem stopped_of_runs {call : Call} {scene : Scene World} {log : List Event}
    {ending : Ending World} (runs : Runs renderer host call scene log ending)
    {cause : TemplateError} {after : Scene World} (failed : ending = .error cause after) :
    Stopped renderer host call scene log cause after := by
  -- Each failing rule fails with one inner call, and stops where that stopped.
  induction runs generalizing cause after with
  | noNodes | hidden | noCopies | filled | including => cases failed
  | comment others inductionHypothesis =>
      have stopped := inductionHypothesis (Ending.eq_error_of_rework failed)
      exact stopped.through [] (·.cons [] fun rendered => ⟨_, .comment rendered⟩)
  | text read others inductionHypothesis =>
      have stopped := inductionHypothesis (Ending.eq_error_of_rework failed)
      exact stopped.through [] (·.cons [] fun rendered => ⟨_, .text read rendered⟩)
  | element first others _ inductionHypothesis =>
      have stopped := inductionHypothesis (Ending.eq_error_of_rework failed)
      exact stopped.through _ (·.cons _ fun rendered => ⟨_, .element first rendered⟩)
  | elementFails first inductionHypothesis =>
      exact (inductionHypothesis failed).through [] (.sibling [] .noNodes)
  | repeated tested search read each inductionHypothesis =>
      exact (inductionHypothesis failed).through [] (.repeated tested search read)
  | shown tested search behind inductionHypothesis =>
      exact (inductionHypothesis failed).through [] (.shown tested search)
  | copy first others _ inductionHypothesis =>
      have stopped := inductionHypothesis (Ending.eq_error_of_rework failed)
      exact stopped.through _ (·.cons_copy first)
  | copyFails first inductionHypothesis =>
      cases failed
      exact ((inductionHypothesis rfl).through [] (.copy [] .noCopies)).restored _
  | kept attributes content untargeted unwrap inside inductionHypothesis =>
      have stopped := inductionHypothesis (Ending.eq_error_of_rework failed)
      exact stopped.through [] (.inside attributes content untargeted unwrap)
  | includingFails attributes content targeted read deeper inductionHypothesis =>
      cases failed
      exact ((inductionHypothesis rfl).through []
        (.included attributes content targeted read)).restored _
  | refused tooDeep =>
      cases failed
      exact .of_failsAs (.refused tooDeep) rfl
  | unaddressed within address =>
      cases failed
      exact .of_failsAs (.unaddressed within address) rfl
  | missing within address answer =>
      cases failed
      exact .of_failsAs (.missing within address answer) rfl
  | walked within address answer walk inductionHypothesis =>
      exact (inductionHypothesis failed).through [_] (.walked within address answer)
  | template walk inductionHypothesis =>
      exact (inductionHypothesis (Ending.eq_error_of_rework failed)).through [] .template

/-- Nodes in two parts are rendered one part behind the other. -/
theorem action_nodes_append (depth : Nat) (before rest : List Node) :
    (Call.nodes depth (before ++ rest)).action renderer host = do
      let first ← (Call.nodes depth before).action renderer host
      let others ← (Call.nodes depth rest).action renderer host
      return first ++ others :=
  renderNodes_append host _ before rest

/-- Copies in two parts are rendered one part behind the other. -/
theorem action_copies_append (depth : Nat) (tag : Tag) (children : List Node) (name : String)
    (position : Nat) (before rest : List (String × Value)) :
    (Call.copies depth tag children name position (before ++ rest)).action renderer host = do
      let first ← (Call.copies depth tag children name position before).action renderer host
      let others ← (Call.copies depth tag children name (position + before.length) rest).action
        renderer host
      return first ++ others := by
  simp only [Call.action]
  induction before generalizing position with
  | nil => simp only [List.nil_append, copies, pure_bind, bind_pure, List.length_nil, Nat.add_zero]
  | cons entry before inductionHypothesis =>
      simp only [List.cons_append, copies, inductionHypothesis, bind_assoc, pure_bind,
        List.append_assoc, List.length_cons, Nat.add_assoc, Nat.add_comm 1]

/-- A template is its content, finished. -/
theorem action_template (depth : Nat) (template : Template) :
    (Call.template depth template).action renderer host = do
      let nodes ← (Call.nodes depth template.content).action renderer host
      return renderer.finish nodes :=
  renderWithin_eq renderer host _ template

/-- An include that fails by itself makes the call fail. -/
theorem FailsAs.action_eq {event : Event} {attempt last : Scene World} {cause : TemplateError}
    (fails : FailsAs renderer host event attempt cause last) :
    (Call.addressed event.depth).action renderer host attempt = .error cause last := by
  cases fails with
  | refused tooDeep => exact congrFun (action_addressed_of_lt tooDeep) _
  | unaddressed within address =>
      exact (congrFun (action_addressed_of_le within) _).trans
        (bind_of_error (resolveTemplate_of_none address) _)
  | missing within address answer =>
      exact (congrFun (action_addressed_of_le within) _).trans
        (bind_of_error ((resolveTemplate_of_some address).trans answer) _)

/-- A call fails as the include does at which it stops. -/
theorem StopsAt.action_eq {call : Call} {scene attempt last : Scene World} {deep : Nat}
    (stops : StopsAt renderer host call scene deep attempt) {cause : TemplateError}
    (fails : (Call.addressed deep).action renderer host attempt = .error cause last) :
    ∃ after, call.action renderer host scene = .error cause after := by
  -- Everything in front gave nodes, so that the failure comes through at each level.
  induction stops with
  | attempt => exact ⟨last, fails⟩
  | walked within address answer stops inductionHypothesis =>
      obtain ⟨after, failed⟩ := inductionHypothesis fails
      refine ⟨after, ?_⟩
      rw [action_addressed_of_le within,
        bind_of_ok ((resolveTemplate_of_some address).trans answer), failed]
  | template stops inductionHypothesis =>
      obtain ⟨after, failed⟩ := inductionHypothesis fails
      refine ⟨after, ?_⟩
      rw [action_template, bind_of_error failed]
  | sibling before rendered stops inductionHypothesis =>
      obtain ⟨after, failed⟩ := inductionHypothesis fails
      refine ⟨after, ?_⟩
      rw [action_nodes_append, bind_of_ok rendered.eq_action.symm, action_nodes_element, bind_assoc,
        bind_of_error failed]
  | repeated tested search read stops inductionHypothesis =>
      obtain ⟨after, failed⟩ := inductionHypothesis fails
      refine ⟨after, ?_⟩
      rw [action_element, bind_of_ok (setCurrentNode_run _ _), bind_of_ok tested, if_pos rfl,
        search]
      exact (bind_of_ok read _).trans failed
  | @copy _ _ _ _ _ _ _ _ _ _ _ between _ _ rendered stops inductionHypothesis =>
      obtain ⟨after, failed⟩ := inductionHypothesis fails
      refine ⟨{ after with context := between.context }, ?_⟩
      rw [action_copies_append, bind_of_ok rendered.eq_action.symm, action_copies_cons, bind_assoc,
        bind_of_error (inScope_of_error _ failed)]
  | shown tested search stops inductionHypothesis =>
      obtain ⟨after, failed⟩ := inductionHypothesis fails
      refine ⟨after, ?_⟩
      rw [action_element, bind_of_ok (setCurrentNode_run _ _), bind_of_ok tested, if_pos rfl,
        search]
      exact failed
  | inside attributes content untargeted unwrap stops inductionHypothesis =>
      obtain ⟨after, failed⟩ := inductionHypothesis fails
      refine ⟨after, ?_⟩
      rw [content_of_kept attributes content untargeted unwrap, failed]
      rfl
  | included attributes content targeted read stops inductionHypothesis =>
      obtain ⟨after, failed⟩ := inductionHypothesis fails
      exact ⟨_, content_of_includingFails attributes content targeted read failed⟩

/-- Templates without includes give nodes, and any failure is that of the include attempted last. -/
theorem fails_only_at_include (renderer : Renderer) (host : Host World) (template : Template)
    (scene : Scene World) :
    ((∀ tag ∈ Node.tagsOf template.content, tag.has Directive.included = false) →
      Unlaid host.answering template.content scene.context →
        ∃ nodes after, renderer.renderTemplate host template scene = .ok nodes after) ∧
    (∀ cause after, renderer.renderTemplate host template scene = .error cause after →
      ∃ log, Runs renderer host (.template 0 template) scene log (.error cause after) ∧
        Stopped renderer host (.template 0 template) scene log cause after) ∧
    ∀ event attempt cause last,
      StopsAt renderer host (.template 0 template) scene event.depth attempt →
      FailsAs renderer host event attempt cause last →
        ∃ after, renderer.renderTemplate host template scene = .error cause after := by
  refine ⟨renderTemplate_of_includeFree, ?_, ?_⟩
  · intro cause after failed
    obtain ⟨log, ending, runs⟩ := ends renderer host (.template 0 template) scene
    have same : ending = .error cause after := by
      rw [runs.eq_action, action_template_zero, failed]
    exact ⟨log, same ▸ runs, stopped_of_runs runs same⟩
  · intro event attempt cause last stops fails
    exact stops.action_eq fails.action_eq

/-- A host without files, whose resolvers answer with a map. -/
def absentHost : Host Unit where
  answering _ _ := pure (.map ⟨[("Title", .null)]⟩)
  fetching path := pure (.error (.notFound path))

/-- A text, an answer with an entry for an attribute, and null. -/
def absentContext : Context :=
  ⟨[("text", .string "abc"), ("answer", .resolver ⟨0⟩), ("none", .null)]⟩

/-- Paths that lead nowhere, a repeat over a text, attributes from an answer, and null content. -/
def absentContent : List Node :=
  [.element ⟨"p", ⟨[("data-fly-test.seen", "gone.deep")]⟩⟩ [.text "${text.none}"],
    .element ⟨"ul", ⟨[("data-fly-repeat", "text")]⟩⟩ [.text "${item}"],
    .element ⟨"div", ⟨[("title", "${gone.deep}"), ("data-fly-attributes", "answer")]⟩⟩
      [.element ⟨"b", ⟨[("data-fly-content", "none"), ("data-fly-unwrap", "gone")]⟩⟩ []]]

/-- A repeated element whose first copy has an include without a file, in front of another one. -/
def stoppedContent : List Node :=
  [.element ⟨"p", ⟨[("data-fly-repeat", "answer"), ("data-fly-include", "/${itemKey}.html")]⟩⟩ [],
    .element ⟨"p", ⟨[("data-fly-include", "/other.html")]⟩⟩ []]

theorem unlaid_absentContent : Unlaid absentHost.answering absentContent absentContext := by
  apply unlaid_of_made
  · intro _ resolver invocation world
    refine .map (fun entry member => ?_) fun entry member => ?_
    · cases List.mem_singleton.mp member
      exact (by decide +kernel : "Title".toLower ≠ Directive.included)
    · cases List.mem_singleton.mp member
      exact .null
  · intro key value found
    have member := OrderedMap.mem_entries_of_get? found
    simp only [absentContext, List.mem_cons, Prod.mk.injEq, List.not_mem_nil, or_false] at member
    rcases member with ⟨-, rfl⟩ | ⟨-, rfl⟩ | ⟨-, rfl⟩
    · exact .string _
    · exact .resolver trivial _
    · exact .null

/-- Absent data leaves things out, and the include of a first copy is where a render stops. -/
theorem fails_only_at_include_absent :
    (∃ nodes after, Renderer.renderTemplate {} absentHost ⟨"", "/a.html", "", absentContent⟩
      ⟨absentContext, .empty, (), []⟩ = .ok nodes after) ∧
    ∃ after log,
      Renderer.renderTemplate {} absentHost ⟨"", "/a.html", "", stoppedContent⟩
        ⟨absentContext, .empty, (), []⟩ =
          .error (.fetch "/Title.html" (.notFound "/Title.html")) after ∧
      Stopped {} absentHost (.template 0 ⟨"", "/a.html", "", stoppedContent⟩)
        ⟨absentContext, .empty, (), []⟩ log (.fetch "/Title.html" (.notFound "/Title.html"))
        after := by
  constructor
  · exact (fails_only_at_include {} absentHost ⟨"", "/a.html", "", absentContent⟩
      ⟨absentContext, .empty, (), []⟩).1 (by decide +kernel) unlaid_absentContent
  · have failed : outcome (Renderer.renderTemplate {} absentHost
        ⟨"", "/a.html", "", stoppedContent⟩) ⟨absentContext, .empty, (), []⟩ =
          .error (.fetch "/Title.html" (.notFound "/Title.html")) := by decide +kernel
    have parts := fails_only_at_include {} absentHost ⟨"", "/a.html", "", stoppedContent⟩
      ⟨absentContext, .empty, (), []⟩
    have stops (cause : TemplateError) (after : Scene Unit)
        (ran : Renderer.renderTemplate {} absentHost ⟨"", "/a.html", "", stoppedContent⟩
          ⟨absentContext, .empty, (), []⟩ = .error cause after) := parts.2.1 cause after ran
    rw [outcome] at failed
    split at failed
    · cases failed
    · rename_i cause after ran
      cases failed
      obtain ⟨log, -, stopped⟩ := stops _ after ran
      exact ⟨after, log, ran, stopped⟩

end Renderer

end Stencil
