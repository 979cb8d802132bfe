import Stencil.Proofs.Render.Contract
import Stencil.Proofs.Render.Inlining
import Stencil.Proofs.Render.Limit

/-! Chains of fragments, each of which includes the next one. -/

namespace Stencil

variable {World : Type}

/-- The caches that lookups of some keys lead to, in whatever worlds they run. -/
inductive Cache.Follows (fetching : Fetching World) (keys : TemplateKey → Prop) (start : Cache) :
    Cache → Prop
  | start : Follows fetching keys start start
  | lookUp {cache : Cache} {key : TemplateKey} (earlier : Follows fetching keys start cache)
      (among : keys key) (world : World) :
      Follows fetching keys start (cache.resolve fetching key world).1.2

/-- Texts without placeholders are left as they are. -/
theorem Answering.interpolate_literal {text : String}
    (literal : hasPlaceholders (Piece.scan text.toList) = false) (answering : Answering World)
    (context : Context) (world : World) :
    (answering.interpolate context text world).1 = text := by
  simp only [Answering.interpolate, Answering.interpolate?, literal, Bool.false_eq_true, if_false]
  rfl

namespace Cache

/-- The caches that follow a cache that was filled from the source were filled from it, too. -/
theorem Follows.consistent {fetching : Fetching World} {keys : TemplateKey → Prop}
    {start cache : Cache} (consistent : start.Consistent fetching)
    (follows : Follows fetching keys start cache) : cache.Consistent fetching := by
  induction follows with
  | start => exact consistent
  | lookUp earlier among world inductionHypothesis => exact inductionHypothesis.resolve _ world

end Cache

namespace Render

/-- A key that resolves is looked up with success. -/
theorem lookUp_of_resolve {host : Host World} {key : TemplateKey} {template : Template}
    {scene : Scene World}
    (found : (scene.cache.resolve host.fetching key scene.world).1.1 = .ok template) :
    lookUp host key scene = .ok template (leaves (lookUp host key) scene) := by
  rw [lookUp_eq, found]

/-- A test leaves the cache alone. -/
theorem cache_passes (host : Host World) (guard? : Option Qualified) (scene : Scene World) :
    (leaves (passes host guard?) scene).cache = scene.cache := by
  cases guard? with
  | none => rfl
  | some guard =>
      simp only [passes]
      cases guard.qualifier <;> rfl

/-- Directives are not written over. -/
theorem get?_interpolateAttributes {host : Host World} {name : String}
    (directive : Directive.isDirective name = true) {entries written : List (String × String)}
    {scene after : Scene World}
    (ran : interpolateAttributes host entries scene = .ok written after) :
    written.lookup name = entries.lookup name := by
  have each := forall₂_interpolateAttributes ran
  clear ran
  induction each with
  | nil => rfl
  | @cons entry _ _ _ here _ inductionHypothesis =>
      obtain ⟨named, kept⟩ := here
      rw [OrderedMap.lookup_cons, OrderedMap.lookup_cons, named, inductionHypothesis]
      by_cases same : name = entry.1
      · rw [if_pos same, if_pos same, kept (same ▸ directive)]
      · rw [if_neg same, if_neg same]

/-- Without a map to lay over the attributes, the directives of an element stay what they are. -/
theorem get?_attributeStage {host : Host World} {name : String}
    (directive : Directive.isDirective name = true) (other : name ≠ Directive.attributes)
    {tag written : Tag} {scene after : Scene World} (bare : tag.get? Directive.attributes = none)
    (ran : attributeStage host tag scene = .ok written after) :
    written.get? name = tag.get? name := by
  obtain ⟨entries, inner, interpolated⟩ := (closed_succeeds host).interpolateAttributes
    (tag.remove Directive.attributes).attributes.entries scene
  rw [attributeStage, bare, bind_of_ok interpolated] at ran
  cases ran
  calc (⟨entries⟩ : OrderedMap String).get? name
    _ = (tag.remove Directive.attributes).get? name :=
        get?_interpolateAttributes directive interpolated
    _ = tag.get? name := by rw [Tag.get?_remove, if_neg other]

end Render

namespace Tag

/-- An element that includes at most the given template, in whatever context of its file. -/
structure Targets (host : Host World) (path : String) (target? : Option TemplateKey) (tag : Tag) :
    Prop where
  bare : tag.get? Directive.attributes = none
  unaddressed : tag.KeepsAddress
  target : ∀ value, tag.get? Directive.included = some value → ∃ key, target? = some key ∧
    ∀ context world, context.templatePath? = some path →
      Render.includeKey context (host.answering.interpolate context value world).1 = key

namespace Targets

variable {host : Host World} {path : String} {target? : Option TemplateKey} {tag : Tag}

theorem remove (targets : tag.Targets host path target?) (name : String) :
    (tag.remove name).Targets host path target? where
  bare := by
    rw [get?_remove, targets.bare, ite_self]
  unaddressed := targets.unaddressed.remove name
  target value held := by
    rw [get?_remove] at held
    split at held
    · cases held
    · exact targets.target value held

theorem withoutGuard (targets : tag.Targets host path target?) :
    tag.withoutGuard.Targets host path target? := by
  unfold Tag.withoutGuard
  split
  · exact targets.remove _
  · exact targets

end Targets

end Tag

/-- An element with a target that has no placeholders. -/
theorem Tag.targets_of_literal {host : Host World} {path target : String} {key : TemplateKey}
    {tag : Tag} (bare : tag.get? Directive.attributes = none) (unaddressed : tag.KeepsAddress)
    (held : tag.get? Directive.included = some target)
    (literal : hasPlaceholders (Piece.scan target.toList) = false)
    (goes : ∀ context : Context, context.templatePath? = some path →
      Render.includeKey context target = key) :
    tag.Targets host path (some key) := by
  refine ⟨bare, unaddressed, fun value found => ⟨key, rfl, fun context world inPath => ?_⟩⟩
  rw [held] at found
  cases found
  rw [Answering.interpolate_literal literal]
  exact goes context inPath

/-- An element without an include. -/
theorem Tag.targets_of_none {host : Host World} {path : String} {target? : Option TemplateKey}
    {tag : Tag} (bare : tag.get? Directive.attributes = none) (unaddressed : tag.KeepsAddress)
    (untargeted : tag.get? Directive.included = none) : tag.Targets host path target? := by
  refine ⟨bare, unaddressed, fun value found => ?_⟩
  rw [untargeted] at found
  cases found

/-- An include outside of all tests, repeats and contents is reached. -/
inductive Node.Reaches : List Node → Prop
  | here {tag : Tag} {children rest : List Node} (untested : tag.guard? = none)
      (once : tag.repeat? = none) (contentless : tag.get? Directive.content = none)
      (included : (tag.get? Directive.included).isSome) :
      Reaches (.element tag children :: rest)
  | inside {tag : Tag} {children rest : List Node} (untested : tag.guard? = none)
      (once : tag.repeat? = none) (contentless : tag.get? Directive.content = none)
      (reached : Reaches children) :
      Reaches (.element tag children :: rest)
  | behind {node : Node} {rest : List Node} (reached : Reaches rest) :
      Reaches (node :: rest)

/-- An element around which nothing is rendered leads to an include of its own or one inside. -/
theorem Node.Reaches.of_element {tag : Tag} {children : List Node}
    (reached : Reaches [.element tag children]) :
    tag.guard? = none ∧ tag.repeat? = none ∧ tag.get? Directive.content = none ∧
      ((tag.get? Directive.included).isSome ∨ Reaches children) := by
  cases reached with
  | here untested once contentless included => exact ⟨untested, once, contentless, .inl included⟩
  | inside untested once contentless inner => exact ⟨untested, once, contentless, .inr inner⟩
  | behind inner => cases inner

/-- Fragments with their keys, in the order of the includes. -/
structure IncludeChain where
  length : Nat
  key : Nat → TemplateKey
  fragment : Nat → Template

namespace IncludeChain

variable {chain : IncludeChain} {renderer : Renderer} {host : Host World} {start : Cache}

/-- The keys of the fragments. -/
def Asks (chain : IncludeChain) (key : TemplateKey) : Prop :=
  ∃ depth ≤ chain.length, chain.key depth = key

/-- The fragment behind another one. -/
def next? (chain : IncludeChain) (depth : Nat) : Option TemplateKey :=
  if depth < chain.length then some (chain.key (depth + 1)) else none

/-- A scene addresses the first fragment, and each but the last includes the next one. -/
structure Starts (chain : IncludeChain) (renderer : Renderer) (host : Host World)
    (scene : Scene World) : Prop where
  addressed : TemplateKey.ofContext? scene.context renderer.config.codeBasePath =
    some (chain.key 0)
  resolvable : ∀ depth ≤ chain.length, ∀ cache : Cache,
    Cache.Follows host.fetching chain.Asks scene.cache cache → ∀ world,
      (cache.resolve host.fetching (chain.key depth) world).1.1 = .ok (chain.fragment depth)
  targets : ∀ depth ≤ chain.length, ∀ tag ∈ Node.tagsOf (chain.fragment depth).content,
    tag.Targets host (chain.key depth).path (chain.next? depth)
  reaches : ∀ depth < chain.length, Node.Reaches (chain.fragment depth).content

/-- A scene in a fragment of the chain, over a cache that lookups of the chain filled. -/
structure Within (chain : IncludeChain) (host : Host World) (start : Cache) (depth : Nat)
    (scene : Scene World) : Prop where
  path : scene.context.templatePath? = some (chain.key depth).path
  nonempty : (chain.key depth).path ≠ ""
  cache : Cache.Follows host.fetching chain.Asks start scene.cache

namespace Within

variable {depth : Nat} {scene after : Scene World}

theorem insert (within : chain.Within host start depth scene) {key : String}
    (other : key ≠ Context.templateKey) (value : Value) :
    chain.Within host start depth { scene with context := scene.context.insert key value } :=
  ⟨(Context.templatePath?_insert _ other value).trans within.path, within.nonempty, within.cache⟩

theorem visiting (within : chain.Within host start depth scene) (node : Node) :
    chain.Within host start depth (scene.visiting node) :=
  within.insert (by decide) (.node node)

theorem bindItem (within : chain.Within host start depth scene) {name : String}
    (other : name ≠ Context.templateKey) (position : Nat) (entry : String × Value) :
    chain.Within host start depth
      { scene with context := Render.bindItem name position entry scene.context } :=
  ⟨(Render.templatePath?_bindItem other position entry _).trans within.path, within.nonempty,
    within.cache⟩

theorem asked (within : chain.Within host start depth scene) {α : Type}
    {action : Render World α} (onlyAsks : Render.OnlyAsks action) {answer : α}
    (ran : action scene = .ok answer after) : chain.Within host start depth after := by
  obtain ⟨world, rfl⟩ := onlyAsks.exists_world ran
  exact ⟨within.path, within.nonempty, within.cache⟩

/-- A scope gives its context back over a cache that was filled further. -/
theorem restored (within : chain.Within host start depth scene)
    (cache : Cache.Follows host.fetching chain.Asks start after.cache) :
    chain.Within host start depth { after with context := scene.context } :=
  ⟨within.path, within.nonempty, cache⟩

theorem tested (within : chain.Within host start depth scene) {tag : Tag}
    (unaddressed : tag.KeepsAddress) {passed : Bool}
    (ran : Render.passes host tag.guard? scene = .ok passed after) :
    chain.Within host start depth after := by
  have cache := Render.cache_passes host tag.guard? scene
  rw [Render.leaves_of_ok ran] at cache
  exact ⟨(Render.templatePath?_of_passes unaddressed ran).trans within.path, within.nonempty,
    cache ▸ within.cache⟩

end Within

/-- A call whose depth is the number of the fragment that it runs in. -/
def Fits (chain : IncludeChain) (host : Host World) : Renderer.Call → Prop
  | .addressed depth => depth ≤ chain.length
  | .template depth fragment => depth ≤ chain.length ∧ fragment = chain.fragment depth
  | .nodes depth nodes => depth ≤ chain.length ∧
      ∀ tag ∈ Node.tagsOf nodes, tag.Targets host (chain.key depth).path (chain.next? depth)
  | .element depth tag children | .content depth tag children => depth ≤ chain.length ∧
      ∀ other ∈ tag :: Node.tagsOf children,
        other.Targets host (chain.key depth).path (chain.next? depth)
  | .copies depth tag children name _ _ => name ≠ Context.templateKey ∧ depth ≤ chain.length ∧
      ∀ other ∈ tag :: Node.tagsOf children,
        other.Targets host (chain.key depth).path (chain.next? depth)

/-- Where a call of the chain starts. -/
def Before (chain : IncludeChain) (renderer : Renderer) (host : Host World) (start : Cache)
    (scene : Scene World) : Renderer.Call → Prop
  | .addressed depth =>
      TemplateKey.ofContext? scene.context renderer.config.codeBasePath = some (chain.key depth) ∧
        Cache.Follows host.fetching chain.Asks start scene.cache
  | .template depth _ | .nodes depth _ | .element depth _ _ | .copies depth _ _ _ _ _
  | .content depth _ _ => chain.Within host start depth scene

/-- Where a call of the chain ends. The context behind an include is never used. -/
def After (chain : IncludeChain) (host : Host World) (start : Cache) (scene : Scene World) :
    Renderer.Call → Prop
  | .addressed _ => Cache.Follows host.fetching chain.Asks start scene.cache
  | .template depth _ | .nodes depth _ | .element depth _ _ | .copies depth _ _ _ _ _
  | .content depth _ _ => chain.Within host start depth scene

/-- The calls that are certain to get to the last fragment. -/
def Certain (chain : IncludeChain) : Renderer.Call → Prop
  | .addressed _ => True
  | .template depth _ => depth < chain.length
  | .nodes _ nodes => Node.Reaches nodes
  | .element _ tag children => Node.Reaches [.element tag children]
  | .copies _ _ _ _ _ _ => False
  | .content _ tag children => tag.get? Directive.content = none ∧
      ((tag.get? Directive.included).isSome ∨ Node.Reaches children)

/-- A call of the chain, in a scene in which it may start. -/
structure Enters (chain : IncludeChain) (renderer : Renderer) (host : Host World) (start : Cache)
    (call : Renderer.Call) (scene : Scene World) : Prop where
  fits : chain.Fits host call
  before : chain.Before renderer host start scene call

/-! A call of the chain makes calls of the chain. -/

namespace Enters

open Renderer Render

variable {depth : Nat} {tag written : Tag} {children rest : List Node}
  {scene inner after : Scene World}

theorem text {content text : String}
    (enters : chain.Enters renderer host start (.nodes depth (.text content :: rest)) scene)
    (read : interpolate host content (scene.visiting (.text content)) = .ok text after) :
    chain.Enters renderer host start (.nodes depth rest) after :=
  ⟨enters.fits, (enters.before.visiting _).asked ((closed_onlyAsks host).interpolate _) read⟩

section Siblings

variable
  (enters : chain.Enters renderer host start (.nodes depth (.element tag children :: rest)) scene)
include enters

theorem element : chain.Enters renderer host start (.element depth tag children) scene :=
  ⟨⟨enters.fits.1, (List.forall_mem_append.mp enters.fits.2).1⟩, enters.before⟩

theorem sibling (within : chain.Within host start depth after) :
    chain.Enters renderer host start (.nodes depth rest) after :=
  ⟨⟨enters.fits.1, (List.forall_mem_append.mp enters.fits.2).2⟩, within⟩

end Siblings

section Tested

variable {passed : Bool}
  (enters : chain.Enters renderer host start (.element depth tag children) scene)
  (tested : passes host tag.guard? (scene.visiting (.element tag [])) = .ok passed inner)
include enters tested

/-- The test of an element leaves its scene in the fragment. -/
theorem within_of_passes : chain.Within host start depth inner :=
  (enters.before.visiting _).tested (enters.fits.2 _ List.mem_cons_self).unaddressed tested

theorem repeated {directive : Qualified} {entries : List (String × Value)}
    (search : tag.withoutGuard.repeat? = some directive)
    (read : repeatEntries host directive inner = .ok entries after) :
    chain.Enters renderer host start (.copies depth (tag.withoutGuard.remove directive.name)
      children (itemName directive) 0 entries) after := by
  obtain ⟨here, inside⟩ := List.forall_mem_cons.mp enters.fits.2
  have shown := here.withoutGuard
  exact ⟨⟨shown.unaddressed.itemName_ne search, enters.fits.1,
    List.forall_mem_cons.mpr ⟨shown.remove _, inside⟩⟩,
    (enters.within_of_passes tested).asked ((closed_onlyAsks host).repeatEntries _) read⟩

theorem shown : chain.Enters renderer host start (.content depth tag.withoutGuard children)
    inner := by
  obtain ⟨here, inside⟩ := List.forall_mem_cons.mp enters.fits.2
  exact ⟨⟨enters.fits.1, List.forall_mem_cons.mpr ⟨here.withoutGuard, inside⟩⟩,
    enters.within_of_passes tested⟩

end Tested

section Copies

variable {name : String} {position : Nat} {entry : String × Value} {later : List (String × Value)}
  (enters : chain.Enters renderer host start
    (.copies depth tag children name position (entry :: later)) scene)
include enters

theorem copy : chain.Enters renderer host start (.element depth tag children)
    { scene with context := bindItem name position entry scene.context } :=
  ⟨enters.fits.2, enters.before.bindItem enters.fits.1 position entry⟩

theorem others (between : chain.Within host start depth inner) :
    chain.Enters renderer host start (.copies depth tag children name (position + 1) later)
      { inner with context := scene.context } :=
  ⟨enters.fits, enters.before.restored between.cache⟩

end Copies

section Content

variable {first second : Scene World}
  (enters : chain.Enters renderer host start (.content depth tag children) scene)
  (attributes : attributeStage host tag scene = .ok written first)
include enters attributes

theorem prepared {content? : Option (List Node)}
    (content : contentStage host written first = .ok content? second) :
    chain.Within host start depth second := by
  have asks := closed_onlyAsks host
  exact (enters.before.asked (asks.attributeStage _) attributes).asked (asks.contentStage _) content

/-- The children of an element are in the fragment. -/
theorem inside {last : Tag} (content : contentStage host written first = .ok none second)
    (unwrap : unwrapStage host
      ((written.remove Directive.content).remove Directive.included) second = .ok last after) :
    chain.Enters renderer host start (.nodes depth children) after :=
  ⟨⟨enters.fits.1, (List.forall_mem_cons.mp enters.fits.2).2⟩,
    (enters.prepared attributes content).asked ((closed_onlyAsks host).unwrapStage _) unwrap⟩

/-- The directives of the element are the ones that it has in the fragment. -/
theorem get?_written {name : String} (directive : Directive.isDirective name = true)
    (other : name ≠ Directive.attributes) : written.get? name = tag.get? name :=
  get?_attributeStage directive other (enters.fits.2 _ List.mem_cons_self).bare attributes

/-- Where a fragment includes something, that is the next fragment, which is then addressed. -/
theorem including {value target : String}
    (content : contentStage host written first = .ok none second)
    (targeted : (written.remove Directive.content).get? Directive.included = some value)
    (read : interpolate host value second = .ok target inner) :
    chain.Within host start depth inner ∧
      chain.Enters renderer host start (.addressed (depth + 1)) (inner.including target) := by
  have before := enters.prepared attributes content
  have behind := before.asked ((closed_onlyAsks host).interpolate value) read
  rw [Tag.get?_remove, if_neg (by decide),
    enters.get?_written attributes (by decide) (by decide)] at targeted
  obtain ⟨key, next, goes⟩ := (enters.fits.2 _ List.mem_cons_self).target value targeted
  rw [next?] at next
  split at next
  · rename_i further
    cases next
    cases read
    have address : includeKey second.context
        (host.answering.interpolate second.context value second.world).1 =
          chain.key (depth + 1) := goes second.context second.world before.path
    have nonempty : (chain.key (depth + 1)).path ≠ "" := by
      rw [← address]
      exact path_includeKey_ne_empty before.path before.nonempty _
    refine ⟨behind, further, ?_, behind.cache⟩
    rw [← TemplateKey.ofContext?_setTemplate second.context renderer.config.codeBasePath nonempty,
      ← address]
    rfl
  · cases next

end Content

/-- A fragment that is addressed is found. -/
theorem walked {origin : Scene World} (starts : chain.Starts renderer host origin)
    (enters : chain.Enters renderer host origin.cache (.addressed depth) scene) :
    ∃ after, lookUp host (chain.key depth) (scene.addressing (chain.key depth)) =
        .ok (chain.fragment depth) after ∧
      chain.Enters renderer host origin.cache (.template depth (chain.fragment depth)) after := by
  obtain ⟨inside, address, cache⟩ := enters
  have found := starts.resolvable depth inside scene.cache cache scene.world
  refine ⟨_, lookUp_of_resolve found, ⟨inside, rfl⟩, ?_,
    TemplateKey.path_ne_empty_of_ofContext? address, ?_⟩
  · rw [leaves_lookUp]
    exact Context.templatePath?_setTemplate _ _ _
  · rw [leaves_lookUp]
    exact cache.lookUp ⟨depth, inside, rfl⟩ _

end Enters

/-! What is certain of a call is certain of what it makes. -/

namespace Certain

open Renderer Render

variable {depth : Nat} {tag written : Tag} {children rest : List Node}

/-- What nodes are certain to reach, the first or the others are. -/
theorem of_nodes (sure : chain.Certain (.nodes depth (.element tag children :: rest))) :
    chain.Certain (.element depth tag children) ∨ chain.Certain (.nodes depth rest) := by
  cases sure with
  | here untested once contentless included =>
      exact .inl (.here untested once contentless included)
  | inside untested once contentless reached =>
      exact .inl (.inside untested once contentless reached)
  | behind reached => exact .inr reached

section Content

variable {scene first second : Scene World}
  (sure : chain.Certain (.content depth tag children))
  (enters : chain.Enters renderer host start (.content depth tag children) scene)
  (attributes : attributeStage host tag scene = .ok written first)
include sure enters attributes

/-- The element has no content of its own. -/
theorem not_filled {nodes : List Node} :
    contentStage host written first ≠ .ok (some nodes) second := by
  intro content
  have contentless : written.get? Directive.content = tag.get? Directive.content :=
    enters.get?_written attributes (by decide) (by decide)
  rw [contentStage, contentless.trans sure.1] at content
  cases content

/-- What an element without an include is certain to reach, its children are. -/
theorem inside (untargeted : (written.remove Directive.content).get? Directive.included = none) :
    chain.Certain (.nodes depth children) := by
  rcases sure.2 with included | reached
  · rw [Tag.get?_remove, if_neg (by decide),
      enters.get?_written attributes (by decide) (by decide)] at untargeted
    rw [untargeted] at included
    cases included
  · exact reached

end Content

end Certain

/-- Without a refusal, the call gives nodes and gets to the last fragment if that is certain. -/
structure Arrives (chain : IncludeChain) (host : Host World) (start : Cache)
    (call : Renderer.Call) (log : List Renderer.Event) (ending : Renderer.Ending World) : Prop where
  shallow : ∀ event ∈ log, event.depth ≤ chain.length
  succeeds : (∀ event ∈ log, event.isRefusal = false) → ∃ nodes after, ending = .ok nodes after ∧
    chain.After host start after call ∧
    (chain.Certain call → ∃ event ∈ log, event.depth = chain.length)

namespace Arrives

variable {call other : Renderer.Call} {log more : List Renderer.Event}
  {ending : Renderer.Ending World}

theorem fails {cause : TemplateError} {inner after : Scene World}
    (arrives : chain.Arrives host start call log (.error cause inner)) :
    chain.Arrives host start other log (.error cause after) where
  shallow := arrives.shallow
  succeeds answered := by
    obtain ⟨nodes, last, succeeded, -⟩ := arrives.succeeds answered
    cases succeeded

/-- A call that ends as the one in it arrives like it. -/
theorem through (arrives : chain.Arrives host start call log ending)
    (behind : ∀ after, chain.After host start after call → chain.After host start after other)
    (certain : chain.Certain other → chain.Certain call) :
    chain.Arrives host start other log ending where
  shallow := arrives.shallow
  succeeds answered := by
    obtain ⟨nodes, after, rfl, held, reached⟩ := arrives.succeeds answered
    exact ⟨nodes, after, rfl, behind after held, fun sure => reached (certain sure)⟩

/-- Changing the nodes of a call leaves where it arrives. -/
theorem rework (arrives : chain.Arrives host start call log ending)
    (change : List Node → List Node) :
    chain.Arrives host start call log (ending.rework change) where
  shallow := arrives.shallow
  succeeds answered := by
    obtain ⟨nodes, after, rfl, held, reached⟩ := arrives.succeeds answered
    exact ⟨change nodes, after, rfl, held, reached⟩

/-- A call that runs two others gets as far as these. -/
theorem append {second : Renderer.Call} {nodes : List Node} {inner : Scene World}
    (first : chain.Arrives host start call log (.ok nodes inner))
    (others : chain.Arrives host start second more ending)
    (behind : ∀ after, chain.After host start after second → chain.After host start after other)
    (certain : chain.Certain other → chain.Certain call ∨ chain.Certain second) :
    chain.Arrives host start other (log ++ more) ending where
  shallow := List.forall_mem_append.mpr ⟨first.shallow, others.shallow⟩
  succeeds answered := by
    rw [List.forall_mem_append] at answered
    obtain ⟨_, _, -, -, reachedFirst⟩ := first.succeeds answered.1
    obtain ⟨nodes, after, rfl, held, reachedBehind⟩ := others.succeeds answered.2
    refine ⟨nodes, after, rfl, behind after held, fun sure => ?_⟩
    rcases certain sure with here | there
    · obtain ⟨event, member, deep⟩ := reachedFirst here
      exact ⟨event, List.mem_append_left more member, deep⟩
    · obtain ⟨event, member, deep⟩ := reachedBehind there
      exact ⟨event, List.mem_append_right log member, deep⟩

/-- The log of a fragment that is walked has the fragment in front. -/
theorem walked {depth : Nat} (inside : depth ≤ chain.length) (key : TemplateKey)
    {template : Template} {log : List Renderer.Event} {ending : Renderer.Ending World}
    (arrives : chain.Arrives host start (.template depth template) log ending) :
    chain.Arrives host start (.addressed depth) (.walked depth key :: log) ending where
  shallow := List.forall_mem_cons.mpr ⟨inside, arrives.shallow⟩
  succeeds answered := by
    obtain ⟨nodes, after, rfl, held, reached⟩ :=
      arrives.succeeds (List.forall_mem_cons.mp answered).2
    refine ⟨nodes, after, rfl, held.cache, fun _ => ?_⟩
    rcases Nat.lt_or_eq_of_le inside with further | final
    · obtain ⟨event, member, deep⟩ := reached further
      exact ⟨event, List.mem_cons_of_mem _ member, deep⟩
    · exact ⟨_, List.mem_cons_self, final⟩

end Arrives

open Renderer in
/-- What a call of the chain runs arrives, by induction on the run. -/
theorem Starts.arrives_of_runs {origin : Scene World} (starts : chain.Starts renderer host origin)
    {call : Call} {scene : Scene World} {log : List Event} {ending : Ending World}
    (runs : Runs renderer host call scene log ending)
    (enters : chain.Enters renderer host origin.cache call scene) :
    chain.Arrives host origin.cache call log ending := by
  have onlyAsks := Render.closed_onlyAsks host
  induction runs with
  | noNodes => exact ⟨by simp, fun _ => ⟨[], _, rfl, enters.before, nofun⟩⟩
  | comment others inductionHypothesis =>
      have behind := inductionHypothesis ⟨enters.fits, enters.before⟩
      refine (behind.rework _).through (fun _ held => held) fun sure => ?_
      cases sure with
      | behind reached => exact reached
  | text read others inductionHypothesis =>
      have behind := inductionHypothesis (enters.text read)
      refine (behind.rework _).through (fun _ held => held) fun sure => ?_
      cases sure with
      | behind reached => exact reached
  | element first others firstHypothesis othersHypothesis =>
      have arrives := firstHypothesis enters.element
      obtain ⟨_, _, ended, held, -⟩ := arrives.succeeds first.isRefusal_eq_false
      cases ended
      have behind := othersHypothesis (enters.sibling held)
      exact arrives.append (behind.rework _) (fun _ held => held) Certain.of_nodes
  | elementFails first inductionHypothesis => exact (inductionHypothesis enters.element).fails
  | hidden tested =>
      refine ⟨by simp, fun _ => ⟨[], _, rfl, enters.within_of_passes tested, fun sure => ?_⟩⟩
      rw [sure.of_element.1] at tested
      cases tested
  | repeated tested search read each inductionHypothesis =>
      refine (inductionHypothesis (enters.repeated tested search read)).through
        (fun _ held => held) fun sure => ?_
      rw [Tag.repeat?_withoutGuard, sure.of_element.2.1] at search
      cases search
  | shown tested search behind inductionHypothesis =>
      refine (inductionHypothesis (enters.shown tested)).through (fun _ held => held) fun sure => ?_
      obtain ⟨untested, -, onward⟩ := sure.of_element
      rw [Tag.withoutGuard, untested]
      exact onward
  | noCopies => exact ⟨by simp, fun _ => ⟨[], _, rfl, enters.before, False.elim⟩⟩
  -- Nothing is certain of copies, since there may be none.
  | copy first others firstHypothesis othersHypothesis =>
      have arrives := firstHypothesis enters.copy
      obtain ⟨_, _, ended, held, -⟩ := arrives.succeeds first.isRefusal_eq_false
      cases ended
      have behind := othersHypothesis (enters.others held)
      exact arrives.append (behind.rework _) (fun _ held => held) False.elim
  | copyFails first inductionHypothesis => exact (inductionHypothesis enters.copy).fails
  | filled attributes content unwrap =>
      have behind := (enters.prepared attributes content).asked (onlyAsks.unwrapStage _) unwrap
      exact ⟨by simp, fun _ => ⟨_, _, rfl, behind, fun sure =>
        absurd content (sure.not_filled enters attributes)⟩⟩
  | kept attributes content untargeted unwrap inside inductionHypothesis =>
      have within := inductionHypothesis (enters.inside attributes content unwrap)
      exact (within.rework _).through (fun _ held => held) fun sure =>
        sure.inside enters attributes untargeted
  | including attributes content targeted read deeper unwrap inductionHypothesis =>
      obtain ⟨outer, addressed⟩ := enters.including attributes content targeted read
      have arrives := inductionHypothesis addressed
      refine ⟨arrives.shallow, fun answered => ?_⟩
      obtain ⟨_, _, ended, held, reached⟩ := arrives.succeeds answered
      cases ended
      have behind := (outer.restored held).asked (onlyAsks.unwrapStage _) unwrap
      exact ⟨_, _, rfl, behind, fun _ => reached trivial⟩
  | includingFails attributes content targeted read deeper inductionHypothesis =>
      exact (inductionHypothesis (enters.including attributes content targeted read).2).fails
  | refused tooDeep =>
      refine ⟨fun event eventMem => ?_, fun answered => by simp [Event.isRefusal] at answered⟩
      rw [List.mem_singleton.mp eventMem]
      exact enters.fits
  | unaddressed within address => cases enters.before.1.symm.trans address
  | missing within address answer =>
      obtain ⟨after, found, -⟩ := enters.walked starts
      cases enters.before.1.symm.trans address
      cases found.symm.trans answer
  | walked within address answer walk inductionHypothesis =>
      obtain ⟨after, found, inside⟩ := enters.walked starts
      cases enters.before.1.symm.trans address
      cases found.symm.trans answer
      exact (inductionHypothesis inside).walked enters.fits _
  | template walk inductionHypothesis =>
      obtain ⟨⟨inside, rfl⟩, before⟩ := enters
      have within := inductionHypothesis ⟨⟨inside, starts.targets _ inside⟩, before⟩
      exact (within.rework _).through (fun _ held => held) (starts.reaches _)

/-- The renderer may have any other limit. -/
theorem Starts.withLimit {scene : Scene World} (starts : chain.Starts renderer host scene)
    (limit : Nat) : chain.Starts (renderer.withLimit limit) host scene :=
  ⟨starts.addressed, starts.resolvable, starts.targets, starts.reaches⟩

/-- A chain is rendered if its includes are within the limit, and only then. -/
theorem Starts.succeeds_iff {scene : Scene World} (starts : chain.Starts renderer host scene)
    (limit : Nat) :
    (∃ nodes after, (renderer.withLimit limit).render host scene = .ok nodes after) ↔
      chain.length ≤ limit := by
  -- The limit that has just room for the chain tells how deep its includes get.
  obtain ⟨log, ending, runs⟩ :=
    Renderer.ends (renderer.withLimit chain.length) host (.addressed 0) scene
  have arrives := (starts.withLimit chain.length).arrives_of_runs runs
    ⟨Nat.zero_le _, starts.addressed, .start⟩
  have answered : ∀ event ∈ log, event.isRefusal = false := fun event member =>
    (runs.isRefusal_eq_false_iff event member).mpr (arrives.shallow event member)
  obtain ⟨nodes, after, rfl, -, reached⟩ := arrives.succeeds answered
  exact runs.succeeds_iff arrives.shallow (reached trivial)

end IncludeChain

namespace Renderer

/-- Higher limits change nothing, and a chain is rendered exactly if the limit has room. -/
theorem render_withLimit (renderer : Renderer) (host : Host World) (scene : Scene World) :
    (∀ limit higher, limit ≤ higher → ∀ call : Call,
      (∀ after, call.action (renderer.withLimit limit) host scene ≠
        .error (.includeDepthExceeded limit) after) →
      call.action (renderer.withLimit higher) host scene =
        call.action (renderer.withLimit limit) host scene) ∧
    ∀ chain : IncludeChain, chain.Starts renderer host scene → ∀ limit,
      (∃ nodes after, (renderer.withLimit limit).render host scene = .ok nodes after) ↔
        chain.length ≤ limit :=
  ⟨fun _ _ raised call fits => action_withLimit raised call scene fits,
    fun _ starts limit => starts.succeeds_iff limit⟩

/-- Two files with three fragments, each of which includes the next one. -/
def chainFiles : List (String × String) :=
  [("/a.html", "<template data-fly-name='a'><p data-fly-include='b'>x</p></template>" ++
      "<template data-fly-name='b'><ul><li data-fly-include='/c.html#c'></li></ul></template>"),
    ("/c.html", "<template data-fly-name='c'>end</template>")]

/-- Two fragments in one file and one in another. -/
def chainKeys : List TemplateKey := [⟨"/a.html", "a"⟩, ⟨"/a.html", "b"⟩, ⟨"/c.html", "c"⟩]

def chainTags : List Tag :=
  [⟨"p", ⟨[(Directive.included, "b")]⟩⟩, ⟨"ul", ∅⟩,
    ⟨"li", ⟨[(Directive.included, "/c.html#c")]⟩⟩]

/-- Fragments that include the next one. -/
def chainFragments : List Template :=
  [⟨"faintly-template--a-html-a", "/a.html", "a",
      [.element ⟨"p", ⟨[(Directive.included, "b")]⟩⟩ [.text "x"]]⟩,
    ⟨"faintly-template--a-html-b", "/a.html", "b",
      [.element ⟨"ul", ∅⟩ [.element ⟨"li", ⟨[(Directive.included, "/c.html#c")]⟩⟩ []]]⟩,
    ⟨"faintly-template--c-html-c", "/c.html", "c", [.text "end"]⟩]

/-- The three fragments as a chain. -/
def sampleChain : IncludeChain where
  length := 2
  key depth := chainKeys.getD depth ⟨"", ""⟩
  fragment depth := chainFragments.getD depth ⟨"", "", "", []⟩

/-- A scene that addresses the first fragment. -/
def chainScene : Scene Unit :=
  { context := (∅ : Context).setTemplate "/a.html" "a", cache := .empty, world := () }

/-- The fragments are what the files hold. -/
theorem parseFile_chainFiles : ∀ file ∈ chainFiles, Template.parseFile file.1 file.2 =
    .ok (chainFragments.filter (·.path = file.1)) := by
  decide +kernel

theorem mem_chainKeys_of_declared {key : TemplateKey}
    (declared : key.Declared (Host.holding chainFiles).fetching) : key ∈ chainKeys := by
  obtain ⟨template, offered, rfl⟩ := declared
  obtain ⟨file, among, member⟩ := List.mem_flatMap.mp (Host.mem_templatesOf_of_offered offered)
  rw [parseFile_chainFiles file among, Except.toOption, Option.getD_some, List.mem_filter]
    at member
  have listed : ∀ template ∈ chainFragments, template.key ∈ chainKeys := by decide +kernel
  exact listed template member.1

/-- Every key of the chain resolves to its fragment. -/
theorem resolve_chainFiles {depth : Nat} (inside : depth ≤ sampleChain.length) :
    sampleChain.key depth ∈ chainKeys ∧
      (Cache.empty.resolve (Host.holding chainFiles).fetching (sampleChain.key depth) ()).1.1 =
        .ok (sampleChain.fragment depth) := by
  have found : ∀ depth ≤ 2, sampleChain.key depth ∈ chainKeys ∧
      (∃ file ∈ chainFiles, file.1 = (sampleChain.key depth).path ∧
        ((Host.holding chainFiles).fetching file.1 ()).1 = .ok file.2) ∧
      Cache.pick (chainFragments.filter (·.path = (sampleChain.key depth).path))
        (sampleChain.key depth) = .ok (sampleChain.fragment depth) := by decide +kernel
  obtain ⟨among, ⟨file, held, path, answered⟩, picked⟩ := found depth inside
  have parsed := parseFile_chainFiles file held
  rw [path] at answered parsed
  exact ⟨among, (Cache.resolve_empty_of_parse answered parsed).trans picked⟩

theorem apart_chainKeys : TemplateKey.Apart (· ∈ chainKeys) := by
  have apart : ∀ first ∈ chainKeys, ∀ second ∈ chainKeys, first.id = second.id →
      first.path = second.path := by decide +kernel
  exact fun first second firstIn secondIn => apart first firstIn second secondIn

theorem keepsAddress_chainTags {tag : Tag} (among : tag ∈ chainTags) : tag.KeepsAddress := by
  have unqualified : ∀ tag ∈ chainTags, ∀ full ∈ tag.attributes.keys,
      ∀ base ∈ Directive.qualifiedBases, Qualified.qualifier? base full = none := by decide +kernel
  exact Tag.keepsAddress_of_isUnqualified (unqualified tag among)

theorem starts_sampleChain : sampleChain.Starts bareRenderer (.holding chainFiles) chainScene where
  addressed := by
    have nonempty : (sampleChain.key 0).path ≠ "" := by decide
    exact TemplateKey.ofContext?_setTemplate _ _ nonempty
  resolvable depth inside cache follows world := by
    obtain ⟨among, fresh⟩ := resolve_chainFiles inside
    have consistent := follows.consistent (Cache.consistent_empty _)
    rw [← fresh]
    exact consistent.resolve_eq_fresh (fun _ _ _ => rfl) apart_chainKeys
      (fun _ => mem_chainKeys_of_declared) among world ()
  targets depth inside tag among := by
    have listed : ∀ depth ≤ 2, ∀ tag ∈ Node.tagsOf (sampleChain.fragment depth).content,
        tag ∈ chainTags := by decide +kernel
    have unaddressed := keepsAddress_chainTags (listed depth inside tag among)
    have bare : tag.get? Directive.attributes = none := by
      have all : ∀ tag ∈ chainTags, tag.get? Directive.attributes = none := by decide +kernel
      exact all tag (listed depth inside tag among)
    match depth, inside with
    | 0, _ =>
        obtain rfl := List.mem_singleton.mp among
        apply Tag.targets_of_literal bare unaddressed rfl (by decide +kernel)
        intro context inPath
        rw [Render.includeKey, if_neg (by decide), inPath]
        rfl
    | 1, _ =>
        obtain rfl | deeper := List.mem_cons.mp among
        · exact Tag.targets_of_none bare unaddressed rfl
        · obtain rfl := List.mem_singleton.mp deeper
          apply Tag.targets_of_literal bare unaddressed rfl (by decide +kernel)
          intro context inPath
          rw [Render.includeKey, if_pos (by decide)]
          decide +kernel
    | 2, _ => cases among
  reaches depth inside :=
    match depth, inside with
    | 0, _ => .here rfl rfl rfl rfl
    | 1, _ => .inside rfl rfl rfl (.here rfl rfl rfl rfl)

/-- With one include allowed, the three fragments are too many; with two they are rendered. -/
theorem render_withLimit_chainFiles :
    (∀ nodes after, (bareRenderer.withLimit 1).render (.holding chainFiles) chainScene ≠
      .ok nodes after) ∧
    ∃ nodes after, (bareRenderer.withLimit 2).render (.holding chainFiles) chainScene =
      .ok nodes after := by
  have rendered := (render_withLimit bareRenderer (.holding chainFiles) chainScene).2 sampleChain
    starts_sampleChain
  refine ⟨fun nodes after succeeded => ?_, (rendered 2).mpr (by decide)⟩
  exact absurd ((rendered 1).mp ⟨nodes, after, succeeded⟩) (by decide)

end Renderer

end Stencil
