import Mathlib.Data.List.Forall2
import Stencil.Proofs.Render.Depth
import Stencil.Proofs.Render.Scope

/-! Contracts that the single stages keep, and that whole renders keep with them. -/

namespace Stencil

variable {World : Type}

namespace Render

/-- Evaluating changes at most the world. -/
theorem evaluate_at (host : Host World) (expression : String) (scene : Scene World) :
    evaluate host expression scene =
      .ok (host.answering.evaluate scene.context expression scene.world).1
        { scene with world := (host.answering.evaluate scene.context expression scene.world).2 } :=
  rfl

/-- A test stores its result under its qualifier, or changes nothing but the world. -/
theorem passes_of_ok {host : Host World} {guard? : Option Qualified} {scene after : Scene World}
    {passed : Bool} (ran : passes host guard? scene = .ok passed after) :
    after.cache = scene.cache ∧ (after.context = scene.context ∨
      ∃ guard name, guard? = some guard ∧ guard.qualifier = some name ∧
        after.context = scene.context.insert (Text.lowerCase name) (.bool passed)) := by
  cases guard? with
  | none =>
      cases ran
      exact ⟨rfl, .inl rfl⟩
  | some guard =>
      rw [passes, bind_of_ok (evaluate_at _ _ _)] at ran
      cases qualified : guard.qualifier with
      | none =>
          rw [qualified] at ran
          cases ran
          exact ⟨rfl, .inl rfl⟩
      | some name =>
          rw [qualified] at ran
          cases ran
          exact ⟨rfl, .inr ⟨guard, name, rfl, qualified, rfl⟩⟩

/-- A repeat runs over the entries of the collection that its expression gives. -/
theorem repeatEntries_of_ok {host : Host World} {directive : Qualified} {scene after : Scene World}
    {entries : List (String × Value)} (ran : repeatEntries host directive scene = .ok entries after)
    {position : Nat} {entry : String × Value} (listed : entries[position]? = some entry) :
    ∃ value collection, Value.collection? value = some collection ∧
      (host.answering.evaluate scene.context directive.expression scene.world).1 = some value ∧
      collection.entries[position]? = some entry := by
  rw [repeatEntries, bind_of_ok (evaluate_at _ _ _)] at ran
  cases ran
  cases evaluated : (host.answering.evaluate scene.context directive.expression scene.world).1 with
  | none =>
      rw [evaluated] at listed
      cases listed
  | some value =>
      rw [evaluated, Option.bind_some] at listed
      cases collected : value.collection? with
      | none =>
          rw [collected] at listed
          cases listed
      | some collection =>
          rw [collected, Option.map_some, Option.getD_some] at listed
          exact ⟨value, collection, collected, rfl, listed⟩

/-- An attribute is written under its own name, and a directive as it is. -/
def WrittenFrom (entry written : String × String) : Prop :=
  written.1 = entry.1 ∧ (Directive.isDirective entry.1 = true → written.2 = entry.2)

/-- Attributes are written in their order, each from its own entry. -/
theorem forall₂_interpolateAttributes {host : Host World}
    {entries written : List (String × String)} {scene after : Scene World}
    (ran : interpolateAttributes host entries scene = .ok written after) :
    List.Forall₂ WrittenFrom entries written := by
  have closed := closed_succeeds host
  induction entries generalizing scene written with
  | nil =>
      cases ran
      exact .nil
  | cons entry rest inductionHypothesis =>
      obtain ⟨name, value⟩ := entry
      have step : ∃ text between, interpolateAttributes host ((name, value) :: rest) scene =
          (interpolateAttributes host rest >>= fun others => pure ((name, text) :: others))
            between ∧ (Directive.isDirective name = true → text = value) := by
        rw [interpolateAttributes]
        split
        · exact ⟨value, scene, rfl, fun _ => rfl⟩
        · rename_i plain
          obtain ⟨text, between, read⟩ := closed.interpolate value scene
          exact ⟨text, between, bind_of_ok read _, fun directive => absurd directive plain⟩
      obtain ⟨text, between, same, kept⟩ := step
      obtain ⟨others, last, ranBehind⟩ := closed.interpolateAttributes rest between
      rw [same, bind_of_ok ranBehind] at ran
      cases ran
      exact .cons ⟨rfl, kept⟩ (inductionHypothesis ranBehind)

/-- Attributes keep their names and places when their placeholders are replaced. -/
theorem names_interpolateAttributes {host : Host World} {entries written : List (String × String)}
    {scene after : Scene World}
    (ran : interpolateAttributes host entries scene = .ok written after) :
    written.map Prod.fst = entries.map Prod.fst := by
  have each := forall₂_interpolateAttributes ran
  clear ran
  induction each with
  | nil => rfl
  | cons here _ inductionHypothesis =>
      rw [List.map_cons, List.map_cons, here.1, inductionHypothesis]

/-- The value that is laid over the attributes of an element in a context. -/
def Laid (host : Host World) (context : Context) (tag : Tag) (value? : Option Value) : Prop :=
  ∀ value, value? = some value → ∃ expression world,
    tag.get? Directive.attributes = some expression ∧
      (host.answering.evaluate context expression world).1 = some value

/-- What a tag is once its attributes are written and laid over. -/
theorem attributeStage_of_ok {host : Host World} {tag written : Tag} {scene after : Scene World}
    (ran : attributeStage host tag scene = .ok written after) :
    ∃ entries value?, entries.map Prod.fst = (tag.remove Directive.attributes).attributes.keys ∧
      Laid host scene.context tag value? ∧ written = ⟨tag.name, overlay ⟨entries⟩ value?⟩ := by
  have closed := closed_succeeds host
  obtain ⟨entries, between, interpolated⟩ :=
    closed.interpolateAttributes (tag.remove Directive.attributes).attributes.entries scene
  have kept : between.context = scene.context := by
    have asks := (closed_onlyAsks host).interpolateAttributes
    obtain ⟨world, rfl⟩ := (asks _).exists_world interpolated
    rfl
  replace ran := (bind_of_ok interpolated _).symm.trans ran
  cases held : tag.get? Directive.attributes with
  | none =>
      rw [held] at ran
      cases ran
      exact ⟨entries, none, names_interpolateAttributes interpolated, nofun, rfl⟩
  | some expression =>
      rw [held] at ran
      replace ran := (bind_of_ok (evaluate_at host expression between) _).symm.trans ran
      cases ran
      refine ⟨entries, _, names_interpolateAttributes interpolated, ?_, rfl⟩
      intro value evaluated
      exact ⟨expression, between.world, held, kept ▸ evaluated⟩

/-- The content that a directive sets is what its expression gives. -/
theorem contentStage_of_ok {host : Host World} {tag : Tag} {nodes : List Node}
    {scene after : Scene World} (ran : contentStage host tag scene = .ok (some nodes) after) :
    ∃ expression, tag.get? Directive.content = some expression ∧ nodes =
      contentNodes (host.answering.evaluate scene.context expression scene.world).1 := by
  cases held : tag.get? Directive.content with
  | none =>
      rw [contentStage, held] at ran
      cases ran
  | some expression =>
      rw [contentStage, held] at ran
      replace ran := (bind_of_ok (evaluate_at host expression scene) _).symm.trans ran
      cases ran
      exact ⟨expression, rfl, rfl⟩

/-- A marker is taken away or stays. -/
theorem unwrapStage_of_ok {host : Host World} {tag last : Tag} {scene after : Scene World}
    (ran : unwrapStage host tag scene = .ok last after) :
    last = tag ∨ last = tag.remove Directive.unwrap := by
  cases held : tag.get? Directive.unwrap with
  | none =>
      rw [unwrapStage, held] at ran
      cases ran
      exact .inl rfl
  | some expression =>
      by_cases marked : expression = ""
      · simp only [unwrapStage, held, marked, if_true] at ran
        cases ran
        exact .inl rfl
      · simp only [unwrapStage, held, marked, if_false, bind_of_ok (evaluate_at _ _ _)] at ran
        cases ran
        split
        · exact .inl rfl
        · exact .inr rfl

/-- A name behind an overlay was there before or comes from the map. -/
theorem mem_keys_overlay {attributes : OrderedMap String} {value? : Option Value} {name : String}
    (member : name ∈ (overlay attributes value?).keys) :
    name ∈ attributes.keys ∨ ∃ entries, value? = some (.map entries) ∧
      ∃ entry ∈ entries.entries, entry.1.toLower = name := by
  unfold overlay at member
  split at member
  · rename_i entries
    suffices held : name ∈ attributes.keys ∨ ∃ entry ∈ entries.entries, entry.1.toLower = name from
      held.imp_right fun named => ⟨entries, rfl, named⟩
    revert member
    generalize entries.entries = list
    intro member
    induction list generalizing attributes with
    | nil => exact .inl member
    | cons entry rest inductionHypothesis =>
        rcases inductionHypothesis member with before | ⟨other, among, named⟩
        · rw [overlayEntry] at before
          split at before
          · rw [OrderedMap.keys_erase] at before
            exact .inl (List.mem_filter.mp before).1
          · obtain ⟨text, found⟩ := OrderedMap.mem_keys_iff.mp before
            rw [OrderedMap.get?_insert] at found
            split at found
            · rename_i same
              exact .inr ⟨entry, List.mem_cons_self, same.symm⟩
            · exact .inl (OrderedMap.mem_keys_iff.mpr ⟨text, found⟩)
        · exact .inr ⟨other, List.mem_cons_of_mem _ among, named⟩
  · exact .inl member

/-- An overlay keeps names distinct. -/
theorem nodup_keys_overlay {attributes : OrderedMap String} (distinct : attributes.keys.Nodup)
    (value? : Option Value) : (overlay attributes value?).keys.Nodup := by
  unfold overlay
  split
  · rename_i entries
    generalize entries.entries = list
    induction list generalizing attributes with
    | nil => exact distinct
    | cons entry rest inductionHypothesis =>
        apply inductionHypothesis
        rw [overlayEntry]
        split
        · exact OrderedMap.nodup_keys_erase distinct _
        · exact OrderedMap.nodup_keys_insert distinct _ _
  · exact distinct

end Render

namespace Renderer

open Render

/-- What holds of contexts and the cache, and of nodes and tags at each stage. -/
structure Contract (renderer : Renderer) (host : Host World) where
  context : Context → Prop
  addressed : Context → Prop
  cache : Cache → Prop
  fit : Node → Prop
  drawn : Tag → Prop
  done : Node → Prop
  below : ∀ {tag children}, fit (.element tag children) → ∀ child ∈ children, fit child
  copied : ∀ {tag children directive}, fit (.element tag children) →
    tag.withoutGuard.repeat? = some directive →
      fit (.element (tag.withoutGuard.remove directive.name) children)
  visitedText : ∀ {content scope}, fit (.text content) → context scope →
    context (scope.setCurrentNode (.text content))
  visited : ∀ {tag children scope}, fit (.element tag children) → context scope →
    context (scope.setCurrentNode (.element tag []))
  tested : ∀ {tag children guard name scope} (passed : Bool), fit (.element tag children) →
    tag.guard? = some guard → guard.qualifier = some name → context scope →
      context (scope.insert (Text.lowerCase name) (.bool passed))
  bound : ∀ {tag children directive scope world value collection position entry},
    fit (.element tag children) → tag.withoutGuard.repeat? = some directive → context scope →
      (host.answering.evaluate scope directive.expression world).1 = some value →
      value.collection? = some collection → collection.entries[position]? = some entry →
        context (bindItem (itemName directive) position entry scope)
  attributes : ∀ {tag children entries value? scope}, fit (.element tag children) →
    tag.withoutGuard.repeat? = none → context scope →
      entries.map Prod.fst = (tag.withoutGuard.remove Directive.attributes).attributes.keys →
      Laid host scope tag.withoutGuard value? →
        drawn ⟨tag.withoutGuard.name, overlay ⟨entries⟩ value?⟩
  removed : ∀ {tag} name, drawn tag → drawn (tag.remove name)
  content : ∀ {tag expression scope} (world : World), drawn tag →
    tag.get? Directive.content = some expression → context scope →
      ∀ node ∈ contentNodes (host.answering.evaluate scope expression world).1, done node
  included : ∀ {tag value scope} target, drawn tag → tag.get? Directive.included = some value →
    context scope →
      addressed (scope.setTemplate (includeKey scope target).path (includeKey scope target).name)
  entered : ∀ {scope key}, addressed scope →
    TemplateKey.ofContext? scope renderer.config.codeBasePath = some key →
      context (scope.setTemplate key.path key.name)
  found : ∀ {scope store key world template}, addressed scope → cache store →
    (store.resolve host.fetching key world).1.1 = .ok template →
      cache (store.resolve host.fetching key world).1.2 ∧ ∀ node ∈ template.content, fit node
  text : ∀ content, done (.text content)
  comment : ∀ {content}, fit (.comment content) → done (.comment content)
  element : ∀ {tag children}, drawn tag → (∀ child ∈ children, done child) →
    done (.element tag children)
  finished : ∀ {nodes}, (∀ node ∈ nodes, done node) → ∀ node ∈ renderer.finish nodes, done node

namespace Contract

variable {renderer : Renderer} {host : Host World}

/-- The context and the cache of a scene are as the contract has them. -/
def Holds (contract : Contract renderer host) (scene : Scene World) : Prop :=
  contract.context scene.context ∧ contract.cache scene.cache

/-- The calls that a contract is about, with the scenes they may start from. -/
def Allows (contract : Contract renderer host) (scene : Scene World) : Call → Prop
  | .addressed _ => contract.addressed scene.context ∧ contract.cache scene.cache
  | .template _ fragment =>
      contract.Holds scene ∧ ∀ node ∈ fragment.content, contract.fit node
  | .nodes _ nodes => contract.Holds scene ∧ ∀ node ∈ nodes, contract.fit node
  | .element _ tag children => contract.Holds scene ∧ contract.fit (.element tag children)
  | .copies _ tag children name position entries =>
      contract.Holds scene ∧ contract.fit (.element tag children) ∧
        ∀ offset entry, entries[offset]? = some entry →
          contract.context (bindItem name (position + offset) entry scene.context)
  | .content _ tag children =>
      contract.Holds scene ∧ ∃ whole, contract.fit (.element whole children) ∧
        whole.withoutGuard.repeat? = none ∧ whole.withoutGuard = tag

/-- The endings that a contract allows. Only includes fail. -/
def Meets (contract : Contract renderer host) : Ending World → Prop
  | .ok nodes after => contract.Holds after ∧ ∀ node ∈ nodes, contract.done node
  | .error _ _ => ∃ scope, contract.addressed scope

/-- Changing the nodes of a call keeps the contract if they stay done. -/
theorem Meets.rework {contract : Contract renderer host} {ending : Ending World}
    (meets : contract.Meets ending) {change : List Node → List Node}
    (kept : ∀ nodes, (∀ node ∈ nodes, contract.done node) →
      ∀ node ∈ change nodes, contract.done node) : contract.Meets (ending.rework change) := by
  cases ending with
  | ok nodes after => exact ⟨meets.1, kept nodes meets.2⟩
  | error cause after => exact meets

/-- Questions to the host keep a contract. -/
theorem Holds.asked {α : Type} {contract : Contract renderer host} {action : Render World α}
    {scene after : Scene World} {answer : α} (holds : contract.Holds scene)
    (asks : OnlyAsks action) (ran : action scene = .ok answer after) : contract.Holds after := by
  obtain ⟨world, rfl⟩ := asks.exists_world ran
  exact holds

/-- A scope gives its context back over the cache that it leaves. -/
theorem Holds.restored {contract : Contract renderer host} {scene inner : Scene World}
    (holds : contract.Holds scene) (between : contract.Holds inner) :
    contract.Holds { inner with context := scene.context } :=
  ⟨holds.1, between.2⟩

section Stages

variable {contract : Contract renderer host} {tag whole written last : Tag}
  {children nodes : List Node} {scene first second after : Scene World}

/-- A test keeps the contract. -/
theorem holds_passes {passed : Bool} (holds : contract.Holds scene)
    (fit : contract.fit (.element tag children))
    (ran : passes host tag.guard? (scene.visiting (.element tag [])) = .ok passed after) :
    contract.Holds after := by
  have visited : contract.context (scene.visiting (.element tag [])).context :=
    contract.visited fit holds.1
  obtain ⟨sameCache, stored⟩ := passes_of_ok ran
  refine ⟨?_, sameCache ▸ holds.2⟩
  rcases stored with same | ⟨guard, name, search, qualified, stored⟩
  · exact same ▸ visited
  · rw [stored]
    exact contract.tested passed fit search qualified visited

/-- A tag that fits is drawn by the stage of its attributes. -/
theorem drawn_attributeStage (holds : contract.Holds scene)
    (fit : contract.fit (.element whole children)) (unrepeated : whole.withoutGuard.repeat? = none)
    (attributes : attributeStage host whole.withoutGuard scene = .ok written first) :
    contract.drawn written := by
  obtain ⟨entries, value?, names, laid, rfl⟩ := attributeStage_of_ok attributes
  exact contract.attributes fit unrepeated holds.1 names laid

/-- Content that replaces the children is done. -/
theorem done_contentStage (holds : contract.Holds first) (drawn : contract.drawn written)
    (content : contentStage host written first = .ok (some nodes) second) :
    ∀ node ∈ nodes, contract.done node := by
  obtain ⟨expression, held, rfl⟩ := contentStage_of_ok content
  exact contract.content first.world drawn held holds.1

/-- The element that a call leaves is drawn, and done with the content that it has. -/
theorem meets_unwrapStage (holds : contract.Holds scene) (drawn : contract.drawn written)
    (unwrap : unwrapStage host
      ((written.remove Directive.content).remove Directive.included) scene = .ok last after)
    (done : ∀ node ∈ nodes, contract.done node) :
    contract.Meets (.ok [.element last nodes] after) := by
  have before := contract.removed Directive.included (contract.removed Directive.content drawn)
  have drawnLast : contract.drawn last := by
    rcases unwrapStage_of_ok unwrap with rfl | rfl
    · exact before
    · exact contract.removed _ before
  exact ⟨holds.asked ((closed_onlyAsks host).unwrapStage _) unwrap,
    List.forall_mem_singleton.mpr (contract.element drawnLast done)⟩

end Stages

/-! A contract allows the calls that an allowed call makes. -/

namespace Allows

variable {contract : Contract renderer host} {depth : Nat} {tag written : Tag}
  {children rest : List Node} {scene inner after : Scene World}

theorem text {content text : String}
    (allowed : contract.Allows scene (.nodes depth (.text content :: rest)))
    (read : interpolate host content (scene.visiting (.text content)) = .ok text after) :
    contract.Allows after (.nodes depth rest) := by
  obtain ⟨holds, fit⟩ := allowed
  obtain ⟨here, behind⟩ := List.forall_mem_cons.mp fit
  have visited : contract.Holds (scene.visiting (.text content)) :=
    ⟨contract.visitedText here holds.1, holds.2⟩
  exact ⟨visited.asked ((closed_onlyAsks host).interpolate _) read, behind⟩

section Tested

variable (allowed : contract.Allows scene (.element depth tag children))
  (tested : passes host tag.guard? (scene.visiting (.element tag [])) = .ok true inner)
include allowed tested

theorem repeated {directive : Qualified} {entries : List (String × Value)}
    (search : tag.withoutGuard.repeat? = some directive)
    (read : repeatEntries host directive inner = .ok entries after) :
    contract.Allows after (.copies depth (tag.withoutGuard.remove directive.name) children
      (itemName directive) 0 entries) := by
  obtain ⟨holds, fit⟩ := allowed
  have passed := holds_passes holds fit tested
  have asks := (closed_onlyAsks host).repeatEntries directive
  refine ⟨passed.asked asks read, contract.copied fit search, fun offset entry listed => ?_⟩
  obtain ⟨value, collection, collected, evaluated, held⟩ := repeatEntries_of_ok read listed
  obtain ⟨world, rfl⟩ := asks.exists_world read
  rw [Nat.zero_add]
  exact contract.bound fit search passed.1 evaluated collected held

theorem shown (search : tag.withoutGuard.repeat? = none) :
    contract.Allows inner (.content depth tag.withoutGuard children) :=
  ⟨holds_passes allowed.1 allowed.2 tested, tag, allowed.2, search, rfl⟩

end Tested

section Copies

variable {name : String} {position : Nat} {entry : String × Value} {later : List (String × Value)}
  (allowed : contract.Allows scene (.copies depth tag children name position (entry :: later)))
include allowed

theorem copy : contract.Allows
    { scene with context := bindItem name position entry scene.context }
      (.element depth tag children) :=
  ⟨⟨allowed.2.2 0 entry rfl, allowed.1.2⟩, allowed.2.1⟩

/-- The next copy starts from the context around the repeat. -/
theorem others (between : contract.Holds inner) :
    contract.Allows { inner with context := scene.context }
      (.copies depth tag children name (position + 1) later) := by
  obtain ⟨holds, fit, bound⟩ := allowed
  refine ⟨holds.restored between, fit, fun offset next listed => ?_⟩
  rw [Nat.add_assoc, Nat.add_comm 1]
  exact bound (offset + 1) next listed

end Copies

section Content

variable {first second : Scene World}
  (allowed : contract.Allows scene (.content depth tag children))
  (attributes : attributeStage host tag scene = .ok written first)
include allowed attributes

theorem prepared {content? : Option (List Node)}
    (content : contentStage host written first = .ok content? second) :
    contract.drawn written ∧ contract.Holds second := by
  obtain ⟨holds, whole, fit, unrepeated, rfl⟩ := allowed
  have asks := closed_onlyAsks host
  exact ⟨drawn_attributeStage holds fit unrepeated attributes,
    (holds.asked (asks.attributeStage _) attributes).asked (asks.contentStage _) content⟩

/-- A content of its own is done. -/
theorem filled {nodes : List Node}
    (content : contentStage host written first = .ok (some nodes) second) :
    ∀ node ∈ nodes, contract.done node := by
  have drawn := (allowed.prepared attributes content).1
  have before := allowed.1.asked ((closed_onlyAsks host).attributeStage _) attributes
  exact done_contentStage before drawn content

theorem inside {last : Tag} (content : contentStage host written first = .ok none second)
    (unwrap : unwrapStage host
      ((written.remove Directive.content).remove Directive.included) second = .ok last after) :
    contract.Allows after (.nodes depth children) := by
  have prepared := (allowed.prepared attributes content).2
  obtain ⟨-, whole, fit, -⟩ := allowed
  exact ⟨prepared.asked ((closed_onlyAsks host).unwrapStage _) unwrap, contract.below fit⟩

/-- The include of an element is allowed in the scope of its target. -/
theorem including {value target : String}
    (content : contentStage host written first = .ok none second)
    (targeted : (written.remove Directive.content).get? Directive.included = some value)
    (read : interpolate host value second = .ok target inner) :
    contract.Holds inner ∧
      contract.Allows (inner.including target) (.addressed (depth + 1)) := by
  obtain ⟨drawn, prepared⟩ := allowed.prepared attributes content
  have asked := prepared.asked ((closed_onlyAsks host).interpolate _) read
  exact ⟨asked, contract.included _ (contract.removed _ drawn) targeted asked.1, asked.2⟩

end Content

theorem walked {key : TemplateKey} {template : Template}
    (allowed : contract.Allows scene (.addressed depth))
    (address : TemplateKey.ofContext? scene.context renderer.config.codeBasePath = some key)
    (answer : lookUp host key (scene.addressing key) = .ok template inner) :
    contract.Allows inner (.template depth template) := by
  obtain ⟨addressed, cache⟩ := allowed
  rw [lookUp_eq] at answer
  split at answer
  · rename_i found resolved
    cases answer
    obtain ⟨stored, fit⟩ := contract.found addressed cache resolved
    rw [leaves_lookUp]
    exact ⟨⟨contract.entered addressed address, stored⟩, fit⟩
  · cases answer

end Allows

/-- Every call keeps a contract, by induction on its run. -/
theorem meets_of_runs (contract : Contract renderer host) {call : Call} {scene : Scene World}
    {log : List Event} {ending : Ending World} (runs : Runs renderer host call scene log ending)
    (allowed : contract.Allows scene call) : contract.Meets ending := by
  induction runs with
  | noNodes | noCopies => exact ⟨allowed.1, nofun⟩
  | comment others inductionHypothesis =>
      obtain ⟨here, behind⟩ := List.forall_mem_cons.mp allowed.2
      exact (inductionHypothesis ⟨allowed.1, behind⟩).rework fun nodes each =>
        List.forall_mem_cons.mpr ⟨contract.comment here, each⟩
  | text read others inductionHypothesis =>
      exact (inductionHypothesis (allowed.text read)).rework fun nodes each =>
        List.forall_mem_cons.mpr ⟨contract.text _, each⟩
  | element first others firstHypothesis othersHypothesis =>
      obtain ⟨here, behind⟩ := List.forall_mem_cons.mp allowed.2
      obtain ⟨between, done⟩ := firstHypothesis ⟨allowed.1, here⟩
      exact (othersHypothesis ⟨between, behind⟩).rework fun nodes each =>
        List.forall_mem_append.mpr ⟨done, each⟩
  | elementFails first inductionHypothesis =>
      exact inductionHypothesis ⟨allowed.1, allowed.2 _ List.mem_cons_self⟩
  | hidden tested => exact ⟨holds_passes allowed.1 allowed.2 tested, nofun⟩
  | repeated tested search read each inductionHypothesis =>
      exact inductionHypothesis (allowed.repeated tested search read)
  | shown tested search behind inductionHypothesis =>
      exact inductionHypothesis (allowed.shown tested search)
  | copy first others firstHypothesis othersHypothesis =>
      obtain ⟨between, done⟩ := firstHypothesis allowed.copy
      exact (othersHypothesis (allowed.others between)).rework fun nodes each =>
        List.forall_mem_append.mpr ⟨done, each⟩
  | copyFails first inductionHypothesis => exact inductionHypothesis allowed.copy
  | filled attributes content unwrap =>
      obtain ⟨drawn, prepared⟩ := allowed.prepared attributes content
      exact meets_unwrapStage prepared drawn unwrap (allowed.filled attributes content)
  | kept attributes content untargeted unwrap inside inductionHypothesis =>
      obtain ⟨drawn, prepared⟩ := allowed.prepared attributes content
      exact (inductionHypothesis (allowed.inside attributes content unwrap)).rework
        fun nodes each => (meets_unwrapStage prepared drawn unwrap each).2
  -- The include runs in a scope of its own, so that the element gets its context back.
  | including attributes content targeted read deeper unwrap inductionHypothesis =>
      obtain ⟨outer, addressed⟩ := allowed.including attributes content targeted read
      obtain ⟨between, done⟩ := inductionHypothesis addressed
      exact meets_unwrapStage (outer.restored between) (allowed.prepared attributes content).1
        unwrap done
  | includingFails attributes content targeted read deeper inductionHypothesis =>
      exact ⟨_, (allowed.including attributes content targeted read).2.1⟩
  | refused | unaddressed | missing => exact ⟨_, allowed.1⟩
  | walked within address answer walk inductionHypothesis =>
      exact inductionHypothesis (allowed.walked address answer)
  | template walk inductionHypothesis =>
      exact (inductionHypothesis allowed).rework fun nodes => contract.finished

/-- A template is rendered under a contract. -/
theorem meets_renderTemplate (contract : Contract renderer host) {template : Template}
    (fit : ∀ node ∈ template.content, contract.fit node) {scene : Scene World}
    (context : contract.context scene.context) (cache : contract.cache scene.cache) :
    contract.Meets (renderer.renderTemplate host template scene) := by
  obtain ⟨log, ending, runs⟩ := ends renderer host (.template 0 template) scene
  rw [← action_template_zero, ← runs.eq_action]
  exact contract.meets_of_runs runs ⟨⟨context, cache⟩, fit⟩

/-- The template that a context addresses is rendered under a contract. -/
theorem meets_render (contract : Contract renderer host) {scene : Scene World}
    (addressed : contract.addressed scene.context) (cache : contract.cache scene.cache) :
    contract.Meets (renderer.render host scene) := by
  obtain ⟨log, ending, runs⟩ := ends renderer host (.addressed 0) scene
  rw [← action_addressed_zero, ← runs.eq_action]
  exact contract.meets_of_runs runs ⟨addressed, cache⟩

end Contract

end Renderer

end Stencil
