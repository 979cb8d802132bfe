import Stencil.Proofs.Expression.Data
import Stencil.Proofs.Render.Outcome

/-! The stages of an element on data, which can be told without a host. -/

namespace Stencil

/-- The keys that templates read, and the data that they meet there. -/
structure Terms where
  reads : String → Prop
  names : String → Prop
  withNodes : Prop
  dashless : ∀ key : String, '-' ∉ key.toList → names key
  laid : ∀ key, names key →
    key.toLower ∉ [Directive.content, Directive.included, Directive.unwrap]
  visited : reads Context.currentNodeKey → withNodes

/-- An include without a path means the same file, and so does a block. -/
structure Context.SameFile (left right : Context) : Prop where
  path : left.templatePath? = right.templatePath?
  block : left.blockName? = right.blockName?
  base : left.codeBasePath? = right.codeBasePath?

/-- Two contexts that a walk over templates cannot tell apart. -/
structure Terms.Alike (terms : Terms) (left right : Context) : Prop where
  data : Context.AgreeOn terms.reads terms.names terms.withNodes left right
  file : Context.SameFile left right

/-- The expression that a tag has under a name reads keys that are known. -/
def Terms.Knows (terms : Terms) (tag : Tag) (name : String) : Prop :=
  ∀ expression ∈ tag.get? name, ∀ key ∈ Path.readKeys expression, terms.reads key

/-- The terms know every directive whose keys are read. -/
theorem Terms.knows_of_readKeys {terms : Terms} {tag : Tag}
    (known : ∀ key ∈ tag.readKeys, terms.reads key) {name : String}
    (among : name ∈ [Directive.attributes, Directive.content, Directive.unwrap]) :
    terms.Knows tag name := fun _ held key read =>
  known key (Tag.readKeys_subset_of_get? held (Directive.takesExpression_of_mem among) read)

namespace Context

/-- Whether the value of an expression is true. -/
def isTrue (context : Context) (expression : String) : Bool :=
  ((context.valueOf? expression).map Value.isTruthy).getD false

/-- Whether an element with a test is rendered. -/
def passes (context : Context) : Option Qualified → Bool
  | none => true
  | some guard =>
      if guard.base = Directive.not then !context.isTrue guard.expression
      else context.isTrue guard.expression

/-- The context behind a test. -/
def tested (context : Context) (guard? : Option Qualified) : Context :=
  match guard?.bind Qualified.qualifier with
  | none => context
  | some name => context.insert (Text.lowerCase name) (.bool (context.passes guard?))

/-- The entries that a repeat runs over. -/
def repeatEntries (context : Context) (directive : Qualified) : List (String × Value) :=
  (((context.valueOf? directive.expression).bind Value.collection?).map Collection.entries).getD []

/-- An attribute with its placeholders replaced, unless it is a directive. -/
def writtenEntry (context : Context) (entry : String × String) : String × String :=
  (entry.1, if Directive.isDirective entry.1 then entry.2 else context.fill entry.2)

/-- The value of the map that is laid over the attributes. -/
def overlayOf? (context : Context) (tag : Tag) : Option Value :=
  (tag.get? Directive.attributes).bind context.valueOf?

/-- A tag with its attributes written, and a map laid over them. -/
def written (context : Context) (tag : Tag) : Tag :=
  let entries := (tag.remove Directive.attributes).attributes.entries.map context.writtenEntry
  { tag with attributes := Render.overlay ⟨entries⟩ (context.overlayOf? tag) }

/-- The content that a directive sets. -/
def contentOf? (context : Context) (tag : Tag) : Option (List Node) :=
  (tag.get? Directive.content).map fun expression =>
    Render.contentNodes (context.valueOf? expression)

/-- A tag without its marker, unless that is empty or true. -/
def marked (context : Context) (tag : Tag) : Tag :=
  match tag.get? Directive.unwrap with
  | none => tag
  | some expression =>
      if expression = "" then tag
      else if context.isTrue expression then tag else tag.remove Directive.unwrap

end Context

namespace Context.SameFile

variable {left right : Context}

theorem symm (same : SameFile left right) : SameFile right left :=
  ⟨same.path.symm, same.block.symm, same.base.symm⟩

/-- What two contexts tell about a file depends on three of their entries. -/
theorem of_get?_eq (same : ∀ key ∈ [templateKey, blockNameKey, codeBasePathKey],
    left.get? key = right.get? key) : SameFile left right where
  path := by rw [templatePath?, templatePath?, templateField?, templateField?, same _ (by simp)]
  block := by rw [blockName?, blockName?, same _ (by simp)]
  base := by rw [codeBasePath?, codeBasePath?, same _ (by simp)]

theorem insert (same : SameFile left right) (key : String) (value : Value) :
    SameFile (left.insert key value) (right.insert key value) where
  path := by
    simp only [templatePath?, templateField?, OrderedMap.get?_insert]
    split
    · rfl
    · exact same.path
  block := by
    simp only [blockName?, OrderedMap.get?_insert]
    split
    · rfl
    · exact same.block
  base := by
    simp only [codeBasePath?, OrderedMap.get?_insert]
    split
    · rfl
    · exact same.base

/-- The visited node is no part of an address. -/
theorem setCurrentNode (same : SameFile left right) (first second : Node) :
    SameFile (left.setCurrentNode first) (right.setCurrentNode second) := by
  have kept (context : Context) (node : Node) : SameFile (context.setCurrentNode node) context := by
    apply of_get?_eq
    intro key among
    rw [Context.setCurrentNode, OrderedMap.get?_insert, if_neg]
    rintro rfl
    exact absurd among (by decide)
  have first := kept left first
  have second := (kept right second).symm
  exact ⟨first.path.trans (same.path.trans second.path),
    first.block.trans (same.block.trans second.block),
    first.base.trans (same.base.trans second.base)⟩

end Context.SameFile

namespace Terms.Alike

variable {terms : Terms} {left right : Context}

theorem symm (alike : terms.Alike left right) : terms.Alike right left :=
  ⟨alike.data.symm, alike.file.symm⟩

/-- Writing the same data under one key keeps two contexts alike. -/
theorem insert (alike : terms.Alike left right) (key : String) {value : Value}
    (data : value.Data terms.names terms.withNodes) :
    terms.Alike (left.insert key value) (right.insert key value) :=
  ⟨alike.data.insert key data, alike.file.insert key value⟩

theorem setTemplate (alike : terms.Alike left right) (path name : String) :
    terms.Alike (left.setTemplate path name) (right.setTemplate path name) :=
  alike.insert _ (Context.data_templateValue terms.dashless path name)

/-- A visited node that is not read may be another one. -/
theorem setCurrentNode_unread (alike : terms.Alike left right)
    (unread : ¬ terms.reads Context.currentNodeKey) (first second : Node) :
    terms.Alike (left.setCurrentNode first) (right.setCurrentNode second) :=
  ⟨alike.data.insert_unread unread _ _, alike.file.setCurrentNode first second⟩

theorem setCurrentNode (alike : terms.Alike left right) (node : Node) :
    terms.Alike (left.setCurrentNode node) (right.setCurrentNode node) := by
  by_cases read : terms.reads Context.currentNodeKey
  · exact alike.insert _ (.node (terms.visited read) node)
  · exact alike.setCurrentNode_unread read node node

theorem bindItem (alike : terms.Alike left right) (name : String) (position : Nat)
    {entry : String × Value} (data : entry.2.Data terms.names terms.withNodes) :
    terms.Alike (Render.bindItem name position entry left)
      (Render.bindItem name position entry right) :=
  (((alike.insert _ data).insert _ (.number _)).insert _ (.number _)).insert _ (.string _)

theorem isTrue_eq (alike : terms.Alike left right) {expression : String}
    (known : ∀ key ∈ Path.readKeys expression, terms.reads key) :
    left.isTrue expression = right.isTrue expression := by
  rw [Context.isTrue, Context.isTrue, alike.data.valueOf?_eq known]

theorem passes_eq (alike : terms.Alike left right) {guard? : Option Qualified}
    (known : ∀ guard ∈ guard?, ∀ key ∈ Path.readKeys guard.expression, terms.reads key) :
    left.passes guard? = right.passes guard? := by
  cases guard? with
  | none => rfl
  | some guard => rw [Context.passes, Context.passes, alike.isTrue_eq (known guard rfl)]

/-- The result of a test is the same in both contexts. -/
theorem tested (alike : terms.Alike left right) {guard? : Option Qualified}
    (known : ∀ guard ∈ guard?, ∀ key ∈ Path.readKeys guard.expression, terms.reads key) :
    terms.Alike (left.tested guard?) (right.tested guard?) := by
  unfold Context.tested
  split
  · exact alike
  · rw [alike.passes_eq known]
    exact alike.insert _ (.bool _)

theorem repeatEntries_eq (alike : terms.Alike left right) {directive : Qualified}
    (known : ∀ key ∈ Path.readKeys directive.expression, terms.reads key) :
    left.repeatEntries directive = right.repeatEntries directive := by
  rw [Context.repeatEntries, Context.repeatEntries, alike.data.valueOf?_eq known]

/-- The items of a collection are data. -/
theorem data_repeatEntries (alike : terms.Alike left right) {directive : Qualified}
    (known : ∀ key ∈ Path.readKeys directive.expression, terms.reads key) :
    ∀ entry ∈ left.repeatEntries directive, entry.2.Data terms.names terms.withNodes := by
  intro entry member
  rw [Context.repeatEntries] at member
  cases found : left.valueOf? directive.expression with
  | none =>
      rw [found] at member
      cases member
  | some value =>
      rw [found, Option.bind_some] at member
      cases held : value.collection? with
      | none =>
          rw [held] at member
          cases member
      | some collection =>
          rw [held] at member
          have data := alike.data.data_valueOf? terms.dashless known found
          exact data.collection? held entry member

theorem overlayOf?_eq (alike : terms.Alike left right) {tag : Tag}
    (known : terms.Knows tag Directive.attributes) :
    left.overlayOf? tag = right.overlayOf? tag := by
  rw [Context.overlayOf?, Context.overlayOf?]
  cases held : tag.get? Directive.attributes with
  | none => rw [Option.bind_none, Option.bind_none]
  | some expression =>
      rw [Option.bind_some, Option.bind_some, alike.data.valueOf?_eq (known expression held)]

theorem written_eq (alike : terms.Alike left right) {tag : Tag}
    (known : ∀ key ∈ tag.readKeys, terms.reads key) : left.written tag = right.written tag := by
  have entries : (tag.remove Directive.attributes).attributes.entries.map left.writtenEntry =
      (tag.remove Directive.attributes).attributes.entries.map right.writtenEntry := by
    apply List.map_congr_left
    intro entry member
    rw [Context.writtenEntry, Context.writtenEntry]
    cases directive : Directive.isDirective entry.1 with
    | true => rfl
    | false =>
        have held : entry ∈ tag.attributes.entries := (List.mem_filter.mp member).1
        have text : Directive.takesText entry.1 = true := by
          rw [Directive.takesText, directive, Bool.not_false, Bool.or_true]
        have filled := alike.data.fill_eq fun key read =>
          known key (Tag.mem_readKeys_of_text held text read)
        rw [filled]
  have value := alike.overlayOf?_eq (Terms.knows_of_readKeys known (by simp))
  rw [Context.written, Context.written, entries, value]

theorem contentOf?_eq (alike : terms.Alike left right) {tag : Tag}
    (known : terms.Knows tag Directive.content) : left.contentOf? tag = right.contentOf? tag := by
  rw [Context.contentOf?, Context.contentOf?]
  cases held : tag.get? Directive.content with
  | none => rw [Option.map_none, Option.map_none]
  | some expression =>
      rw [Option.map_some, Option.map_some, alike.data.valueOf?_eq (known expression held)]

theorem marked_eq (alike : terms.Alike left right) {tag : Tag}
    (known : terms.Knows tag Directive.unwrap) : left.marked tag = right.marked tag := by
  rw [Context.marked, Context.marked]
  cases held : tag.get? Directive.unwrap with
  | none => rfl
  | some expression => simp only [alike.isTrue_eq (known expression held)]

end Terms.Alike

namespace Render

variable {World : Type} {host : Host World} {terms : Terms} {scene : Scene World}
  {other : Context} (alike : terms.Alike scene.context other)
include alike

/-- On data, evaluating only reads the context. -/
theorem evaluate_run {expression : String}
    (known : ∀ key ∈ Path.readKeys expression, terms.reads key) :
    evaluate host expression scene = .ok (scene.context.valueOf? expression) scene := by
  simp only [evaluate, reading,
    alike.data.evaluate_eq terms.dashless host.answering known]
  rfl

/-- On data, interpolating only reads the context. -/
theorem interpolate_run {text : String}
    (known : ∀ key ∈ Placeholder.readKeys text, terms.reads key) :
    interpolate host text scene = .ok (scene.context.fill text) scene := by
  simp only [interpolate, reading,
    alike.data.interpolate_eq terms.dashless host.answering known]
  rfl

/-- On data, a test only stores its result. -/
theorem passes_run {guard? : Option Qualified}
    (known : ∀ guard ∈ guard?, ∀ key ∈ Path.readKeys guard.expression, terms.reads key) :
    passes host guard? scene = .ok (scene.context.passes guard?)
      { scene with context := scene.context.tested guard? } := by
  cases guard? with
  | none => rfl
  | some guard =>
      rw [passes, bind_of_ok (evaluate_run alike (known guard rfl))]
      cases qualified : guard.qualifier with
      | none => simp only [Context.tested, Option.bind_some, qualified]; rfl
      | some name => simp only [Context.tested, Option.bind_some, qualified]; rfl

theorem repeatEntries_run {directive : Qualified}
    (known : ∀ key ∈ Path.readKeys directive.expression, terms.reads key) :
    repeatEntries host directive scene = .ok (scene.context.repeatEntries directive) scene := by
  rw [repeatEntries, bind_of_ok (evaluate_run alike known)]
  rfl

theorem interpolateAttributes_run (entries : List (String × String))
    (known : ∀ entry ∈ entries, Directive.isDirective entry.1 = false →
      ∀ key ∈ Placeholder.readKeys entry.2, terms.reads key) :
    interpolateAttributes host entries scene =
      .ok (entries.map scene.context.writtenEntry) scene := by
  induction entries with
  | nil => rfl
  | cons entry rest inductionHypothesis =>
      obtain ⟨name, value⟩ := entry
      have behind := inductionHypothesis fun entry member =>
        known entry (List.mem_cons_of_mem _ member)
      rw [List.map_cons, Context.writtenEntry, interpolateAttributes]
      cases directive : Directive.isDirective name with
      | true =>
          simp only [if_true, pure_bind, bind_of_ok behind]
          rfl
      | false =>
          have filled : interpolate host value scene = .ok (scene.context.fill value) scene :=
            interpolate_run alike (known (name, value) List.mem_cons_self directive)
          simp only [Bool.false_eq_true, if_false, bind_of_ok filled, bind_of_ok behind]
          rfl

theorem attributeStage_run {tag : Tag} (known : ∀ key ∈ tag.readKeys, terms.reads key) :
    attributeStage host tag scene = .ok (scene.context.written tag) scene := by
  have texts : ∀ entry ∈ (tag.remove Directive.attributes).attributes.entries,
      Directive.isDirective entry.1 = false →
        ∀ key ∈ Placeholder.readKeys entry.2, terms.reads key := by
    intro entry member plain key read
    have text : Directive.takesText entry.1 = true := by
      rw [Directive.takesText, plain, Bool.not_false, Bool.or_true]
    exact known key (Tag.mem_readKeys_of_text (List.mem_filter.mp member).1 text read)
  have value : terms.Knows tag Directive.attributes := Terms.knows_of_readKeys known (by simp)
  rw [attributeStage, bind_of_ok (interpolateAttributes_run alike _ texts), Context.written,
    Context.overlayOf?]
  cases held : tag.get? Directive.attributes with
  | none => rfl
  | some expression =>
      rw [Option.bind_some]
      exact bind_of_ok (evaluate_run alike (value expression held)) _

theorem contentStage_run {tag : Tag} (known : terms.Knows tag Directive.content) :
    contentStage host tag scene = .ok (scene.context.contentOf? tag) scene := by
  rw [contentStage, Context.contentOf?]
  cases held : tag.get? Directive.content with
  | none => rfl
  | some expression => exact bind_of_ok (evaluate_run alike (known expression held)) _

theorem unwrapStage_run {tag : Tag} (known : terms.Knows tag Directive.unwrap) :
    unwrapStage host tag scene = .ok (scene.context.marked tag) scene := by
  rw [unwrapStage, Context.marked]
  cases held : tag.get? Directive.unwrap with
  | none => rfl
  | some expression =>
      by_cases empty : expression = ""
      · simp only [if_pos empty]
        rfl
      · simp only [if_neg empty]
        exact bind_of_ok (evaluate_run alike (known expression held)) _

end Render

end Stencil
