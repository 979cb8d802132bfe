import Stencil.Proofs.Render.Accord
import Stencil.Proofs.Render.OnData

/-! Stages of an element in two contexts that are alike. -/

namespace Stencil

/-- A written tag has its own directives, without the map's and those data may name. -/
def Terms.Written (terms : Terms) (tag written : Tag) : Prop :=
  ∀ name, Directive.isDirective name = true → (∀ key, terms.names key → key.toLower ≠ name) →
    written.get? name = (tag.remove Directive.attributes).get? name

/-- Directives are written as they are. -/
theorem Context.lookup_map_writtenEntry (context : Context) {name : String}
    (directive : Directive.isDirective name = true) (entries : List (String × String)) :
    (entries.map context.writtenEntry).lookup name = entries.lookup name := by
  induction entries with
  | nil => rfl
  | cons entry rest inductionHypothesis =>
      obtain ⟨first, value⟩ := entry
      rw [List.map_cons, writtenEntry, OrderedMap.lookup_cons, OrderedMap.lookup_cons,
        inductionHypothesis]
      by_cases same : name = first
      · subst same
        simp only [directive, if_true]
      · rw [if_neg same, if_neg same]

/-- An attribute that no entry of the map names stays as it was. -/
theorem Render.get?_overlay {name : String} (attributes : OrderedMap String) {value : Option Value}
    (unnamed : ∀ entries, value = some (.map entries) →
      ∀ entry ∈ entries.entries, entry.1.toLower ≠ name) :
    (overlay attributes value).get? name = attributes.get? name := by
  unfold overlay
  split
  · rename_i entries
    have others := unnamed entries rfl
    revert others
    generalize entries.entries = list
    intro others
    induction list generalizing attributes with
    | nil => rfl
    | cons entry rest inductionHypothesis =>
        have apart : name ≠ entry.1.toLower := Ne.symm (others entry List.mem_cons_self)
        rw [List.foldl_cons, inductionHypothesis _ fun other member =>
          others other (List.mem_cons_of_mem _ member), overlayEntry]
        split
        · rw [OrderedMap.get?_erase, if_neg apart]
        · rw [OrderedMap.get?_insert, if_neg apart]
  · rfl

namespace Terms.Alike

variable {terms : Terms} {left right : Context}

/-- The map that is laid over the attributes is data. -/
theorem names_overlayOf? (alike : terms.Alike left right) {tag : Tag}
    (known : ∀ key ∈ tag.readKeys, terms.reads key) {entries : OrderedMap Value}
    (found : left.overlayOf? tag = some (.map entries)) :
    ∀ entry ∈ entries.entries, terms.names entry.1 := by
  have value : terms.Knows tag Directive.attributes := Terms.knows_of_readKeys known (by simp)
  obtain ⟨expression, held, evaluated⟩ := Option.bind_eq_some_iff.mp found
  have data := alike.data.data_valueOf? terms.dashless (value expression held) evaluated
  cases data with
  | map named each => exact named

theorem written (alike : terms.Alike left right) {tag : Tag}
    (known : ∀ key ∈ tag.readKeys, terms.reads key) : terms.Written tag (left.written tag) := by
  intro name directive unnamed
  rw [Context.written, Tag.get?, Render.get?_overlay, OrderedMap.get?,
    left.lookup_map_writtenEntry directive]
  · rfl
  · intro entries found entry member
    exact unnamed entry.1 (alike.names_overlayOf? known found entry member)

end Terms.Alike

/-- The form of elements in templates and of what the stages leave. -/
structure Terms.Forms (terms : Terms) where
  fit : Tag → Prop
  done : Tag → Prop
  copied : ∀ tag directive, fit tag → tag.withoutGuard.repeat? = some directive →
    fit (tag.withoutGuard.remove directive.name)
  prepared : ∀ tag written, fit tag → tag.withoutGuard.repeat? = none →
    terms.Written tag.withoutGuard written →
      done ((written.remove Directive.content).remove Directive.included)
  unmarked : ∀ tag, done tag → done (tag.remove Directive.unwrap)
  inserted : terms.withNodes → ∀ tag, done tag

namespace Terms.Forms

variable {terms : Terms}

/-- All elements of some nodes are done. -/
def AllDone (forms : terms.Forms) (nodes : List Node) : Prop :=
  ∀ tag ∈ Node.tagsOf nodes, forms.done tag

/-- The expressions of some nodes read known keys, and their elements are fit. -/
structure Admits (forms : terms.Forms) (nodes : List Node) : Prop where
  known : ∀ key ∈ Node.readKeysOf nodes, terms.reads key
  fit : ∀ tag ∈ Node.tagsOf nodes, forms.fit tag

variable {forms : terms.Forms}

theorem Admits.tail {node : Node} {rest : List Node} (admits : forms.Admits (node :: rest)) :
    forms.Admits rest :=
  ⟨fun key read => admits.known key (List.mem_append_right _ read),
    fun tag member => admits.fit tag (List.mem_append_right _ member)⟩

theorem Admits.head {node : Node} {rest : List Node} (admits : forms.Admits (node :: rest)) :
    forms.Admits [node] := by
  refine ⟨fun key read => ?_, fun tag member => ?_⟩
  · rw [Node.readKeysOf, Node.readKeysOf, List.append_nil] at read
    exact admits.known key (List.mem_append_left _ read)
  · rw [Node.tagsOf, Node.tagsOf, List.append_nil] at member
    exact admits.fit tag (List.mem_append_left _ member)

theorem Admits.children {tag : Tag} {children rest : List Node}
    (admits : forms.Admits (.element tag children :: rest)) : forms.Admits children :=
  ⟨fun key read => admits.known key (List.mem_append_left _ (List.mem_append_right _ read)),
    fun other member =>
      admits.fit other (List.mem_append_left _ (List.mem_cons_of_mem _ member))⟩

theorem allDone_append {first second : List Node} (firstDone : forms.AllDone first)
    (secondDone : forms.AllDone second) : forms.AllDone (first ++ second) := by
  intro tag member
  rw [Node.tagsOf_append] at member
  exact (List.mem_append.mp member).elim (firstDone tag) (secondDone tag)

theorem allDone_element {tag : Tag} {children : List Node} (tagDone : forms.done tag)
    (childrenDone : forms.AllDone children) : forms.AllDone [.element tag children] := by
  intro other member
  simp only [Node.tagsOf, Node.tags, List.append_nil] at member
  rcases List.mem_cons.mp member with rfl | inside
  · exact tagDone
  · exact childrenDone other inside

/-- Nodes are done where data may hold them. -/
theorem allDone_contentNodes {value? : Option Value}
    (data : ∀ value, value? = some value → value.Data terms.names terms.withNodes) :
    forms.AllDone (Render.contentNodes value?) := by
  have single (value : Value) (held : value.Data terms.names terms.withNodes) :
      forms.AllDone (Render.nodesOf value) := by
    cases held with
    | node allowed content => exact fun tag _ => forms.inserted allowed tag
    | nodes allowed content => exact fun tag _ => forms.inserted allowed tag
    | _ => exact fun tag member => by cases member
  cases value? with
  | none => exact fun tag member => by cases member
  | some value =>
      have held := data value rfl
      cases held with
      | list each =>
          intro tag member
          obtain ⟨node, among, inside⟩ := Node.mem_tagsOf.mp member
          obtain ⟨item, listed, inserted⟩ := List.mem_flatMap.mp among
          exact single item (each item listed) tag (Node.mem_tagsOf.mpr ⟨node, inserted, inside⟩)
      | node allowed content => exact single _ (.node allowed content)
      | nodes allowed content => exact single _ (.nodes allowed content)
      | _ => exact fun tag member => by cases member

end Terms.Forms

theorem Tag.get?_remove (tag : Tag) (name query : String) :
    (tag.remove name).get? query = if query = name then none else tag.get? query :=
  OrderedMap.get?_erase tag.attributes name query

theorem Tag.mem_keys_remove {tag : Tag} {name removed : String} :
    name ∈ (tag.remove removed).attributes.keys ↔ name ∈ tag.attributes.keys ∧ name ≠ removed := by
  rw [Tag.remove, OrderedMap.keys_erase, List.mem_filter, decide_eq_true_eq]

/-- Without its test a tag has no more attributes. -/
theorem Tag.keys_withoutGuard_subset (tag : Tag) :
    tag.withoutGuard.attributes.keys ⊆ tag.attributes.keys := by
  intro name member
  unfold withoutGuard at member
  split at member
  · exact (mem_keys_remove.mp member).1
  · exact member

theorem Tag.name_withoutGuard (tag : Tag) : tag.withoutGuard.name = tag.name := by
  unfold withoutGuard
  split <;> rfl

/-- Without its test a tag reads no more keys. -/
theorem Tag.readKeys_withoutGuard_subset (tag : Tag) :
    tag.withoutGuard.readKeys ⊆ tag.readKeys := by
  unfold withoutGuard
  split
  · exact tag.readKeys_remove_subset _
  · exact List.Subset.refl _

theorem Tag.readKeys_guard_subset {tag : Tag} {guard : Qualified}
    (search : tag.guard? = some guard) : Path.readKeys guard.expression ⊆ tag.readKeys :=
  readKeys_subset_of_qualified? search (by simp [Directive.qualifiedBases])

theorem Tag.readKeys_repeat_subset {tag : Tag} {directive : Qualified}
    (search : tag.withoutGuard.repeat? = some directive) :
    Path.readKeys directive.expression ⊆ tag.readKeys :=
  List.Subset.trans (readKeys_subset_of_qualified? search (by simp [Directive.qualifiedBases]))
    tag.readKeys_withoutGuard_subset

/-- The directives behind the attributes are not touched by data. -/
theorem Terms.Written.get?_eq {terms : Terms} {tag written : Tag}
    (kept : terms.Written tag written) {name : String}
    (among : name ∈ [Directive.content, Directive.included, Directive.unwrap]) :
    written.get? name = tag.get? name := by
  have directive : Directive.isDirective name = true ∧ name ≠ Directive.attributes := by
    simp only [List.mem_cons, List.not_mem_nil, or_false] at among
    rcases among with rfl | rfl | rfl <;> decide
  have unnamed : ∀ key, terms.names key → key.toLower ≠ name := fun key named same =>
    terms.laid key named (same ▸ among)
  rw [kept name directive.1 unnamed, Tag.get?_remove, if_neg directive.2]

/-- Contexts that are alike and name the same template. -/
structure Terms.Addressed (terms : Terms) (left right : Context) : Prop where
  alike : terms.Alike left right
  name : left.templateName? = right.templateName?

/-- Alike contexts under one address are addressed alike. -/
theorem Terms.Alike.addressed {terms : Terms} {left right : Context}
    (alike : terms.Alike left right) (path name : String) :
    terms.Addressed (left.setTemplate path name) (right.setTemplate path name) where
  alike := alike.setTemplate path name
  name := by
    simp only [Context.templateName?, Context.templateField?, Context.setTemplate,
      OrderedMap.get?_insert, if_true]

namespace Render

open Accord

variable {World : Type} {host : Host World} {terms : Terms} {accord : Accord World}

theorem calm_setCurrentNode (node : Node) :
    accord.Calm terms.Alike terms.Alike (fun _ _ => True) (setCurrentNode node)
      (setCurrentNode node) :=
  calm_changeContext fun _ _ alike => alike.setCurrentNode node

theorem calm_passes {contexts : Context → Context → Prop}
    (alike : ∀ left right, contexts left right → terms.Alike left right)
    {guard? : Option Qualified}
    (known : ∀ guard ∈ guard?, ∀ key ∈ Path.readKeys guard.expression, terms.reads key)
    (tested : ∀ left right, contexts left right →
      contexts (left.tested guard?) (right.tested guard?)) :
    accord.Calm contexts contexts Eq (passes host guard?) (passes host guard?) := by
  intro left right holds
  have here := alike _ _ holds.context
  exact ⟨_, _, _, _, passes_run here known, passes_run here.symm known, here.passes_eq known,
    tested _ _ holds.context, holds.store⟩

theorem calm_repeatEntries {contexts : Context → Context → Prop}
    (alike : ∀ left right, contexts left right → terms.Alike left right) {directive : Qualified}
    (known : ∀ key ∈ Path.readKeys directive.expression, terms.reads key) :
    accord.Calm contexts contexts
      (Same fun entries => ∀ entry ∈ entries, entry.2.Data terms.names terms.withNodes)
      (repeatEntries host directive) (repeatEntries host directive) := by
  intro left right holds
  have here := alike _ _ holds.context
  exact ⟨_, _, _, _, repeatEntries_run here known, repeatEntries_run here.symm known,
    ⟨here.repeatEntries_eq known, here.data_repeatEntries known⟩, holds⟩

theorem calm_interpolate {text : String}
    (known : ∀ key ∈ Placeholder.readKeys text, terms.reads key) :
    accord.Calm terms.Alike terms.Alike Eq (interpolate host text) (interpolate host text) :=
  fun _ _ holds => ⟨_, _, _, _, interpolate_run holds.context known,
    interpolate_run holds.context.symm known, holds.context.data.fill_eq known, holds⟩

theorem calm_attributeStage {tag : Tag} (known : ∀ key ∈ tag.readKeys, terms.reads key) :
    accord.Calm terms.Alike terms.Alike (Same (terms.Written tag)) (attributeStage host tag)
      (attributeStage host tag) :=
  fun _ _ holds => ⟨_, _, _, _, attributeStage_run holds.context known,
    attributeStage_run holds.context.symm known,
    ⟨holds.context.written_eq known, holds.context.written known⟩, holds⟩

theorem calm_contentStage {tag : Tag} (forms : terms.Forms)
    (known : terms.Knows tag Directive.content) :
    accord.Calm terms.Alike terms.Alike (Same fun content => ∀ nodes ∈ content, forms.AllDone nodes)
      (contentStage host tag) (contentStage host tag) := by
  intro left right holds
  refine ⟨_, _, _, _, contentStage_run holds.context known,
    contentStage_run holds.context.symm known, ⟨holds.context.contentOf?_eq known, ?_⟩, holds⟩
  intro nodes set
  obtain ⟨expression, held, rfl⟩ := Option.map_eq_some_iff.mp set
  apply Terms.Forms.allDone_contentNodes
  intro value found
  exact holds.context.data.data_valueOf? terms.dashless (known expression held) found

theorem calm_unwrapStage {tag : Tag} (forms : terms.Forms) (tagDone : forms.done tag)
    (known : terms.Knows tag Directive.unwrap) :
    accord.Calm terms.Alike terms.Alike (Same forms.done) (unwrapStage host tag)
      (unwrapStage host tag) := by
  intro left right holds
  refine ⟨_, _, _, _, unwrapStage_run holds.context known,
    unwrapStage_run holds.context.symm known, ⟨holds.context.marked_eq known, ?_⟩, holds⟩
  unfold Context.marked
  split
  · exact tagDone
  · split
    · exact tagDone
    · split
      · exact tagDone
      · exact forms.unmarked tag tagDone

section Walk

variable {forms : terms.Forms} {includes includesSecond body bodySecond : Render World (List Node)}
  (deeper : accord.InStep terms.Addressed terms.Alike (Same forms.AllDone) includes includesSecond)

include deeper

/-- An include addresses the same template in both runs. -/
theorem inStep_includeStage {tag : Tag}
    (known : ∀ text ∈ tag.get? Directive.included, ∀ key ∈ Placeholder.readKeys text,
      terms.reads key) :
    accord.InStep terms.Alike terms.Alike
      (Same fun content => ∀ nodes ∈ content, forms.AllDone nodes)
      (includeStage host includes tag) (includeStage host includesSecond tag) := by
  rw [includeStage, includeStage]
  cases held : tag.get? Directive.included with
  | none => exact (calm_pure ⟨rfl, fun nodes absent => by cases absent⟩).inStep
  | some text =>
      apply (calm_interpolate (known text held)).bind
      rintro target _ rfl
      have entered : accord.InStep terms.Alike terms.Alike (Same forms.AllDone)
          (inScope (fun context => context.setTemplate (includeKey context target).path
            (includeKey context target).name) includes)
          (inScope (fun context => context.setTemplate (includeKey context target).path
            (includeKey context target).name) includesSecond) := by
        apply deeper.inScope
        intro left right alike
        -- Contexts in one file make the same key of the target.
        have address : includeKey left target = includeKey right target := by
          rw [includeKey, includeKey, alike.file.path]
        rw [address]
        exact alike.addressed _ _
      apply entered.map
      rintro nodes _ ⟨rfl, nodesDone⟩
      refine ⟨rfl, ?_⟩
      rintro _ ⟨⟩
      exact nodesDone

/-- All stages of an element are in step. -/
theorem inStep_prepare {tag : Tag} (known : ∀ key ∈ tag.readKeys, terms.reads key)
    (ready : ∀ written, terms.Written tag written →
      forms.done ((written.remove Directive.content).remove Directive.included)) :
    accord.InStep terms.Alike terms.Alike
      (Same fun result => forms.done result.1 ∧ ∀ nodes ∈ result.2, forms.AllDone nodes)
      (prepare host includes tag) (prepare host includesSecond tag) := by
  apply (calm_attributeStage known).bind
  rintro written _ ⟨rfl, kept⟩
  have content : terms.Knows written Directive.content := by
    rw [Terms.Knows, kept.get?_eq (by simp)]
    exact Terms.knows_of_readKeys known (by simp)
  have unwrap : terms.Knows ((written.remove Directive.content).remove Directive.included)
      Directive.unwrap := by
    rw [Terms.Knows, Tag.get?_remove, if_neg (by decide), Tag.get?_remove, if_neg (by decide),
      kept.get?_eq (by simp)]
    exact Terms.knows_of_readKeys known (by simp)
  have target : ∀ text ∈ (written.remove Directive.content).get? Directive.included,
      ∀ key ∈ Placeholder.readKeys text, terms.reads key := by
    rw [Tag.get?_remove, if_neg (by decide), kept.get?_eq (by simp)]
    intro text held key read
    exact known key
      (Tag.mem_readKeys_of_text (OrderedMap.mem_entries_of_get? held) (by decide) read)
  have behind (included : Option (List Node))
      (nodesDone : ∀ nodes ∈ included, forms.AllDone nodes) :
      accord.InStep terms.Alike terms.Alike
        (Same fun result => forms.done result.1 ∧ ∀ nodes ∈ result.2, forms.AllDone nodes)
        (do
          let last ← unwrapStage host
            ((written.remove Directive.content).remove Directive.included)
          return (last, included))
        (do
          let last ← unwrapStage host
            ((written.remove Directive.content).remove Directive.included)
          return (last, included)) := by
    apply (calm_unwrapStage forms (ready written kept) unwrap).bind
    rintro last _ ⟨rfl, lastDone⟩
    exact (calm_pure ⟨rfl, lastDone, nodesDone⟩).inStep
  apply (calm_contentStage forms content).bind
  rintro content _ ⟨rfl, nodesDone⟩
  cases content with
  | some nodes =>
      exact behind (some nodes) nodesDone
  | none =>
      have closed := closed_remembers host
      apply (inStep_includeStage deeper target).bind
      · intro included
        exact closed.bind (closed.unwrapStage _) fun last => closed.pure _
      · rintro included _ ⟨rfl, held⟩
        exact behind included held

variable (innerRemembers : Remembers body)
  (inner : accord.InStep terms.Alike terms.Alike (Same forms.AllDone) body bodySecond)

include innerRemembers inner

/-- An element and its content are in step. -/
theorem inStep_renderContent {tag : Tag} (known : ∀ key ∈ tag.readKeys, terms.reads key)
    (ready : ∀ written, terms.Written tag written →
      forms.done ((written.remove Directive.content).remove Directive.included)) :
    accord.InStep terms.Alike terms.Alike (Same fun node => forms.AllDone [node])
      (renderContent host includes body tag)
      (renderContent host includesSecond bodySecond tag) := by
  have closed := closed_remembers host
  apply (inStep_prepare deeper known ready).bind
  · rintro ⟨prepared, content⟩
    cases content with
    | none => exact closed.bind innerRemembers fun children => closed.pure _
    | some nodes => exact closed.pure _
  · rintro ⟨prepared, content⟩ _ ⟨rfl, preparedDone, contentDone⟩
    cases content with
    | none =>
        apply inner.map
        rintro children _ ⟨rfl, childrenDone⟩
        exact ⟨rfl, Terms.Forms.allDone_element preparedDone childrenDone⟩
    | some nodes =>
        have nodesDone := contentDone nodes rfl
        exact (calm_pure ⟨rfl, Terms.Forms.allDone_element preparedDone nodesDone⟩).inStep

end Walk

end Render

end Stencil
