import Stencil.Proofs.Expression.ReadKeys
import Stencil.Render.Scene

/-! What evaluation can reach is made of what the context is made of. -/

namespace Stencil

/-- The keys of maps, the nodes and the resolvers that values are made of. -/
structure Material where
  keys : String → Prop
  nodes : Node → Prop
  resolvers : Prop

/-- A value that is made of certain material. -/
inductive Value.Made (material : Material) : Value → Prop
  | null : Made material .null
  | bool (value : Bool) : Made material (.bool value)
  | number (value : Number) : Made material (.number value)
  | string (content : String) : Made material (.string content)
  | list {items : List Value} (each : ∀ item ∈ items, Made material item) :
      Made material (.list items)
  | map {entries : OrderedMap Value} (named : ∀ entry ∈ entries.entries, material.keys entry.1)
      (each : ∀ entry ∈ entries.entries, Made material entry.2) : Made material (.map entries)
  | node {content : Node} (allowed : material.nodes content) : Made material (.node content)
  | nodes {content : List Node} (withNodes : ∃ node, material.nodes node)
      (allowed : ∀ node ∈ content, material.nodes node) : Made material (.nodes content)
  | resolver (allowed : material.resolvers) (handle : Resolver) : Made material (.resolver handle)

/-- The children of nodes are nodes of the material, and their data has keys of it. -/
structure Material.Closed (material : Material) : Prop where
  child : ∀ {tag children}, material.nodes (.element tag children) →
    ∀ child ∈ children, material.nodes child
  data : ∀ {tag children}, material.nodes (.element tag children) →
    ∀ entry ∈ Dataset.entries tag.attributes, material.keys entry.1

/-- A host answers the resolvers of a material with values that are made of it. -/
def Material.Answers {World : Type} (material : Material) (answering : Answering World) : Prop :=
  material.resolvers → ∀ resolver invocation world,
    (answering resolver invocation world).1.Made material

namespace Value

variable {material : Material}

/-- The members of a sequence are its items and a number. -/
theorem made_sequenceMember? {items : List Value} (each : ∀ item ∈ items, item.Made material)
    {key : String} {found : Value} (held : sequenceMember? items key = some found) :
    found.Made material := by
  rw [sequenceMember?] at held
  split at held
  · cases held
    exact .number _
  · obtain ⟨position, -, item⟩ := Option.bind_eq_some_iff.mp held
    exact each found (List.mem_of_getElem? item)

/-- The elements among the children of an element. -/
theorem nodes_elementChildren (closed : material.Closed) {tag : Tag} {children : List Node}
    (allowed : material.nodes (.element tag children)) :
    ∀ child ∈ (Element.mk tag children).elementChildren, material.nodes child.node := by
  intro child member
  obtain ⟨node, among, here⟩ := List.mem_filterMap.mp member
  cases node with
  | element inner below =>
      cases here
      exact closed.child allowed _ among
  | text content => cases here
  | comment content => cases here

/-- The members of a node are texts, nodes below it, and the map of its data. -/
theorem made_nodeMember? (closed : material.Closed) {node : Node} (allowed : material.nodes node)
    {key : String} {found : Value} (held : node.member? key = some found) :
    found.Made material := by
  rw [Node.member?] at held
  split at held
  · cases held
    exact .string _
  · obtain ⟨element, here, member⟩ := Option.bind_eq_some_iff.mp held
    cases node with
    | text content => cases here
    | comment content => cases here
    | element tag children =>
        cases here
        have withNodes : ∃ node, material.nodes node := ⟨_, allowed⟩
        have below := nodes_elementChildren closed allowed
        unfold Element.member? at member
        split at member
        · cases member
          exact .string _
        · cases member
          refine .nodes withNodes fun node among => ?_
          obtain ⟨child, listed, rfl⟩ := List.mem_map.mp among
          exact below child listed
        · cases member
          exact .nodes withNodes (closed.child allowed)
        · obtain ⟨child, first, rfl⟩ := Option.map_eq_some_iff.mp member
          exact .node (below child (List.mem_of_head? first))
        · cases member
          exact .string _
        · cases member
          exact .string _
        · cases member
          have written : ∀ entry ∈ (OrderedMap.ofList ((Dataset.entries tag.attributes).map
              fun entry => (entry.1, Value.string entry.2))).entries,
              material.keys entry.1 ∧ entry.2.Made material := by
            intro entry inMap
            obtain ⟨source, among, rfl⟩ := List.mem_map.mp (OrderedMap.mem_entries_ofList inMap)
            exact ⟨closed.data allowed source among, .string _⟩
          exact .map (fun entry inMap => (written entry inMap).1)
            fun entry inMap => (written entry inMap).2
        · cases member

/-- Members are made of what the value is made of. -/
theorem Made.member? (closed : material.Closed) {value : Value} (made : value.Made material)
    {key : String} {found : Value} (held : value.member? key = some found) :
    found.Made material := by
  cases made with
  | null => cases held
  | bool value => cases held
  | number value => cases held
  | string content =>
      apply made_sequenceMember? _ held
      intro item member
      obtain ⟨character, -, rfl⟩ := List.mem_map.mp member
      exact .string _
  | list each => exact made_sequenceMember? each held
  | map named each => exact each _ (OrderedMap.mem_entries_of_get? held)
  | node allowed => exact made_nodeMember? closed allowed held
  | nodes withNodes allowed =>
      apply made_sequenceMember? _ held
      intro item member
      obtain ⟨node, among, rfl⟩ := List.mem_map.mp member
      exact .node (allowed node among)
  | resolver allowed handle => cases held

/-- The items of a sequence are listed as they are. -/
theorem made_entriesFrom {items : List Value} (each : ∀ item ∈ items, item.Made material)
    (position : Nat) :
    ∀ entry ∈ Collection.entriesFrom position items, entry.2.Made material := by
  induction items generalizing position with
  | nil => intro entry member; cases member
  | cons item rest inductionHypothesis =>
      intro entry member
      rcases List.mem_cons.mp member with rfl | behind
      · exact each item List.mem_cons_self
      · exact inductionHypothesis (fun other held => each other (List.mem_cons_of_mem _ held))
          (position + 1) entry behind

/-- What is repeated over is made of the material of its collection. -/
theorem Made.collection? {value : Value} (made : value.Made material) {collection : Collection}
    (held : value.collection? = some collection) :
    ∀ entry ∈ collection.entries, entry.2.Made material := by
  cases made with
  | null => cases held
  | bool value => cases held
  | number value => cases held
  | string content => cases held
  | list each =>
      cases held
      exact made_entriesFrom each 0
  | map named each =>
      cases held
      exact each
  | node allowed => cases held
  | nodes withNodes allowed =>
      cases held
      apply made_entriesFrom
      intro item member
      obtain ⟨node, among, rfl⟩ := List.mem_map.mp member
      exact .node (allowed node among)
  | resolver allowed handle => cases held

variable {World : Type} {answering : Answering World}

/-- The answers of resolvers are made of the same material. -/
theorem Made.settle (answers : material.Answers answering) {value : Value}
    (made : value.Made material) (context : Context) (receiver : Value) (world : World) :
    (answering.settle context receiver value world).1.Made material := by
  cases made with
  | resolver allowed handle => exact answers allowed handle _ world
  | null => exact .null
  | bool value => exact .bool value
  | number value => exact .number value
  | string content => exact .string content
  | list each => exact .list each
  | map named each => exact .map named each
  | node allowed => exact .node allowed
  | nodes withNodes allowed => exact .nodes withNodes allowed

/-- A path leads to what is made of the same material. -/
theorem Made.follow (closed : material.Closed) (answers : material.Answers answering)
    (context : Context) (segments : List String) {value found : Value}
    (made : value.Made material) {world : World}
    (held : (answering.follow context segments value world).1 = some found) :
    found.Made material := by
  induction segments generalizing value world with
  | nil =>
      have ended : (if value.isNull then none else some value) = some found := held
      split at ended
      · cases ended
      · cases ended
        exact made
  | cons segment rest inductionHypothesis =>
      cases member : value.member? segment with
      | none =>
          rw [Answering.follow, member] at held
          cases held
      | some next =>
          rw [Answering.follow, member] at held
          have settled := (made.member? closed member).settle answers context value world
          exact inductionHypothesis settled held

end Value

/-- The entry that addresses a template is a map with two keys. -/
theorem Context.made_templateValue {material : Material} (pathKey : material.keys "path")
    (nameKey : material.keys "name") (path name : String) :
    (templateValue path name).Made material := by
  refine .map (fun entry member => ?_) fun entry member => ?_
  · simp only [List.mem_cons, List.not_mem_nil, or_false] at member
    rcases member with rfl | rfl
    · exact pathKey
    · exact nameKey
  · simp only [List.mem_cons, List.not_mem_nil, or_false] at member
    rcases member with rfl | rfl <;> exact .string _

/-- The values of an expression are made of the material of the value that it starts from. -/
theorem Context.made_evaluate {World : Type} {material : Material} (closed : material.Closed)
    {answering : Answering World} (answers : material.Answers answering) {context : Context}
    {expression : String}
    (made : ∀ key ∈ Path.readKeys expression, ∀ value, context.get? key = some value →
      value.Made material)
    {world : World} {found : Value}
    (held : (answering.evaluate context expression world).1 = some found) :
    found.Made material := by
  rw [Answering.evaluate] at held
  rw [Path.readKeys] at made
  cases path : Path.parse expression with
  | nil =>
      rw [path] at held
      cases held
  | cons first rest =>
      rw [path] at held made
      cases entry : context.get? first with
      | none =>
          rw [Answering.resolve, entry] at held
          cases held
      | some value =>
          rw [Answering.resolve, entry] at held
          have start := made first (by simp) value entry
          exact (start.settle answers context context.value world).follow closed answers context
            rest held

end Stencil
