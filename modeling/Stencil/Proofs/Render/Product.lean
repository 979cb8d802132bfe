import Stencil.Proofs.Render.Calls
import Stencil.Proofs.Render.DirectiveFree

/-! Repeats as a product of scopes. -/

namespace Stencil

variable {World : Type}

/-- Two contexts that differ only in the node that is visited. -/
structure Context.Twins (first second : Context) : Prop where
  held : currentNodeKey ∈ first.keys
  heldSecond : currentNodeKey ∈ second.keys
  same : ∀ value, first.insert currentNodeKey value = second.insert currentNodeKey value

namespace Context.Twins

variable {first second : Context}

theorem refl {context : Context} (held : currentNodeKey ∈ context.keys) : Twins context context :=
  ⟨held, held, fun _ => rfl⟩

theorem get?_eq (twins : Twins first second) {key : String} (other : key ≠ currentNodeKey) :
    first.get? key = second.get? key := by
  have written := congrArg (·.get? key) (twins.same .null)
  simpa only [OrderedMap.get?_insert, if_neg other] using written

theorem mem_keys_insert {context : Context} (held : currentNodeKey ∈ context.keys) (key : String)
    (value : Value) : currentNodeKey ∈ (context.insert key value).keys := by
  rw [OrderedMap.keys_insert]
  split
  · exact held
  · exact List.mem_append_left _ held

/-- The same entry is written to both, be it the visited node. -/
theorem insert (twins : Twins first second) (key : String) (value : Value) :
    Twins (first.insert key value) (second.insert key value) := by
  refine ⟨mem_keys_insert twins.held key value, mem_keys_insert twins.heldSecond key value, ?_⟩
  intro written
  by_cases visited : key = currentNodeKey
  · rw [visited, OrderedMap.insert_insert, OrderedMap.insert_insert, twins.same written]
  · rw [OrderedMap.insert_insert_of_mem twins.held visited,
      OrderedMap.insert_insert_of_mem twins.heldSecond visited, twins.same written]

/-- A node is visited in one of them. -/
theorem setCurrentNode (twins : Twins first second) (node : Node) :
    Twins (first.setCurrentNode node) second := by
  refine ⟨mem_keys_insert twins.held _ _, twins.heldSecond, fun value => ?_⟩
  rw [Context.setCurrentNode, OrderedMap.insert_insert, twins.same value]

theorem bindItem (twins : Twins first second) (name : String) (position : Nat)
    (entry : String × Value) :
    Twins (Render.bindItem name position entry first)
      (Render.bindItem name position entry second) :=
  (((twins.insert _ _).insert _ _).insert _ _).insert _ _

end Context.Twins

namespace Answering

variable {answering : Answering World}

/-- Resolvers that only answer. -/
def Pure (answering : Answering World) : Prop :=
  ∀ resolver invocation, ∃ answer, answering resolver invocation = pure answer

/-- Resolvers that do not look at the visited node. -/
structure Blind (answering : Answering World) : Prop where
  member : ∀ {first second}, Context.Twins first second → ∀ resolver receiver,
    answering resolver ⟨receiver, first⟩ = answering resolver ⟨receiver, second⟩
  entry : ∀ {first second}, Context.Twins first second → ∀ resolver,
    answering resolver ⟨first.value, first⟩ = answering resolver ⟨second.value, second⟩

theorem Pure.settle (plain : answering.Pure) (context : Context) (receiver value : Value) :
    ∃ answer, answering.settle context receiver value = pure answer := by
  unfold Answering.settle
  split
  · exact plain _ _
  · exact ⟨value, rfl⟩

theorem Pure.follow (plain : answering.Pure) (context : Context) (segments : List String)
    (value : Value) : ∃ answer, answering.follow context segments value = pure answer := by
  induction segments generalizing value with
  | nil => exact ⟨_, rfl⟩
  | cons segment rest inductionHypothesis =>
      rw [Answering.follow]
      cases value.member? segment with
      | none => exact ⟨none, rfl⟩
      | some found =>
          obtain ⟨settled, answered⟩ := plain.settle context value found
          obtain ⟨answer, followed⟩ := inductionHypothesis settled
          exact ⟨answer, by simp only [answered, pure_bind, followed]⟩

theorem Pure.evaluate (plain : answering.Pure) (context : Context) (expression : String) :
    ∃ answer, answering.evaluate context expression = pure answer := by
  rw [Answering.evaluate]
  cases Path.parse expression with
  | nil => exact ⟨none, rfl⟩
  | cons first rest =>
      rw [Answering.resolve]
      cases context.get? first with
      | none => exact ⟨none, rfl⟩
      | some found =>
          obtain ⟨settled, answered⟩ := plain.settle context context.value found
          obtain ⟨answer, followed⟩ := plain.follow context rest settled
          exact ⟨answer, by simp only [answered, pure_bind, followed]⟩

variable {first second : Context}

theorem Blind.settle_eq (blind : answering.Blind) (twins : Context.Twins first second)
    (receiver value : Value) :
    answering.settle first receiver value = answering.settle second receiver value := by
  cases value with
  | resolver resolver => exact blind.member twins resolver receiver
  | null | bool | number | string | list | map | node | nodes => rfl

theorem Blind.follow_eq (blind : answering.Blind) (twins : Context.Twins first second)
    (segments : List String) (value : Value) :
    answering.follow first segments value = answering.follow second segments value := by
  induction segments generalizing value with
  | nil => rfl
  | cons segment rest inductionHypothesis =>
      rw [Answering.follow, Answering.follow]
      cases value.member? segment with
      | none => rfl
      | some found => simp only [blind.settle_eq twins, inductionHypothesis]

/-- An expression that does not start from the visited node has the same value in both contexts. -/
theorem Blind.evaluate_eq (blind : answering.Blind) (twins : Context.Twins first second)
    {expression : String} (unread : Context.currentNodeKey ∉ Path.readKeys expression) :
    answering.evaluate first expression = answering.evaluate second expression := by
  rw [Answering.evaluate, Answering.evaluate]
  rw [Path.readKeys] at unread
  cases path : Path.parse expression with
  | nil => rfl
  | cons key rest =>
      rw [path] at unread
      have other : key ≠ Context.currentNodeKey := by
        rintro rfl
        simp at unread
      rw [Answering.resolve, Answering.resolve, twins.get?_eq other]
      cases second.get? key with
      | none => rfl
      | some found =>
          have settled : answering.settle first first.value found =
              answering.settle second second.value found := by
            cases found with
            | resolver resolver => exact blind.entry twins resolver
            | null | bool | number | string | list | map | node | nodes => rfl
          simp only [settled, blind.follow_eq twins]

end Answering

namespace Qualified

/-- An attribute as a directive, under the first base that its name has. -/
def read? (bases : List String) (entry : String × String) : Option Qualified :=
  bases.findSome? fun base =>
    (qualifier? base entry.1).map fun qualifier => ⟨base, entry.1, qualifier, entry.2⟩

/-- The directives among some attributes, in their order. A name counts once. -/
def all (bases : List String) : List (String × String) → List Qualified
  | [] => []
  | entry :: rest =>
      match read? bases entry with
      | some directive => directive :: (all bases rest).filter (·.name ≠ directive.name)
      | none => all bases rest

/-- A directive that is read has its name, base and qualifier. -/
theorem read?_spec {bases : List String} {entry : String × String} {directive : Qualified}
    (read : read? bases entry = some directive) :
    directive.name = entry.1 ∧ directive.base ∈ bases ∧
      qualifier? directive.base entry.1 = some directive.qualifier := by
  obtain ⟨base, among, here⟩ := List.exists_of_findSome?_eq_some read
  obtain ⟨qualifier, named, rfl⟩ := Option.map_eq_some_iff.mp here
  exact ⟨rfl, among, named⟩

/-- The directive that is found is the first of all. -/
theorem find?_eq_head? (bases : List String) (entries : List (String × String)) :
    find? bases entries = (all bases entries).head? := by
  show entries.findSome? (read? bases) = (all bases entries).head?
  induction entries with
  | nil => rfl
  | cons entry rest inductionHypothesis =>
      rw [List.findSome?_cons, all]
      cases read? bases entry with
      | none => exact inductionHypothesis
      | some directive => rfl

/-- Attributes are taken out by their name, and so are directives. -/
theorem all_filter (bases : List String) (name : String) (entries : List (String × String)) :
    all bases (entries.filter (·.1 ≠ name)) = (all bases entries).filter (·.name ≠ name) := by
  induction entries with
  | nil => rfl
  | cons entry rest inductionHypothesis =>
      rw [all]
      cases read : read? bases entry with
      | none =>
          by_cases removed : entry.1 = name
          · rw [List.filter_cons_of_neg (by simp [removed]), inductionHypothesis]
          · rw [List.filter_cons_of_pos (by simp [removed]), all, read, inductionHypothesis]
      | some directive =>
          have named := (read?_spec read).1
          by_cases removed : entry.1 = name
          · rw [List.filter_cons_of_neg (by simp [removed]), inductionHypothesis]
            simp [named, removed, List.filter_filter]
          · rw [List.filter_cons_of_pos (by simp [removed]), all, read, inductionHypothesis]
            simp only [List.filter_cons, named, removed, List.filter_filter, ne_eq, decide_not,
              decide_false, Bool.not_false, if_true, Bool.and_comm]

/-- Directives have one of the bases and their qualifier. -/
theorem mem_all {bases : List String} {entries : List (String × String)} {directive : Qualified}
    (member : directive ∈ all bases entries) : directive.base ∈ bases ∧
      qualifier? directive.base directive.name = some directive.qualifier := by
  induction entries with
  | nil => cases member
  | cons entry rest inductionHypothesis =>
      rw [all] at member
      cases read : read? bases entry with
      | none =>
          rw [read] at member
          exact inductionHypothesis member
      | some found =>
          rw [read] at member
          rcases List.mem_cons.mp member with rfl | behind
          · obtain ⟨named, among, qualified⟩ := read?_spec read
            exact ⟨among, named ▸ qualified⟩
          · exact inductionHypothesis (List.mem_filter.mp behind).1

end Qualified

namespace Tag

/-- The repeats of an element, in the order of its attributes. -/
def repeats (tag : Tag) : List Qualified :=
  Qualified.all [Directive.repeated] tag.attributes.entries

/-- An element without its tests and repeats. -/
def bare (tag : Tag) : Tag :=
  { tag with attributes :=
      ⟨tag.attributes.entries.filter fun entry =>
        !Directive.isFrom Directive.qualifiedBases entry.1⟩ }

/-- An element without tests. -/
def Unguarded (tag : Tag) : Prop := tag.namesFrom [Directive.test, Directive.not] = ∅

/-- The repeat of an element is the first of all. -/
theorem repeat?_eq_head? (tag : Tag) : tag.repeat? = tag.repeats.head? :=
  Qualified.find?_eq_head? _ _

theorem repeats_remove (tag : Tag) (name : String) :
    (tag.remove name).repeats = tag.repeats.filter (·.name ≠ name) :=
  Qualified.all_filter _ name tag.attributes.entries

/-- A copy has the repeats behind the one that it is a copy of. -/
theorem repeats_remove_of_cons {tag : Tag} {directive : Qualified} {rest : List Qualified}
    (repeats : tag.repeats = directive :: rest) : (tag.remove directive.name).repeats = rest := by
  have distinct : ∀ bases entries, Qualified.all bases entries = directive :: rest →
      rest.filter (·.name ≠ directive.name) = rest := by
    intro bases entries whole
    induction entries with
    | nil => cases whole
    | cons entry others inductionHypothesis =>
        rw [Qualified.all] at whole
        split at whole
        · injection whole with same behind
          rw [← behind, same]
          simp [List.filter_filter]
        · exact inductionHypothesis whole
  rw [repeats_remove, repeats, List.filter_cons_of_neg (by simp), distinct _ _ repeats]

/-- A test is no repeat. -/
theorem repeats_withoutGuard (tag : Tag) : tag.withoutGuard.repeats = tag.repeats := by
  unfold withoutGuard
  cases search : tag.guard? with
  | none => rfl
  | some guard =>
      show (tag.remove guard.name).repeats = tag.repeats
      rw [repeats_remove, List.filter_eq_self]
      intro directive member
      obtain ⟨among, read⟩ := Qualified.mem_all member
      rw [List.mem_singleton.mp among] at read
      rw [decide_eq_true_eq]
      intro same
      rw [same, qualifier?_guard_eq_none search] at read
      cases read

theorem bare_remove {tag : Tag} {name : String}
    (directs : Directive.isFrom Directive.qualifiedBases name = true) :
    (tag.remove name).bare = tag.bare := by
  simp only [bare, remove, OrderedMap.erase, List.filter_filter, Tag.mk.injEq, true_and,
    OrderedMap.mk.injEq]
  apply List.filter_congr
  intro entry _
  by_cases same : entry.1 = name
  · simp [same, directs]
  · simp [same]

/-- The name of a repeat has one of the bases. -/
theorem isFrom_of_mem_repeats {tag : Tag} {directive : Qualified}
    (member : directive ∈ tag.repeats) :
    Directive.isFrom Directive.qualifiedBases directive.name = true := by
  obtain ⟨among, read⟩ := Qualified.mem_all member
  refine List.any_eq_true.mpr ⟨directive.base, ?_, by rw [read, Option.isSome_some]⟩
  rw [List.mem_singleton.mp among]
  decide

theorem bare_withoutGuard (tag : Tag) : tag.withoutGuard.bare = tag.bare := by
  unfold withoutGuard
  cases search : tag.guard? with
  | none => rfl
  | some guard =>
      have found := (mem_namesFrom.mp (mem_namesFrom_of_qualified? search)).2
      obtain ⟨base, among, read⟩ := List.any_eq_true.mp found
      exact bare_remove (List.any_eq_true.mpr
        ⟨base, List.mem_of_mem_take (i := 2) among, read⟩)

theorem guard?_of_unguarded {tag : Tag} (unguarded : tag.Unguarded) : tag.guard? = none := by
  cases search : tag.guard? with
  | none => rfl
  | some guard =>
      have member := mem_namesFrom_of_qualified? search
      rw [unguarded] at member
      exact absurd member (Finset.notMem_empty _)

theorem withoutGuard_of_unguarded {tag : Tag} (unguarded : tag.Unguarded) :
    tag.withoutGuard = tag := by
  rw [withoutGuard, guard?_of_unguarded unguarded]

theorem Unguarded.remove {tag : Tag} (unguarded : tag.Unguarded) (name : String) :
    (tag.remove name).Unguarded := by
  rw [Unguarded, namesFrom_remove, unguarded, Finset.erase_empty]

/-- The only test of an element is the one that is taken away. -/
theorem unguarded_withoutGuard {tag : Tag}
    (single : (tag.namesFrom [Directive.test, Directive.not]).card ≤ 1) :
    tag.withoutGuard.Unguarded := by
  rw [Unguarded, ← Finset.card_eq_zero, card_namesFrom_withoutGuard]
  omega

/-- Without tests and repeats an element is bare. -/
theorem bare_eq_self {tag : Tag} (unguarded : tag.Unguarded) (unrepeated : tag.repeats = []) :
    tag.bare = tag := by
  have noRepeat : tag.namesFrom [Directive.repeated] = ∅ := by
    apply namesFrom_eq_empty
    have first := tag.repeat?_eq_head?
    rw [unrepeated] at first
    exact first
  have kept : tag.attributes.entries.filter (fun entry =>
      !Directive.isFrom Directive.qualifiedBases entry.1) = tag.attributes.entries := by
    rw [List.filter_eq_self]
    intro entry member
    have held : entry.1 ∈ tag.attributes.keys := List.mem_map_of_mem member
    have nowhere {bases : List String} (none : tag.namesFrom bases = ∅) :
        Directive.isFrom bases entry.1 = false := by
      rw [Bool.eq_false_iff]
      intro directs
      have here := mem_namesFrom.mpr ⟨held, directs⟩
      rw [none] at here
      exact absurd here (Finset.notMem_empty _)
    have tests := nowhere unguarded
    have repeated := nowhere noRepeat
    simp only [Directive.isFrom, Directive.qualifiedBases, List.any_cons, List.any_nil,
      Bool.or_false] at tests repeated ⊢
    rw [repeated, Bool.or_false, tests]
    rfl
  rw [bare, kept]

end Tag

namespace Render

/-- The entries that a repeat runs over in a context; what is no collection has none. -/
def entriesIn (host : Host World) (world : World) (directive : Qualified) (context : Context) :
    List (String × Value) :=
  (((host.answering.evaluate context directive.expression world).1.bind
    Value.collection?).map Collection.entries).getD []

/-- The scopes of the copies of an element, the first repeat outermost. -/
def scopes (host : Host World) (world : World) : List Qualified → Context → List Context
  | [], context => [context]
  | directive :: rest, context =>
      (entriesIn host world directive context).zipIdx.flatMap fun item =>
        scopes host world rest (bindItem (itemName directive) item.2 item.1 context)

/-- Nodes are rendered in some scopes, as if alone in each, until one fails. -/
def inEach (action : Render World (List Node)) : List Context → Render World (List Node)
  | [] => pure []
  | context :: rest => do
      let first ← inScope (fun _ => context) action
      let others ← inEach action rest
      return first ++ others

variable {host : Host World} {includes body : Render World (List Node)}

theorem inEach_append (action : Render World (List Node)) (first second : List Context) :
    inEach action (first ++ second) = do
      let before ← inEach action first
      let behind ← inEach action second
      return before ++ behind := by
  induction first with
  | nil => simp only [List.nil_append, inEach, pure_bind, bind_pure]
  | cons context rest inductionHypothesis =>
      simp only [List.cons_append, inEach, inductionHypothesis, bind_assoc, pure_bind,
        List.append_assoc]

theorem inEach_singleton (action : Render World (List Node)) (context : Context) :
    inEach action [context] = inScope (fun _ => context) action := by
  simp only [inEach, pure_bind, List.append_nil, bind_pure]

/-- Rendering in scopes gives the context back. -/
theorem keeps_inEach (action : Render World (List Node)) (contexts : List Context) :
    Keeps (inEach action contexts) := by
  induction contexts with
  | nil => exact fun scene => rfl
  | cons context rest inductionHypothesis =>
      apply (keeps_inScope _ action).bind
      intro first
      apply inductionHypothesis.bind
      exact fun others scene => rfl

/-- What is rendered in scopes of its own does not see the context around it. -/
theorem inScope_inEach (context : Context) (action : Render World (List Node))
    (contexts : List Context) :
    inScope (fun _ => context) (inEach action contexts) = inEach action contexts := by
  induction contexts with
  | nil => rfl
  | cons scope rest inductionHypothesis =>
      funext scene
      have first : inScope (fun _ => scope) action { scene with context := context } =
          match inScope (fun _ => scope) action scene with
          | .ok nodes after => .ok nodes { after with context := context }
          | .error cause after => .error cause { after with context := context } := by
        simp only [inScope]
        cases action { scene with context := scope } <;> rfl
      cases ran : inScope (fun _ => scope) action scene with
      | error cause after =>
          rw [ran] at first
          have kept := keeps_inScope (fun _ => scope) action scene
          rw [leaves_of_error ran] at kept
          rw [inEach, bind_of_error ran, inScope, bind_of_error first]
          simp only [← kept]
      | ok nodes after =>
          rw [ran] at first
          have kept := keeps_inScope (fun _ => scope) action scene
          rw [leaves_of_ok ran] at kept
          have others := congrFun inductionHypothesis after
          simp only [inScope] at others
          rw [inEach, bind_of_ok ran, inScope, bind_of_ok first, bind_pure_eq_rework,
            bind_pure_eq_rework, ← others]
          cases inEach action rest { after with context := context } with
          | ok nodes last => simp only [Renderer.Ending.rework_ok, kept]
          | error cause last => simp only [Renderer.Ending.rework_error, kept]

/-- The entries of a repeat do not depend on the world. -/
theorem entriesIn_eq (plain : host.answering.Pure) (world other : World) (directive : Qualified)
    (context : Context) :
    entriesIn host world directive context = entriesIn host other directive context := by
  obtain ⟨answer, evaluated⟩ := plain.evaluate context directive.expression
  rw [entriesIn, entriesIn, evaluated]
  rfl

/-- A repeat reads its entries and changes nothing. -/
theorem repeatEntries_eq (plain : host.answering.Pure) (directive : Qualified)
    (scene : Scene World) :
    repeatEntries host directive scene =
      .ok (entriesIn host scene.world directive scene.context) scene := by
  obtain ⟨answer, evaluated⟩ := plain.evaluate scene.context directive.expression
  have ran : evaluate host directive.expression scene = .ok answer scene := by
    rw [evaluate, reading, evaluated]
    rfl
  rw [repeatEntries, bind_of_ok ran, entriesIn, evaluated]
  rfl

/-- Copies run in the scopes of their entries, which earlier copies leave alone. -/
theorem copies_eq_inEach {copy leaf : Render World (List Node)} {name : String}
    (inner : Nat → String × Value → List Context) (position : Nat)
    (entries : List (String × Value)) (scene : Scene World)
    (each : ∀ position entry, inScope (fun _ => bindItem name position entry scene.context) copy =
      inEach leaf (inner position entry)) :
    copies name copy position entries scene =
      inEach leaf ((entries.zipIdx position).flatMap fun item => inner item.2 item.1) scene := by
  induction entries generalizing position scene with
  | nil => rfl
  | cons entry rest inductionHypothesis =>
      have first : inScope (bindItem name position entry) copy scene =
          inEach leaf (inner position entry) scene := by
        rw [← each position entry, inScope, inScope]
      rw [copies, List.zipIdx_cons, List.flatMap_cons, inEach_append, bind_congr_at first]
      cases ran : inEach leaf (inner position entry) scene with
      | error cause after => rw [bind_of_error ran, bind_of_error ran]
      | ok nodes after =>
          -- The next copy starts from the context that the first one started from.
          have kept := keeps_inEach leaf (inner position entry) scene
          rw [leaves_of_ok ran] at kept
          rw [bind_of_ok ran, bind_of_ok ran]
          apply bind_congr_at
          apply inductionHypothesis (position + 1) after
          rw [kept]
          exact each

/-- In contexts that differ in the visited node a repeat has the same entries. -/
theorem entriesIn_of_twins (blind : host.answering.Blind) (world : World) {directive : Qualified}
    (unread : Context.currentNodeKey ∉ Path.readKeys directive.expression)
    {first second : Context} (twins : Context.Twins first second) :
    entriesIn host world directive first = entriesIn host world directive second := by
  rw [entriesIn, entriesIn, blind.evaluate_eq twins unread]

/-- The visited node is written before anything is read. -/
theorem inScope_renderElement_of_twins {first second : Context}
    (twins : Context.Twins first second) (tag : Tag) :
    inScope (fun _ => first) (renderElement host includes body tag) =
      inScope (fun _ => second) (renderElement host includes body tag) := by
  funext scene
  have visited (context : Context) :
      setCurrentNode (.element tag []) { scene with context } =
        .ok () { scene with context := context.setCurrentNode (.element tag []) } := rfl
  have same : first.setCurrentNode (.element tag []) = second.setCurrentNode (.element tag []) :=
    twins.same _
  rw [inScope, inScope, renderElement_eq, bind_of_ok (visited first), bind_of_ok (visited second),
    same]

/-- Behind its test an element with repeats is replaced by the copies of the first one. -/
theorem renderElement_of_passed (plain : host.answering.Pure) {tag : Tag} {directive : Qualified}
    {rest : List Qualified} (repeats : tag.repeats = directive :: rest) {scene tested : Scene World}
    (passed : passes host tag.guard? (scene.visiting (.element tag [])) = .ok true tested) :
    renderElement host includes body tag scene =
      copies (itemName directive)
        (renderElement host includes body (tag.withoutGuard.remove directive.name)) 0
        (entriesIn host tested.world directive tested.context) tested := by
  have visited : setCurrentNode (.element tag []) scene =
      .ok () (scene.visiting (.element tag [])) := rfl
  have search : tag.withoutGuard.repeat? = some directive := by
    rw [Tag.repeat?_eq_head?, Tag.repeats_withoutGuard, repeats, List.head?_cons]
  rw [renderElement_eq, bind_of_ok visited, bind_of_ok passed, if_pos rfl, search]
  exact bind_of_ok (repeatEntries_eq plain directive tested) _

/-- An element is its bare copies, by induction on the repeats that are left. -/
theorem inScope_renderElement (plain : host.answering.Pure) (blind : host.answering.Blind)
    (world : World) (repeats : List Qualified) {tag : Tag} (unguarded : tag.Unguarded)
    (repeated : tag.repeats = repeats)
    (unread : ∀ directive ∈ repeats, Context.currentNodeKey ∉ Path.readKeys directive.expression)
    {first second : Context} (twins : Context.Twins first second) :
    inScope (fun _ => first) (renderElement host includes body tag) =
      inEach (renderElement host includes body tag.bare) (scopes host world repeats second) := by
  induction repeats generalizing tag first second with
  | nil =>
      rw [Tag.bare_eq_self unguarded repeated, scopes, inEach_singleton,
        inScope_renderElement_of_twins twins]
  | cons directive rest inductionHypothesis =>
      have fewer := Tag.repeats_remove_of_cons repeated
      have same : (tag.remove directive.name).bare = tag.bare :=
        Tag.bare_remove (Tag.isFrom_of_mem_repeats (repeated ▸ List.mem_cons_self))
      funext scene
      have started : renderElement host includes body tag { scene with context := first } =
          inEach (renderElement host includes body tag.bare)
            (scopes host world (directive :: rest) second)
            { scene with context := first.setCurrentNode (.element tag []) } := by
        have passed : passes host tag.guard?
            (Scene.visiting { scene with context := first } (.element tag [])) =
              .ok true { scene with context := first.setCurrentNode (.element tag []) } := by
          rw [Tag.guard?_of_unguarded unguarded]
          rfl
        have visited := twins.setCurrentNode (.element tag [])
        rw [renderElement_of_passed plain repeated passed,
          Tag.withoutGuard_of_unguarded unguarded, entriesIn_eq plain _ world,
          entriesIn_of_twins blind world (unread directive List.mem_cons_self) visited, scopes,
          ← same]
        apply copies_eq_inEach fun position entry =>
          scopes host world rest (bindItem (itemName directive) position entry second)
        intro position entry
        exact inductionHypothesis (unguarded.remove directive.name) fewer
          (fun other member => unread other (List.mem_cons_of_mem _ member))
          (visited.bindItem (itemName directive) position entry)
      -- The element has been visited around its copies, which do not see that.
      have restored := congrFun (inScope_inEach (first.setCurrentNode (.element tag []))
        (renderElement host includes body tag.bare)
        (scopes host world (directive :: rest) second)) scene
      rw [← restored, inScope, started, inScope]

/-- A copy that fails behind copies that are rendered ends the others. -/
theorem inEach_of_error {action : Render World (List Node)} {before behind : List Context}
    {context : Context} {scene inner after : Scene World} {nodes : List Node}
    {cause : TemplateError} (rendered : inEach action before scene = .ok nodes inner)
    (failed : inScope (fun _ => context) action inner = .error cause after) :
    inEach action (before ++ context :: behind) scene = .error cause after := by
  rw [inEach_append, bind_of_ok rendered, inEach, bind_assoc, bind_of_error failed]

/-- An element that passes its only test is its bare copies, one in each scope. -/
theorem renderNode_eq_inEach (plain : host.answering.Pure) (blind : host.answering.Blind)
    (includes : Render World (List Node)) {tag : Tag} (children : List Node)
    (single : (tag.namesFrom [Directive.test, Directive.not]).card ≤ 1)
    (unread : ∀ directive ∈ tag.repeats,
      Context.currentNodeKey ∉ Path.readKeys directive.expression)
    (repeated : tag.repeats ≠ []) {scene tested : Scene World}
    (passed : passes host tag.guard? (scene.visiting (.element tag [])) = .ok true tested) :
    renderNode host includes (.element tag children) scene =
        inEach (renderNode host includes (.element tag.bare children))
          (scopes host scene.world tag.repeats tested.context) tested ∧
      ∀ before context behind nodes inner cause after,
        scopes host scene.world tag.repeats tested.context = before ++ context :: behind →
        inEach (renderNode host includes (.element tag.bare children)) before tested =
          .ok nodes inner →
        renderNode host includes (.element tag.bare children) { inner with context } =
          .error cause after →
        renderNode host includes (.element tag children) scene =
          .error cause { after with context := tested.context } := by
  have product : renderNode host includes (.element tag children) scene =
      inEach (renderNode host includes (.element tag.bare children))
        (scopes host scene.world tag.repeats tested.context) tested := by
    obtain ⟨directive, rest, repeats⟩ := List.exists_cons_of_ne_nil repeated
    have fewer : (tag.withoutGuard.remove directive.name).repeats = rest :=
      Tag.repeats_remove_of_cons (tag.repeats_withoutGuard.trans repeats)
    have same : (tag.withoutGuard.remove directive.name).bare = tag.bare := by
      rw [Tag.bare_remove (Tag.isFrom_of_mem_repeats (repeats ▸ List.mem_cons_self)),
        Tag.bare_withoutGuard]
    -- The test stage keeps the entry of the visited node, which twins need to hold.
    have held : Context.currentNodeKey ∈ tested.context.keys := by
      have frame := frame_passes host tag (scene.visiting (.element tag []))
      rw [leaves_of_ok passed] at frame
      apply frame.keys.subset
      rw [Scene.visiting, Context.setCurrentNode, OrderedMap.keys_insert]
      split
      · assumption
      · exact List.mem_append_right _ List.mem_cons_self
    rw [renderNode, renderNode, renderElement_of_passed plain repeats passed,
      entriesIn_eq plain _ scene.world, repeats, scopes, ← same]
    apply copies_eq_inEach fun position entry =>
      scopes host scene.world rest (bindItem (itemName directive) position entry tested.context)
    intro position entry
    apply inScope_renderElement plain blind scene.world rest
      ((Tag.unguarded_withoutGuard single).remove directive.name) fewer
    · intro other member
      exact unread other (repeats ▸ List.mem_cons_of_mem _ member)
    · exact (Context.Twins.refl held).bindItem (itemName directive) position entry
  refine ⟨product, ?_⟩
  intro before context behind nodes inner cause after parts rendered failed
  have kept := keeps_inEach (renderNode host includes (.element tag.bare children)) before tested
  rw [leaves_of_ok rendered] at kept
  rw [product, parts]
  apply inEach_of_error rendered
  rw [inScope_of_error _ failed, kept]

/-- A host whose resolvers answer with rows under keys; one of them is no collection. -/
def rowsHost : Host Unit where
  answering _ _ := pure (.map ⟨[("a", .list [.string "x", .string "y"]), ("b", .null),
    ("c", .list [.string "z"])]⟩)
  fetching path := pure (.error (.notFound path))

/-- A scene with rows of items. -/
def rowsScene : Scene Unit :=
  ⟨(∅ : Context).insert "rows" (.resolver ⟨0⟩), .empty, (), []⟩

/-- A cell that is repeated over the rows, and over the items of each row. -/
def cellTag : Tag :=
  ⟨"td", ⟨[("data-fly-repeat.Row", "rows"), ("class", "${rowKey}"), ("data-fly-not.Shown", "gone"),
    ("data-fly-repeat", "row")]⟩⟩

/-- A text that shows what is bound around a cell. -/
def cellText : Node := .text "${rowNumber}${itemIndex}${item}${shown}"

/-- The scene behind the test of the cell. -/
def cellScene : Scene Unit :=
  leaves (passes rowsHost cellTag.guard?) (rowsScene.visiting (.element cellTag []))

/-- The rows are outermost, and the row that is no collection has no cells. -/
theorem renderNode_eq_inEach_cells :
    renderNode rowsHost (pure []) (.element cellTag [cellText]) rowsScene =
        inEach (renderNode rowsHost (pure []) (.element cellTag.bare [cellText]))
          (scopes rowsHost () cellTag.repeats cellScene.context) cellScene ∧
      outcome (renderNode rowsHost (pure []) (.element cellTag [cellText])) rowsScene = .ok
        [.element ⟨"td", ⟨[("class", "a")]⟩⟩ [.text "10xtrue"],
          .element ⟨"td", ⟨[("class", "a")]⟩⟩ [.text "11ytrue"],
          .element ⟨"td", ⟨[("class", "c")]⟩⟩ [.text "30ztrue"]] := by
  have plain : rowsHost.answering.Pure := fun _ _ => ⟨_, rfl⟩
  have blind : rowsHost.answering.Blind := ⟨fun _ _ _ => rfl, fun _ _ => rfl⟩
  have passed : passes rowsHost cellTag.guard? (rowsScene.visiting (.element cellTag [])) =
      .ok true cellScene := rfl
  have product := renderNode_eq_inEach plain blind (pure []) [cellText] (by decide +kernel)
    (by decide +kernel) (by decide +kernel) passed
  exact ⟨product.1, by decide +kernel⟩

end Render

end Stencil
