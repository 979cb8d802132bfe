import Stencil.Proofs.Expression.Interpolation
import Stencil.Proofs.Render.InStep
import Stencil.Proofs.Render.Removal

/-! Markup without directives and placeholders. -/

namespace Stencil

/-- No attribute of a tag is a directive or holds a placeholder. -/
def Tag.Static (tag : Tag) : Prop :=
  ∀ entry ∈ tag.attributes.entries,
    Directive.isDirective entry.1 = false ∧ ¬ Placeholder.Occurs entry.2.toList

instance (tag : Tag) : Decidable tag.Static := List.decidableBAll _ _

namespace Node

mutual
/-- The tags of a node are static, and no placeholder stands in its texts. -/
def Static : Node → Prop
  | element tag children => tag.Static ∧ StaticAll children
  | text content => ¬ Placeholder.Occurs content.toList
  | comment _ => True

def StaticAll : List Node → Prop
  | [] => True
  | node :: rest => node.Static ∧ StaticAll rest
end

mutual
/-- The elements, without their children, and the texts of a node, in document order. -/
def visited : Node → List Node
  | element tag children => element tag [] :: visitedAll children
  | text content => [text content]
  | comment _ => []

/-- The nodes of a list that are visited, in order. -/
def visitedAll : List Node → List Node
  | [] => []
  | node :: rest => node.visited ++ visitedAll rest
end

end Node

/-- The context in which the last of some nodes is visited. -/
def Context.visitingLast (nodes : List Node) (context : Context) : Context :=
  (nodes.getLast?.map context.setCurrentNode).getD context

/-- Only the last visited node is there. -/
theorem Context.setCurrentNode_setCurrentNode (context : Context) (first second : Node) :
    (context.setCurrentNode first).setCurrentNode second = context.setCurrentNode second :=
  OrderedMap.insert_insert context _ _ _

theorem Context.visitingLast_append (context : Context) (first second : List Node) :
    (context.visitingLast first).visitingLast second = context.visitingLast (first ++ second) := by
  rw [visitingLast, visitingLast, visitingLast, List.getLast?_append]
  cases second.getLast? with
  | none => cases first.getLast? <;> rfl
  | some last =>
      cases first.getLast? with
      | none => rfl
      | some before => exact context.setCurrentNode_setCurrentNode before last

namespace Tag

variable {tag : Tag}

theorem Static.get?_eq_none (static : tag.Static) {name : String}
    (directive : Directive.isDirective name = true) : tag.get? name = none := by
  rw [Option.eq_none_iff_forall_ne_some]
  intro value held
  have plain := (static _ (OrderedMap.mem_entries_of_get? held)).1
  rw [directive] at plain
  cases plain

theorem Static.remove_eq (static : tag.Static) {name : String}
    (directive : Directive.isDirective name = true) : tag.remove name = tag := by
  have kept : tag.attributes.entries.filter (·.1 ≠ name) = tag.attributes.entries := by
    rw [List.filter_eq_self]
    intro entry member
    rw [decide_eq_true_eq]
    rintro rfl
    rw [(static entry member).1] at directive
    cases directive
  rw [remove, OrderedMap.erase, kept]

theorem Static.qualified?_eq_none (static : tag.Static) {bases : List String}
    (directives : ∀ base ∈ bases, Directive.isDirective base = true) :
    tag.qualified? bases = none := by
  cases search : tag.qualified? bases with
  | none => rfl
  | some found =>
      obtain ⟨among, read, member⟩ := Qualified.find?_spec search
      have plain := (static _ member).1
      obtain ⟨front, marked⟩ := Text.startsWith_iff.mp (directives found.base among)
      obtain ⟨behind, whole⟩ := Qualified.base_prefix read
      have directive : Directive.isDirective found.name = true :=
        Text.startsWith_iff.mpr ⟨front ++ behind, by rw [← whole, marked, List.append_assoc]⟩
      rw [directive] at plain
      cases plain

theorem Static.guard?_eq_none (static : tag.Static) : tag.guard? = none :=
  static.qualified?_eq_none (by decide)

theorem Static.withoutGuard_eq (static : tag.Static) : tag.withoutGuard = tag := by
  rw [withoutGuard, static.guard?_eq_none]

theorem Static.repeat?_eq_none (static : tag.Static) : tag.repeat? = none :=
  static.qualified?_eq_none (by decide)

end Tag

namespace Render

variable {World : Type} {host : Host World} {includes body : Render World (List Node)}

/-- A text without placeholders is left alone. -/
theorem interpolate_of_not_occurs {text : String} (plain : ¬ Placeholder.Occurs text.toList) :
    interpolate host text = pure text := by
  have unchanged (context : Context) : host.answering.interpolate context text = pure text := by
    rw [Answering.interpolate, Answering.interpolate?_of_not_occurs _ _ plain]
    rfl
  simp only [interpolate, unchanged]
  rfl

/-- Static attributes are left alone. -/
theorem interpolateAttributes_of_static {entries : List (String × String)}
    (static : ∀ entry ∈ entries,
      Directive.isDirective entry.1 = false ∧ ¬ Placeholder.Occurs entry.2.toList) :
    interpolateAttributes host entries = pure entries := by
  induction entries with
  | nil => rfl
  | cons entry rest inductionHypothesis =>
      obtain ⟨plainName, plainValue⟩ := static entry List.mem_cons_self
      have others := inductionHypothesis fun other member =>
        static other (List.mem_cons_of_mem _ member)
      simp only [interpolateAttributes, plainName, Bool.false_eq_true, if_false,
        interpolate_of_not_occurs plainValue, others, pure_bind]

/-- No stage changes a static tag or asks for anything. -/
theorem prepare_of_static {tag : Tag} (static : tag.Static) :
    prepare host includes tag = pure (tag, none) := by
  have overlays : tag.get? Directive.attributes = none := static.get?_eq_none (by decide)
  have contents : tag.get? Directive.content = none := static.get?_eq_none (by decide)
  have targets : tag.get? Directive.included = none := static.get?_eq_none (by decide)
  have markers : tag.get? Directive.unwrap = none := static.get?_eq_none (by decide)
  have kept {name : String} (directive : Directive.isDirective name = true) :
      tag.remove name = tag := static.remove_eq directive
  have attributes : attributeStage host tag = pure tag := by
    rw [attributeStage, kept (by decide), interpolateAttributes_of_static static, overlays]
    rfl
  have content : contentStage host tag = pure none := by rw [contentStage, contents]
  have included : includeStage host includes tag = pure none := by rw [includeStage, targets]
  have unwrapped : unwrapStage host tag = pure tag := by rw [unwrapStage, markers]
  have contentless : tag.remove Directive.content = tag := kept (by decide)
  have targetless : tag.remove Directive.included = tag := kept (by decide)
  simp only [prepare, attributes, content, contentless, included, targetless, unwrapped, pure_bind]

/-- A static element is visited and keeps its children, which are rendered. -/
theorem renderElement_of_static {tag : Tag} (static : tag.Static) :
    renderElement host includes body tag = do
      setCurrentNode (.element tag [])
      let children ← body
      return [.element tag children] := by
  have content : renderContent host includes body tag = do
      let children ← body
      return .element tag children := by
    simp only [renderContent, prepare_of_static static, pure_bind]
  rw [renderElement_eq, static.guard?_eq_none, static.withoutGuard_eq, static.repeat?_eq_none,
    content]
  simp only [passes, pure_bind, if_true, bind_assoc]

theorem changeContext_visitingLast {α : Type} (first second : List Node)
    (next : Unit → Render World α) :
    (changeContext (Context.visitingLast first) >>= fun _ =>
        changeContext (Context.visitingLast second) >>= next) =
      changeContext (Context.visitingLast (first ++ second)) >>= next := by
  funext scene
  show next () { scene with context := (scene.context.visitingLast first).visitingLast second } = _
  rw [Context.visitingLast_append]
  rfl

mutual
/-- A static node is rendered to itself. -/
theorem renderNode_of_static {node : Node} (static : node.Static) :
    renderNode host includes node = do
      changeContext (Context.visitingLast node.visited)
      return [node] := by
  cases node with
  | element tag children =>
      rw [renderNode, renderElement_of_static static.1, renderNodes_of_static static.2]
      have visit : (setCurrentNode (.element tag []) : Render World Unit) =
        changeContext (Context.visitingLast [.element tag []]) := rfl
      simp only [visit, bind_assoc, pure_bind, changeContext_visitingLast]
      rfl
  | text content =>
      rw [renderNode, interpolate_of_not_occurs static]
      rfl
  | comment content => rfl

/-- Static nodes are rendered to themselves and visited. -/
theorem renderNodes_of_static {nodes : List Node} (static : Node.StaticAll nodes) :
    renderNodes host includes nodes = do
      changeContext (Context.visitingLast (Node.visitedAll nodes))
      return nodes := by
  cases nodes with
  | nil => rfl
  | cons node rest =>
      rw [renderNodes, renderNode_of_static static.1, renderNodes_of_static static.2]
      simp only [bind_assoc, pure_bind, changeContext_visitingLast]
      rfl
end

end Render

/-- Two scenes that are the same as soon as a node is visited in both. -/
def Scene.VisitsAlike (left right : Scene World) : Prop :=
  ∀ node, left.visiting node = right.visiting node

namespace Scene.VisitsAlike

variable {left right : Scene World}

theorem refl (scene : Scene World) : scene.VisitsAlike scene := fun _ => rfl

theorem visiting (scene : Scene World) (other : Node) :
    (scene.visiting other).VisitsAlike scene := by
  intro node
  simp only [Scene.visiting, Context.setCurrentNode_setCurrentNode]

theorem visitingLast (alike : left.VisitsAlike right) (nodes : List Node) :
    left.VisitsAlike { right with context := right.context.visitingLast nodes } := by
  intro node
  rw [alike node, Context.visitingLast]
  cases nodes.getLast? with
  | none => rfl
  | some last => exact (visiting right last node).symm

/-- In a given context the two are the same. -/
theorem restored (alike : left.VisitsAlike right) (context : Context) :
    { left with context } = { right with context } :=
  congrArg (fun scene : Scene World => { scene with context }) (alike (.comment ""))

end Scene.VisitsAlike

namespace Render

variable {World : Type} {host : Host World} {includes : Render World (List Node)}
  {left right : Scene World}

/-- A node that is visited does not tell two such scenes apart. -/
theorem renderNode_of_alike {node : Node} (visible : node.visited ≠ [])
    (alike : left.VisitsAlike right) :
    renderNode host includes node left = renderNode host includes node right := by
  cases node with
  | element tag children =>
      rw [renderNode, renderElement_eq, bind_of_ok (Renderer.setCurrentNode_run _ _),
        bind_of_ok (Renderer.setCurrentNode_run _ _), alike]
  | text content =>
      rw [renderNode, bind_of_ok (Renderer.setCurrentNode_run _ _),
        bind_of_ok (Renderer.setCurrentNode_run _ _), alike]
  | comment content => exact absurd rfl visible

/-- A node that is not visited is rendered to itself. -/
theorem renderNode_of_unvisited {node : Node} (unvisited : node.visited = []) :
    renderNode host includes node = pure [node] := by
  cases node with
  | element tag children => cases unvisited
  | text content => cases unvisited
  | comment content => rfl

/-- Nodes that are not visited are rendered to themselves. -/
theorem renderNodes_of_unvisited {nodes : List Node} (unvisited : Node.visitedAll nodes = []) :
    renderNodes host includes nodes = pure nodes := by
  induction nodes with
  | nil => rfl
  | cons node rest inductionHypothesis =>
      obtain ⟨here, behind⟩ := List.append_eq_nil_iff.mp unvisited
      rw [renderNodes, renderNode_of_unvisited here, inductionHypothesis behind]
      rfl

/-- Nodes of which one is visited do not tell two such scenes apart. -/
theorem renderNodes_of_alike {nodes : List Node} (visible : Node.visitedAll nodes ≠ [])
    (alike : left.VisitsAlike right) :
    renderNodes host includes nodes left = renderNodes host includes nodes right := by
  induction nodes with
  | nil => exact absurd rfl visible
  | cons node rest inductionHypothesis =>
      rw [renderNodes]
      by_cases unvisited : node.visited = []
      · rw [Node.visitedAll, unvisited, List.nil_append] at visible
        rw [renderNode_of_unvisited unvisited, pure_bind]
        exact bind_congr_at (inductionHypothesis visible) _
      · exact bind_congr_at (renderNode_of_alike unvisited alike) _

/-- Static nodes stand in the render where they stand among their siblings. -/
theorem renderNodes_around {run : List Node} (static : Node.StaticAll run)
    (before after : List Node) :
    renderNodes host includes (before ++ run ++ after) = do
      let front ← renderNodes host includes before
      let back ← renderNodes host includes after
      changeContext fun context =>
        if Node.visitedAll after = [] then context.visitingLast (Node.visitedAll run) else context
      return front ++ run ++ back := by
  rw [renderNodes_append, renderNodes_append, renderNodes_of_static static]
  simp only [bind_assoc, pure_bind]
  congr 1
  funext front
  by_cases unvisited : Node.visitedAll after = []
  · simp only [renderNodes_of_unvisited unvisited, if_pos unvisited, pure_bind, List.append_assoc]
  · have unchanged : (changeContext fun context => context : Render World Unit) = pure () := rfl
    simp only [if_neg unvisited, unchanged, pure_bind, List.append_assoc]
    funext scene
    have behind := (Scene.VisitsAlike.refl scene).visitingLast (Node.visitedAll run)
    exact (bind_congr_at (renderNodes_of_alike unvisited behind) _).symm

end Render

/-! Static nodes at any depth. -/

/-- A run of nodes is put among nodes at any depth, any number of times. -/
inductive Node.Spread (run : List Node) : List Node → List Node → Prop
  | nil : Spread run [] []
  | run {thin full : List Node} (rest : Spread run thin full) : Spread run thin (run ++ full)
  | node {thin full : List Node} (node : Node) (rest : Spread run thin full) :
      Spread run (node :: thin) (node :: full)
  | element {tag : Tag} {inner filled thin full : List Node} (inside : Spread run inner filled)
      (rest : Spread run thin full) :
      Spread run (.element tag inner :: thin) (.element tag filled :: full)

namespace Node.Spread

variable {run thin full : List Node}

theorem refl (nodes : List Node) : Spread run nodes nodes := by
  induction nodes with
  | nil => exact .nil
  | cons node rest inductionHypothesis => exact .node node inductionHypothesis

theorem append {others otherFull : List Node} (first : Spread run thin full)
    (second : Spread run others otherFull) :
    Spread run (thin ++ others) (full ++ otherFull) := by
  induction first with
  | nil => exact second
  | run rest inductionHypothesis =>
      rw [List.append_assoc]
      exact .run inductionHypothesis
  | node node rest inductionHypothesis => exact .node node inductionHypothesis
  | element inside rest _ inductionHypothesis => exact .element inside inductionHypothesis

end Node.Spread

namespace Render

variable {World : Type} {host : Host World} {includes body filled : Render World (List Node)}
  {run : List Node}

/-- Two renders end alike: with nodes among which a run is spread, or with the same failure. -/
inductive EndsAlike (run : List Node) :
    EStateM.Result TemplateError (Scene World) (List Node) →
    EStateM.Result TemplateError (Scene World) (List Node) → Prop
  | ok {thin full : List Node} {left right : Scene World} (spread : Node.Spread run thin full)
      (alike : left.VisitsAlike right) : EndsAlike run (.ok thin left) (.ok full right)
  | error {cause : TemplateError} {left right : Scene World} (alike : left.VisitsAlike right) :
      EndsAlike run (.error cause left) (.error cause right)

/-- What is done before two renders in the same way does not matter. -/
theorem EndsAlike.after {α : Type} {action : Render World α}
    {next other : α → Render World (List Node)}
    (behind : ∀ answer scene, EndsAlike run (next answer scene) (other answer scene))
    (scene : Scene World) : EndsAlike run ((action >>= next) scene) ((action >>= other) scene) := by
  cases ran : action scene with
  | ok answer after =>
      rw [bind_of_ok ran, bind_of_ok ran]
      exact behind answer after
  | error cause after =>
      rw [bind_of_error ran, bind_of_error ran]
      exact .error (.refl after)

/-- Renders that end alike do so one behind the other. -/
theorem EndsAlike.bind {first second : Render World (List Node)}
    {next other : List Node → Render World (List Node)} {left right : Scene World}
    (ends : EndsAlike run (first left) (second right))
    (behind : ∀ thin full left right, Node.Spread run thin full → left.VisitsAlike right →
      EndsAlike run (next thin left) (other full right)) :
    EndsAlike run ((first >>= next) left) ((second >>= other) right) := by
  generalize ran : first left = result at ends
  generalize ranOther : second right = otherResult at ends
  cases ends with
  | ok spread alike =>
      rw [bind_of_ok ran, bind_of_ok ranOther]
      exact behind _ _ _ _ spread alike
  | error alike =>
      rw [bind_of_error ran, bind_of_error ranOther]
      exact .error alike

/-- Each copy starts where the copies before it have left the same. -/
theorem endsAlike_copies {copy copyFull : Render World (List Node)}
    (each : ∀ scene, EndsAlike run (copy scene) (copyFull scene)) (name : String) (position : Nat)
    (entries : List (String × Value)) (scene : Scene World) :
    EndsAlike run (copies name copy position entries scene)
      (copies name copyFull position entries scene) := by
  induction entries generalizing position scene with
  | nil => exact .ok .nil (.refl scene)
  | cons entry rest inductionHypothesis =>
      have first := each { scene with context := bindItem name position entry scene.context }
      rw [copies, copies]
      generalize ran : copy _ = result at first
      generalize ranFull : copyFull _ = fullResult at first
      cases first with
      | ok spread alike =>
          rw [bind_of_ok (inScope_of_ok _ ran), bind_of_ok (inScope_of_ok _ ranFull),
            alike.restored]
          apply (inductionHypothesis (position + 1) _).bind
          intro thin full left right behind alikeBehind
          exact .ok (spread.append behind) alikeBehind
      | error alike =>
          rw [bind_of_error (inScope_of_error _ ran), bind_of_error (inScope_of_error _ ranFull),
            alike.restored]
          exact .error (.refl _)

section

variable (inner : ∀ scene, EndsAlike run (body scene) (filled scene))

include inner

/-- A content of its own is the same for an element in both renders. -/
theorem endsAlike_renderContent (tag : Tag) (scene : Scene World) :
    EndsAlike run
      ((renderContent host includes body tag >>= fun node => pure [node]) scene)
      ((renderContent host includes filled tag >>= fun node => pure [node]) scene) := by
  simp only [renderContent, bind_assoc, pure_bind]
  apply EndsAlike.after
  rintro ⟨prepared, content⟩ scene
  cases content with
  | some nodes => exact .ok (.refl _) (.refl scene)
  | none =>
      simp only [bind_assoc, pure_bind]
      apply (inner scene).bind
      intro thin full left right spread alike
      exact .ok (.element spread .nil) alike

/-- An element ends alike if its children do. -/
theorem endsAlike_renderElement (tag : Tag) (scene : Scene World) :
    EndsAlike run (renderElement host includes body tag scene)
      (renderElement host includes filled tag scene) := by
  rw [renderElement_eq, renderElement_eq]
  apply EndsAlike.after
  intro _ scene
  apply EndsAlike.after
  intro passed scene
  cases passed with
  | false => exact .ok .nil (.refl scene)
  | true =>
      simp only [if_true]
      cases search : tag.withoutGuard.repeat? with
      | none => exact endsAlike_renderContent inner _ scene
      | some directive =>
          -- A copy has fewer attributes, on which the recursion ends.
          have fewer := Tag.size_copy_lt search
          apply EndsAlike.after
          intro entries scene
          exact endsAlike_copies (endsAlike_renderElement _) _ _ _ scene
termination_by tag.attributes.size

end

/-- A run among nodes leaves their render alone, by induction on how it is spread. -/
theorem endsAlike_renderNodes (static : Node.StaticAll run) {thin full : List Node}
    (spread : Node.Spread run thin full) {left right : Scene World}
    (alike : left.VisitsAlike right) :
    EndsAlike run (renderNodes host includes thin left) (renderNodes host includes full right) := by
  induction spread generalizing left right with
  | nil => exact .ok .nil alike
  | @run thin full rest inductionHypothesis =>
      have behind := inductionHypothesis (alike.visitingLast (Node.visitedAll run))
      have ends : EndsAlike run ((renderNodes host includes thin >>= pure) left)
          ((renderNodes host includes full >>= fun others => pure (run ++ others))
            { right with context := right.context.visitingLast (Node.visitedAll run) }) :=
        behind.bind fun _ _ _ _ spread alike => .ok (.run spread) alike
      rw [bind_pure] at ends
      rw [renderNodes_append, renderNodes_of_static static]
      exact ends
  | node node rest inductionHypothesis =>
      rw [renderNodes, renderNodes]
      -- Only a node that is visited makes the scenes equal again.
      by_cases unvisited : node.visited = []
      · rw [renderNode_of_unvisited unvisited, pure_bind, pure_bind]
        apply (inductionHypothesis alike).bind
        intro thin full left right spread alike
        exact .ok (.node node spread) alike
      · rw [bind_congr_at (renderNode_of_alike unvisited alike)]
        apply EndsAlike.after
        intro first scene
        apply (inductionHypothesis (.refl scene)).bind
        intro thin full left right spread alike
        exact .ok ((Node.Spread.refl first).append spread) alike
  | @element tag inner filled thin full inside rest insideHypothesis inductionHypothesis =>
      have visible : (Node.element tag inner).visited ≠ [] := List.cons_ne_nil _ _
      rw [renderNodes, renderNodes, bind_congr_at (renderNode_of_alike visible alike), renderNode,
        renderNode]
      apply (endsAlike_renderElement (fun scene => insideHypothesis (.refl scene)) tag right).bind
      intro first firstFull left right spread alike
      apply (inductionHypothesis alike).bind
      intro others othersFull left right behind alikeBehind
      exact .ok (spread.append behind) alikeBehind

/-- Static nodes are rendered to themselves, alone, among siblings, and spread at any depth. -/
theorem renderNodes_static (host : Host World) (includes : Render World (List Node))
    {run : List Node} (static : Node.StaticAll run) :
    (∀ scene, renderNodes host includes run scene =
      .ok run { scene with context := scene.context.visitingLast (Node.visitedAll run) }) ∧
    (∀ before after,
      (renderNodes host includes (before ++ run ++ after) = do
        let front ← renderNodes host includes before
        let back ← renderNodes host includes after
        changeContext fun context =>
          if Node.visitedAll after = [] then context.visitingLast (Node.visitedAll run) else context
        return front ++ run ++ back) ∧
      renderNodes host includes (before ++ after) = do
        let front ← renderNodes host includes before
        let back ← renderNodes host includes after
        return front ++ back) ∧
    ∀ thin full, Node.Spread run thin full → ∀ scene,
      EndsAlike run (renderNodes host includes thin scene)
        (renderNodes host includes full scene) := by
  refine ⟨fun scene => ?_, fun before after => ⟨renderNodes_around static before after,
    renderNodes_append host includes before after⟩, fun thin full spread scene =>
      endsAlike_renderNodes static spread (.refl scene)⟩
  rw [renderNodes_of_static static]
  rfl

/-- Near misses of placeholders and of directive names, and an empty text. -/
def plainRun : List Node :=
  [.comment "$\x7bnoisy\x7d",
    .element ⟨"script", ⟨[("data-flying", "$\x7b\x7d"), ("src", "\\$ \x7ba\x7d")]⟩⟩
      [.text "$\x7ba-b\x7d \\ $\x7ba"], .text ""]

/-- The host notes no request. -/
theorem renderNodes_static_plainRun :
    Node.StaticAll plainRun ∧ ∀ includes,
      renderNodes (countingHost (.bool true)).recorded includes plainRun
        (guardedScene.recording []) =
          .ok plainRun ((guardedScene.visiting (.text "")).recording []) := by
  have static : Node.StaticAll plainRun := by
    show True ∧ (Tag.Static _ ∧ ¬ Placeholder.Occurs _ ∧ True) ∧ ¬ Placeholder.Occurs _ ∧ True
    decide +kernel
  exact ⟨static, fun includes => (renderNodes_static _ includes static).1 _⟩

end Render

end Stencil
