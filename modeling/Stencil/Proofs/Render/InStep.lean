import Stencil.Proofs.Render.Stages

/-! Renders of contexts that are alike run in step. -/

namespace Stencil

namespace Render

open Accord

variable {World : Type} {host : Host World} {terms : Terms} {accord : Accord World}

/-- An element that is rendered is repeated, or goes through the stages behind a repeat. -/
theorem renderElement_eq (host : Host World) (includes body : Render World (List Node))
    (tag : Tag) :
    renderElement host includes body tag = do
      setCurrentNode (.element tag [])
      let passed ← passes host tag.guard?
      if passed then
        match tag.withoutGuard.repeat? with
        | some directive => do
            let entries ← repeatEntries host directive
            copies (itemName directive)
              (renderElement host includes body (tag.withoutGuard.remove directive.name)) 0 entries
        | none => do
            let node ← renderContent host includes body tag.withoutGuard
            return [node]
      else return [] := by
  rw [renderElement]
  congr 1
  funext visited
  congr 1
  funext passed
  congr 1
  split
  · rename_i directive search
    simp only [search]
  · rename_i search
    simp only [search]

/-- Nodes in two parts are rendered one part behind the other. -/
theorem renderNodes_append (host : Host World) (includes : Render World (List Node))
    (before rest : List Node) :
    renderNodes host includes (before ++ rest) = do
      let first ← renderNodes host includes before
      let others ← renderNodes host includes rest
      return first ++ others := by
  induction before with
  | nil => simp only [List.nil_append, renderNodes, pure_bind, bind_pure]
  | cons node before inductionHypothesis =>
      simp only [List.cons_append, renderNodes, inductionHypothesis, bind_assoc, pure_bind,
        List.append_assoc]

/-- Two tags with the same tests and repeats, for contexts that stay related. -/
structure Twins (terms : Terms) (contexts : Context → Context → Prop) (twin : Tag → Tag → Prop) :
    Prop where
  known : ∀ {left right}, twin left right → ∀ key ∈ left.readKeys, terms.reads key
  guard : ∀ {left right}, twin left right → left.guard? = right.guard?
  repeated : ∀ {left right}, twin left right →
    left.withoutGuard.repeat? = right.withoutGuard.repeat?
  copied : ∀ {left right directive}, twin left right →
    left.withoutGuard.repeat? = some directive →
      twin (left.withoutGuard.remove directive.name) (right.withoutGuard.remove directive.name)
  alike : ∀ first second, contexts first second → terms.Alike first second
  visited : ∀ {left right}, twin left right → ∀ first second, contexts first second →
    contexts (first.setCurrentNode (.element left [])) (second.setCurrentNode (.element right []))
  tested : ∀ {left right}, twin left right → ∀ first second, contexts first second →
    contexts (first.tested left.guard?) (second.tested left.guard?)
  bound : ∀ {left right directive}, twin left right →
    left.withoutGuard.repeat? = some directive → ∀ position (entry : String × Value),
      entry.2.Data terms.names terms.withNodes → ∀ first second, contexts first second →
        contexts (bindItem (itemName directive) position entry first)
          (bindItem (itemName directive) position entry second)

section Elements

variable {contexts ends : Context → Context → Prop} {related : List Node → List Node → Prop}
  (empty : related [] [])
  (append : ∀ {first second third fourth}, related first second → related third fourth →
    related (first ++ third) (second ++ fourth))

include empty append

/-- Each copy starts from the context around the repeat, whatever the copies before it did. -/
theorem inStep_copies (host : Host World) {copy copySecond : Render World (List Node)}
    (remembers : Remembers copy) (each : accord.InStep contexts ends related copy copySecond)
    (name : String) (position : Nat) (entries : List (String × Value))
    (bound : ∀ position, ∀ entry ∈ entries, ∀ left right, contexts left right →
      contexts (bindItem name position entry left) (bindItem name position entry right)) :
    accord.InStep contexts contexts related (copies name copy position entries)
      (copies name copySecond position entries) := by
  have closed := closed_remembers host
  -- The scope of a copy starts from the outer context, so that no copy sees another.
  induction entries generalizing position with
  | nil => exact (calm_pure empty).inStep
  | cons entry rest inductionHypothesis =>
      have others := fun position other member =>
        bound position other (List.mem_cons_of_mem _ member)
      have first : accord.InStep contexts contexts related
          (inScope (bindItem name position entry) copy)
          (inScope (bindItem name position entry) copySecond) :=
        each.inScope (bound position entry List.mem_cons_self)
      apply first.bind
      · intro nodes
        apply closed.bind
        · apply closed.copies
          intro change
          exact closed.inScope change remembers
        · intro behind
          exact closed.pure _
      · intro nodes other held
        apply (inductionHypothesis (position + 1) others).map
        intro behind otherBehind heldBehind
        exact append held heldBehind

/-- An element is rendered in step with its twin. -/
theorem inStep_renderElement {twin : Tag → Tag → Prop} (twins : Twins terms contexts twin)
    {includes includesSecond body bodySecond : Render World (List Node)}
    (remembers : Remembers includes) (innerRemembers : Remembers body)
    (weaker : ∀ left right, contexts left right → ends left right)
    (leaf : ∀ left right, twin left right → left.withoutGuard.repeat? = none →
      accord.InStep contexts ends (fun node other => related [node] [other])
        (renderContent host includes body left.withoutGuard)
        (renderContent host includesSecond bodySecond right.withoutGuard))
    (left right : Tag) (paired : twin left right) :
    accord.InStep contexts ends related (renderElement host includes body left)
      (renderElement host includesSecond bodySecond right) := by
  have closed := closed_remembers host
  have known := twins.known paired
  rw [renderElement_eq, renderElement_eq, ← twins.guard paired, ← twins.repeated paired]
  have visit : accord.Calm contexts contexts (fun _ _ => True)
      (setCurrentNode (.element left [])) (setCurrentNode (.element right [])) :=
    calm_changeContext (twins.visited paired)
  apply visit.bind
  intro _ _ _
  have guardKnown : ∀ guard ∈ left.guard?, ∀ key ∈ Path.readKeys guard.expression,
      terms.reads key := fun guard search key read =>
    known key (Tag.readKeys_guard_subset search read)
  apply (calm_passes twins.alike guardKnown (twins.tested paired)).bind
  rintro passed _ rfl
  cases passed with
  | false => exact (calm_pure empty).inStep.mono (fun _ _ held => held) weaker
  | true =>
      simp only [if_true]
      cases search : left.withoutGuard.repeat? with
      | none =>
          apply (leaf left right paired search).map
          exact fun _ _ held => held
      | some directive =>
          have directiveKnown : ∀ key ∈ Path.readKeys directive.expression, terms.reads key :=
            fun key read => known key (Tag.readKeys_repeat_subset search read)
          apply (calm_repeatEntries twins.alike directiveKnown).bind
          rintro entries _ ⟨rfl, data⟩
          -- A copy has fewer attributes, on which the recursion ends.
          have fewer := Tag.size_copy_lt search
          have copy := inStep_renderElement twins remembers innerRemembers weaker leaf _ _
            (twins.copied paired search)
          have copies := inStep_copies empty append host
            (closed.renderElement remembers innerRemembers _) copy (itemName directive) 0 entries
            fun position entry member => twins.bound paired search position entry
              (data entry member)
          exact copies.mono (fun _ _ held => held) weaker
termination_by left.attributes.size

end Elements

section Nodes

variable {forms : terms.Forms} {includes includesSecond : Render World (List Node)}

/-- An element of a template is its own twin. -/
theorem twins_fit (forms : terms.Forms) :
    Twins terms terms.Alike fun left right =>
      left = right ∧ (∀ key ∈ left.readKeys, terms.reads key) ∧ forms.fit left where
  known paired := paired.2.1
  guard paired := by rw [paired.1]
  repeated paired := by rw [paired.1]
  copied {left right directive} paired search := by
    refine ⟨by rw [paired.1], fun key read => ?_, forms.copied left directive paired.2.2 search⟩
    exact paired.2.1 key
      (left.readKeys_withoutGuard_subset (left.withoutGuard.readKeys_remove_subset _ read))
  alike _ _ alike := alike
  visited paired first second alike := by
    rw [← paired.1]
    exact alike.setCurrentNode _
  tested paired first second alike := alike.tested fun guard search key read =>
    paired.2.1 key (Tag.readKeys_guard_subset search read)
  bound _ _ position entry data first second alike := alike.bindItem _ position data

/-- Parts that are the same are the same together. -/
theorem same_append {first second third fourth : List Node}
    (held : Same forms.AllDone first second) (others : Same forms.AllDone third fourth) :
    Same forms.AllDone (first ++ third) (second ++ fourth) := by
  obtain ⟨rfl, firstDone⟩ := held
  obtain ⟨rfl, thirdDone⟩ := others
  exact ⟨rfl, Terms.Forms.allDone_append firstDone thirdDone⟩

mutual
/-- A node is rendered in step with itself. -/
theorem inStep_renderNode (remembers : Remembers includes)
    (deeper : accord.InStep terms.Addressed terms.Alike (Same forms.AllDone) includes
      includesSecond)
    (node : Node) (admits : forms.Admits [node]) :
    accord.InStep terms.Alike terms.Alike (Same forms.AllDone) (renderNode host includes node)
      (renderNode host includesSecond node) := by
  cases node with
  | element tag children =>
      have inner := inStep_renderNodes remembers deeper children admits.children
      have innerRemembers := (closed_remembers host).renderNodes remembers children
      have tagKnown : ∀ key ∈ tag.readKeys, terms.reads key := fun key read =>
        admits.known key (List.mem_append_left _ (List.mem_append_left _ read))
      have tagFit := admits.fit tag List.mem_cons_self
      rw [renderNode, renderNode]
      apply inStep_renderElement ⟨rfl, fun tag absent => by cases absent⟩ same_append
        (twins_fit forms) remembers innerRemembers (fun _ _ alike => alike) _ tag tag
        ⟨rfl, tagKnown, tagFit⟩
      rintro left _ ⟨rfl, known, fit⟩ search
      have content : accord.InStep terms.Alike terms.Alike (Same fun node => forms.AllDone [node])
          (renderContent host includes (renderNodes host includes children) left.withoutGuard)
          (renderContent host includesSecond (renderNodes host includesSecond children)
            left.withoutGuard) :=
        inStep_renderContent deeper innerRemembers inner
          (fun key read => known key (left.readKeys_withoutGuard_subset read))
          fun written kept => forms.prepared left written fit search kept
      apply content.mono _ fun _ _ alike => alike
      rintro node _ ⟨rfl, done⟩
      exact ⟨rfl, done⟩
  | text content =>
      apply (calm_setCurrentNode (.text content)).bind
      intro _ _ _
      have known : ∀ key ∈ Placeholder.readKeys content, terms.reads key := fun key read =>
        admits.known key (List.mem_append_left _ read)
      apply (calm_interpolate known).bind
      rintro written _ rfl
      exact (calm_pure ⟨rfl, fun tag absent => by cases absent⟩).inStep
  | comment content => exact (calm_pure ⟨rfl, fun tag absent => by cases absent⟩).inStep

/-- The nodes of a template are rendered to the same nodes. -/
theorem inStep_renderNodes (remembers : Remembers includes)
    (deeper : accord.InStep terms.Addressed terms.Alike (Same forms.AllDone) includes
      includesSecond)
    (nodes : List Node) (admits : forms.Admits nodes) :
    accord.InStep terms.Alike terms.Alike (Same forms.AllDone) (renderNodes host includes nodes)
      (renderNodes host includesSecond nodes) := by
  have closed := closed_remembers host
  cases nodes with
  | nil => exact (calm_pure ⟨rfl, fun tag absent => by cases absent⟩).inStep
  | cons node rest =>
      rw [renderNodes, renderNodes]
      apply (inStep_renderNode remembers deeper node admits.head).bind
      · intro first
        exact closed.bind (closed.renderNodes remembers rest) fun others => closed.pure _
      · intro first other held
        apply (inStep_renderNodes remembers deeper rest admits.tail).map
        exact fun behind otherBehind heldBehind => same_append held heldBehind
end

end Nodes

end Render

namespace Renderer

variable {World : Type}

/-- What an include does with room for the given number of includes below it. -/
def includesWithin (renderer : Renderer) (host : Host World) : Nat → Render World (List Node)
  | 0 => throw (.includeDepthExceeded renderer.config.maxIncludeDepth)
  | room + 1 => do
      let included ← renderer.resolveTemplate host
      renderer.renderWithin host room included

/-- A template is its content, finished. -/
theorem renderWithin_eq (renderer : Renderer) (host : Host World) (room : Nat)
    (template : Template) :
    renderer.renderWithin host room template = do
      let nodes ← Render.renderNodes host (renderer.includesWithin host room) template.content
      return renderer.finish nodes := by
  cases room with
  | zero => rfl
  | succ room => rfl

end Renderer

namespace Render

open Accord

variable {World : Type} {host : Host World} {terms : Terms} {accord : Accord World}
  {forms : terms.Forms}

/-- Includes only remember more. -/
theorem remembers_includesWithin (renderer : Renderer) (host : Host World) (room : Nat) :
    Remembers (renderer.includesWithin host room) := by
  have closed := closed_remembers host
  cases room with
  | zero => exact closed.throw _
  | succ room =>
      exact closed.bind (closed.resolveTemplate renderer) (closed.renderWithin renderer room)

/-- A template is rendered to the same nodes, which are finished nodes of a walk. -/
theorem inStep_renderWithin (renderer : Renderer) {room other : Nat}
    (deeper : accord.InStep terms.Addressed terms.Alike (Same forms.AllDone)
      (renderer.includesWithin host room) (renderer.includesWithin host other))
    (template : Template) (admits : forms.Admits template.content) :
    accord.InStep terms.Alike terms.Alike
      (Same fun nodes => ∃ raw, forms.AllDone raw ∧ nodes = renderer.finish raw)
      (renderer.renderWithin host room template) (renderer.renderWithin host other template) := by
  rw [Renderer.renderWithin_eq, Renderer.renderWithin_eq]
  have walked : accord.InStep terms.Alike terms.Alike (Same forms.AllDone)
      (renderNodes host (renderer.includesWithin host room) template.content)
      (renderNodes host (renderer.includesWithin host other) template.content) :=
    inStep_renderNodes (remembers_includesWithin renderer host room) deeper _ admits
  apply walked.map
  rintro raw _ ⟨rfl, rawDone⟩
  exact ⟨rfl, raw, rawDone, rfl⟩

section Templates

variable (renderer : Renderer)
  (lookUps : ∀ key, accord.InStep terms.Alike terms.Alike
    (Same fun template : Template => forms.Admits template.content) (lookUp host key)
    (lookUp host key))

include lookUps

/-- Contexts that name the same template look it up in step. -/
theorem inStep_resolveTemplate :
    accord.InStep terms.Addressed terms.Alike
      (Same fun template : Template => forms.Admits template.content)
      (renderer.resolveTemplate host) (renderer.resolveTemplate host) := by
  have asked : accord.Calm terms.Addressed terms.Addressed Eq
      (ask fun context => TemplateKey.ofContext? context renderer.config.codeBasePath)
      (ask fun context => TemplateKey.ofContext? context renderer.config.codeBasePath) := by
    apply calm_ask
    intro left right addressed
    have file := addressed.alike.file
    simp only [TemplateKey.ofContext?, addressed.name, file.path, file.block, file.base]
  apply asked.bind
  rintro key? _ rfl
  cases key? with
  | none => exact inStep_throw _
  | some key =>
      have changed : accord.Calm terms.Addressed terms.Alike (fun _ _ => True)
          (changeContext (·.setTemplate key.path key.name))
          (changeContext (·.setTemplate key.path key.name)) :=
        calm_changeContext fun left right addressed => addressed.alike.setTemplate _ _
      apply changed.bind
      intro _ _ _
      exact lookUps key

/-- Includes are in step, by induction on the room that the first run has. -/
theorem inStep_includesWithin
    (finished : ∀ nodes, forms.AllDone nodes → forms.AllDone (renderer.finish nodes))
    {room other : Nat}
    (rooms : room = other ∨ room ≤ other ∧
      accord.excused (.includeDepthExceeded renderer.config.maxIncludeDepth)) :
    accord.InStep terms.Addressed terms.Alike (Same forms.AllDone)
      (renderer.includesWithin host room) (renderer.includesWithin host other) := by
  induction room generalizing other with
  -- A first run without room fails, which the second need not do if that is excused.
  | zero =>
      rcases rooms with rfl | ⟨-, excused⟩
      · exact inStep_throw _
      · exact inStep_excused excused _
  | succ room inductionHypothesis =>
      obtain ⟨less, rfl⟩ : ∃ less, other = less + 1 :=
        Nat.exists_eq_succ_of_ne_zero (by omega)
      have deeper : accord.InStep terms.Addressed terms.Alike (Same forms.AllDone)
          (renderer.includesWithin host room) (renderer.includesWithin host less) :=
        inductionHypothesis (rooms.imp Nat.succ.inj (And.imp_left Nat.le_of_succ_le_succ))
      apply (inStep_resolveTemplate renderer lookUps).bind
      · exact (closed_remembers host).renderWithin renderer room
      · rintro template _ ⟨rfl, admits⟩
        apply (inStep_renderWithin renderer deeper template admits).mono
        · rintro _ nodes ⟨rfl, raw, rawDone, rfl⟩
          exact ⟨rfl, finished raw rawDone⟩
        · exact fun _ _ alike => alike

end Templates

end Render

end Stencil
