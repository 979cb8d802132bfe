import Stencil.Proofs.Render.Address
import Stencil.Proofs.Render.DataOnly
import Stencil.Proofs.Render.Flattened
import Stencil.Proofs.Template.Consistent

/-! Includes are inlining. -/

namespace Stencil

variable {World : Type}

namespace Tag

/-- An attribute is gone once it is removed. -/
theorem remove_remove (tag : Tag) (name : String) :
    (tag.remove name).remove name = tag.remove name := by
  simp only [remove, OrderedMap.erase, List.filter_filter, Bool.and_self]

theorem remove_comm (tag : Tag) (first second : String) :
    (tag.remove first).remove second = (tag.remove second).remove first := by
  simp only [remove, OrderedMap.erase_comm]

/-- An attribute without a base among those of a search may be removed before it. -/
theorem qualified?_remove {bases : List String} {name : String}
    (unread : ∀ base ∈ bases, Qualified.qualifier? base name = none) (tag : Tag) :
    (tag.remove name).qualified? bases = tag.qualified? bases :=
  Qualified.find?_filter_ne unread _

/-- A name that is from no base is not the one found. -/
theorem ne_of_qualified? {tag : Tag} {bases : List String} {found : Qualified}
    (search : tag.qualified? bases = some found) {name : String}
    (unread : ∀ base ∈ bases, Qualified.qualifier? base name = none) : name ≠ found.name := by
  rintro rfl
  obtain ⟨among, read, -⟩ := Qualified.find?_spec search
  rw [unread _ among] at read
  cases read

end Tag

namespace Tag

variable {name : String} (plain : Directive.IsUnqualified name) (tag : Tag)
include plain

theorem guard?_remove : (tag.remove name).guard? = tag.guard? :=
  tag.qualified?_remove fun base among =>
    plain base (List.mem_of_mem_take (i := 2) among)

theorem withoutGuard_remove : (tag.remove name).withoutGuard = tag.withoutGuard.remove name := by
  rw [withoutGuard, withoutGuard, guard?_remove plain]
  split
  · exact tag.remove_comm _ _
  · rfl

theorem repeat?_remove : (tag.remove name).repeat? = tag.repeat? :=
  tag.qualified?_remove fun base among =>
    plain base (List.mem_of_mem_drop (i := 2) among)

theorem get?_withoutGuard : tag.withoutGuard.get? name = tag.get? name := by
  unfold withoutGuard
  split
  · rename_i guard search
    rw [get?_remove, if_neg]
    exact ne_of_qualified? search fun base among =>
      plain base (List.mem_of_mem_take (i := 2) among)
  · rfl

theorem get?_copy {directive : Qualified}
    (search : tag.withoutGuard.repeat? = some directive) :
    (tag.withoutGuard.remove directive.name).get? name = tag.get? name := by
  rw [get?_remove, if_neg, tag.get?_withoutGuard plain]
  exact ne_of_qualified? search fun base among =>
    plain base (List.mem_of_mem_drop (i := 2) among)

end Tag

/-- A map that does not name an attribute may be laid over the others without it. -/
theorem Render.overlay_erase {name : String} (attributes : OrderedMap String)
    {value : Option Value}
    (unnamed : ∀ entries, value = some (.map entries) →
      ∀ entry ∈ entries.entries, entry.1.toLower ≠ name) :
    overlay (attributes.erase name) value = (overlay attributes value).erase name := by
  unfold overlay
  split
  · rename_i entries
    have others := unnamed entries rfl
    revert others
    generalize entries.entries = list
    intro others
    induction list generalizing attributes with
    | nil => rfl
    | cons entry rest inductionHypothesis =>
        have apart := others entry List.mem_cons_self
        have first : overlayEntry (attributes.erase name) entry =
            (overlayEntry attributes entry).erase name := by
          rw [overlayEntry, overlayEntry]
          split
          · exact OrderedMap.erase_comm _ _ _
          · exact OrderedMap.insert_erase_of_ne _ apart _
        rw [List.foldl_cons, List.foldl_cons, first]
        exact inductionHypothesis _ fun other member => others other (List.mem_cons_of_mem _ member)
  · rfl

/-- Writing the attributes leaves an include for later. -/
theorem Terms.Alike.written_remove {terms : Terms} {left right : Context}
    (alike : terms.Alike left right) {tag : Tag} (known : ∀ key ∈ tag.readKeys, terms.reads key) :
    left.written (tag.remove Directive.included) =
      (left.written tag).remove Directive.included := by
  have entries : ((tag.remove Directive.included).remove
      Directive.attributes).attributes.entries.map left.writtenEntry =
        ((tag.remove Directive.attributes).attributes.entries.map left.writtenEntry).filter
          (·.1 ≠ Directive.included) := by
    rw [tag.remove_comm, List.filter_map]
    rfl
  have value : left.overlayOf? (tag.remove Directive.included) = left.overlayOf? tag := by
    rw [Context.overlayOf?, Context.overlayOf?, Tag.get?_remove, if_neg (by decide)]
  have unnamed : ∀ entries, left.overlayOf? tag = some (.map entries) →
      ∀ entry ∈ entries.entries, entry.1.toLower ≠ Directive.included := by
    intro entries found entry member same
    apply terms.laid entry.1 (alike.names_overlayOf? known found entry member)
    simp [same]
  have overlaid := Render.overlay_erase
    ⟨(tag.remove Directive.attributes).attributes.entries.map left.writtenEntry⟩ unnamed
  rw [OrderedMap.erase] at overlaid
  rw [Context.written, Context.written, entries, value, overlaid]
  rfl

namespace Renderer

/-- Nothing reads its address or the visited node, and no key is a directive. -/
def inlineTerms : Terms where
  reads key := key ≠ Context.templateKey ∧ key ≠ Context.currentNodeKey
  names := Directive.IsForeign
  withNodes := True
  dashless _ := Directive.isForeign_of_dash_notMem
  laid _ := laysData_of_isForeign
  visited _ := trivial

/-- Two contexts that are alike, in a template of a file. -/
structure Within (path : String) (left right : Context) : Prop where
  alike : inlineTerms.Alike left right
  path : left.templatePath? = some path

/-- An element that includes a fragment, and the same element without the include. -/
structure Includes (name : String) (left right : Tag) : Prop where
  removed : right = left.remove Directive.included
  target : left.get? Directive.included = some name
  contentless : left.get? Directive.content = none
  known : ∀ key ∈ left.readKeys, inlineTerms.reads key
  unaddressed : left.KeepsAddress

theorem isUnqualified_included : Directive.IsUnqualified Directive.included := by
  unfold Directive.IsUnqualified
  decide

theorem isUnqualified_content : Directive.IsUnqualified Directive.content := by
  unfold Directive.IsUnqualified
  decide

namespace Within

variable {path : String} {left right : Context}

theorem insert (within : Within path left right) {key : String}
    (other : key ≠ Context.templateKey) {value : Value}
    (data : value.Data inlineTerms.names inlineTerms.withNodes) :
    Within path (left.insert key value) (right.insert key value) :=
  ⟨within.alike.insert key data, by rw [Context.templatePath?_insert _ other, within.path]⟩

theorem bindItem (within : Within path left right) {name : String}
    (other : name ≠ Context.templateKey) (position : Nat) {entry : String × Value}
    (data : entry.2.Data inlineTerms.names inlineTerms.withNodes) :
    Within path (Render.bindItem name position entry left)
      (Render.bindItem name position entry right) := by
  obtain ⟨index, number, key⟩ := Render.suffixed_ne_templateKey name
  exact (((within.insert other data).insert index (.number _)).insert number (.number _)).insert key
    (.string _)

end Within

/-- An element and its twin go through the same tests and repeats, in the same file. -/
theorem twins_includes (path name : String) :
    Render.Twins inlineTerms (Within path) (Includes name) where
  known paired := paired.known
  guard {left right} paired := by
    rw [paired.removed, left.guard?_remove isUnqualified_included]
  repeated {left right} paired := by
    rw [paired.removed, Tag.withoutGuard_remove isUnqualified_included,
      Tag.repeat?_remove isUnqualified_included]
  copied {left right directive} paired search := by
    constructor
    · rw [paired.removed, Tag.withoutGuard_remove isUnqualified_included, Tag.remove_comm]
    · rw [left.get?_copy isUnqualified_included search, paired.target]
    · rw [left.get?_copy isUnqualified_content search, paired.contentless]
    · intro key read
      exact paired.known key
        (left.readKeys_withoutGuard_subset (left.withoutGuard.readKeys_remove_subset _ read))
    · exact paired.unaddressed.withoutGuard.remove _
  alike _ _ within := within.alike
  visited {left right} paired first second within := by
    have unread : ¬ inlineTerms.reads Context.currentNodeKey := fun reads => reads.2 rfl
    refine ⟨within.alike.setCurrentNode_unread unread _ _, ?_⟩
    rw [Context.setCurrentNode, Context.templatePath?_insert _ (by decide), within.path]
  tested {left right} paired first second within := by
    have known : ∀ guard ∈ left.guard?, ∀ key ∈ Path.readKeys guard.expression,
        inlineTerms.reads key := fun guard search key read =>
      paired.known key (Tag.readKeys_guard_subset search read)
    refine ⟨within.alike.tested known, ?_⟩
    cases search : left.guard? with
    | none => exact within.path
    | some guard =>
        rw [Context.tested, Option.bind_some]
        cases qualified : guard.qualifier with
        | none => exact within.path
        | some qualifier =>
            have other := paired.unaddressed.qualifier_ne (List.take_subset 2 _) search qualified
            exact (Context.templatePath?_insert _ other _).trans within.path
  bound {left right directive} paired search position entry data first second within := by
    exact within.bindItem (paired.unaddressed.withoutGuard.itemName_ne search) position data

end Renderer

/-- Two runs over caches that lookups filled from one source. -/
def Render.Accord.filled (fetching : Fetching World) (keys : TemplateKey → Prop) :
    Render.Accord World where
  store left right := left.1.Consistent fetching ∧ right.1.Consistent fetching
  keys := keys
  excused _ := True

namespace Render

open Accord

section

variable {host : Host World} {keys : TemplateKey → Prop}
  (steady : ∀ path, Steady (host.fetching path)) (apart : TemplateKey.Apart keys)
  (declared : ∀ key, key.Declared host.fetching → keys key)

include steady apart declared

/-- Caches that were filled from one source answer in the same way. -/
theorem inStep_lookUp_filled {terms : Terms} {forms : terms.Forms}
    (admitted : ∀ template, Cache.Offered host.fetching template → forms.Admits template.content)
    (key : TemplateKey) :
    (filled host.fetching keys).InStep terms.Alike terms.Alike
      (Same fun template : Template => forms.Admits template.content) (lookUp host key)
      (lookUp host key) := by
  intro left right holds asked
  obtain ⟨leftCache, rightCache⟩ := holds.store
  have allowed : keys key := by
    apply asked
    rw [leaves_lookUp]
    simp
  -- Both caches answer as a fresh one does.
  have same : (left.cache.resolve host.fetching key left.world).1.1 =
      (right.cache.resolve host.fetching key right.world).1.1 :=
    (leftCache.resolve_eq_fresh steady apart declared allowed _ left.world).trans
      (rightCache.resolve_eq_fresh steady apart declared allowed _ _).symm
  have kept := Cache.Sound.resolve leftCache.sound key left.world
  rw [lookUp_eq, lookUp_eq host key right, ← same, leaves_lookUp, leaves_lookUp]
  cases answer : (left.cache.resolve host.fetching key left.world).1.1 with
  | error cause => exact .error
  | ok template =>
      have offered := (kept.1 key.id template (kept.2 template answer)).2
      exact .ok ⟨rfl, admitted template offered⟩
        ⟨holds.context, leftCache.resolve key _, rightCache.resolve key _⟩

/-- A lookup that only the first run makes finds what a fresh cache finds. -/
theorem inStep_lookUp_fresh {contexts : Context → Context → Prop} {key : TemplateKey}
    {fragment : Template} {world : World}
    (resolved : (Cache.empty.resolve host.fetching key world).1.1 = .ok fragment) :
    (filled host.fetching keys).InStep contexts contexts (fun template _ => template = fragment)
      (lookUp host key) (pure ()) := by
  intro left right holds asked
  obtain ⟨leftCache, rightCache⟩ := holds.store
  have allowed : keys key := by
    apply asked
    rw [leaves_lookUp]
    simp
  have same := leftCache.resolve_eq_fresh steady apart declared allowed left.world world
  rw [lookUp_eq, same, resolved, leaves_lookUp]
  exact .ok rfl ⟨holds.context, leftCache.resolve key _, rightCache⟩

end

/-- A text without placeholders stands for itself. -/
theorem interpolate_literal {name : String}
    (literal : hasPlaceholders (Piece.scan name.toList) = false) (host : Host World)
    (scene : Scene World) : interpolate host name scene = .ok name scene := by
  simp only [interpolate, reading, Answering.interpolate, Answering.interpolate?, literal,
    Bool.false_eq_true, if_false]
  rfl

section

variable {host : Host World} {includes body : Render World (List Node)} {tag written : Tag}
  {scene : Scene World} (ran : attributeStage host tag scene = .ok written scene)
  (contentless : written.get? Directive.content = none)

include ran contentless

/-- Without a content of its own, an element takes what it includes as children. -/
theorem renderContent_run_included {path name : String}
    (target : written.get? Directive.included = some name)
    (literal : hasPlaceholders (Piece.scan name.toList) = false)
    (address : includeKey scene.context name = ⟨path, name⟩) :
    renderContent host includes body tag scene =
      (do
        let nodes ← inScope (·.setTemplate path name) includes
        let last ← unwrapStage host
          ((written.remove Directive.content).remove Directive.included)
        return Node.element last nodes) scene := by
  have held : (written.remove Directive.content).get? Directive.included = some name := by
    rw [Tag.get?_remove, if_neg (by decide), target]
  have entered : inScope (fun context => context.setTemplate (includeKey context name).path
      (includeKey context name).name) includes scene =
        inScope (·.setTemplate path name) includes scene := by
    simp only [inScope, address]
  simp only [renderContent, prepare, bind_assoc, bind_of_ok ran, contentStage, contentless,
    pure_bind, includeStage, held, bind_of_ok (interpolate_literal literal host scene)]
  exact bind_congr_at entered _

/-- Without a content and an include, an element keeps its children. -/
theorem renderContent_run_children (untargeted : written.get? Directive.included = none) :
    renderContent host includes body tag scene =
      (do
        let last ← unwrapStage host
          ((written.remove Directive.content).remove Directive.included)
        let children ← body
        return Node.element last children) scene := by
  have held : (written.remove Directive.content).get? Directive.included = none := by
    rw [Tag.get?_remove, if_neg (by decide), untargeted]
  simp only [renderContent, prepare, bind_assoc, bind_of_ok ran, contentStage, contentless,
    pure_bind, includeStage, held]

end

end Render

namespace Renderer

open Render Render.Accord

variable {host : Host World} {keys : TemplateKey → Prop} {renderer : Renderer}
  {path name : String} {fragment : Template} {world : World}
  (bare : renderer.finish = flattenAll) (nonempty : path ≠ "")
  (steady : ∀ path, Steady (host.fetching path)) (apart : TemplateKey.Apart keys)
  (declared : ∀ key, key.Declared host.fetching → keys key)
  (unread : ∀ key, host.fetching.Reads key → inlineTerms.reads key)
  (resolved : (Cache.empty.resolve host.fetching ⟨path, name⟩ world).1.1 = .ok fragment)

/-- A context in the scope of an include, and a context outside of it. -/
structure Entered (renderer : Renderer) (path name : String) (left right : Context) : Prop where
  within : Within path left right
  address : TemplateKey.ofContext? left renderer.config.codeBasePath = some ⟨path, name⟩

/-- The name of a template is not read, so that one context may name another one. -/
theorem Within.setTemplate {left right : Context} (within : Within path left right) :
    Within path (left.setTemplate path name) right := by
  have others (key : String) (other : key ≠ Context.templateKey) :
      (left.setTemplate path name).get? key = left.get? key := by
    rw [Context.setTemplate, OrderedMap.get?_insert, if_neg other]
  refine ⟨⟨fun key read => ?_, ?_⟩, left.templatePath?_setTemplate path name⟩
  · rw [others key read.1]
    exact within.alike.data key read
  · constructor
    · rw [left.templatePath?_setTemplate, ← within.alike.file.path, within.path]
    · rw [Context.blockName?, others _ (by decide)]
      exact within.alike.file.block
    · rw [Context.codeBasePath?, others _ (by decide)]
      exact within.alike.file.base

include nonempty in

/-- Behind its address, the inlined render is in the file of the element. -/
theorem Within.entered {left right : Context} (within : Within path left right) :
    Entered renderer path name (left.setTemplate path name) right where
  within := within.setTemplate
  address := by
    have named : (left.setTemplate path name).templateName? = some name := by
      rw [Context.templateName?, Context.templateField?, Context.setTemplate,
        OrderedMap.get?_insert, if_pos rfl]
      rfl
    rw [TemplateKey.ofContext?, left.templatePath?_setTemplate, named, Option.filter_some,
      if_pos (by simpa using nonempty)]
    rfl

include steady apart declared resolved in
/-- In the scope of an include the fragment is found. -/
theorem inStep_resolveTemplate_fresh :
    (filled host.fetching keys).InStep (Entered renderer path name) inlineTerms.Alike
      (fun template _ => template = fragment) (renderer.resolveTemplate host) (pure ()) := by
  have closed := closed_remembers host
  have asked : (filled host.fetching keys).Calm (Entered renderer path name)
      (Entered renderer path name) (fun key? _ => key? = some ⟨path, name⟩)
      (ask fun context => TemplateKey.ofContext? context renderer.config.codeBasePath) (pure ()) :=
    fun left right holds =>
      ⟨_, left, _, right, rfl, rfl, holds.context.address, holds⟩
  apply asked.inStep.before
  · rintro (_ | key)
    · exact closed.throw _
    · exact closed.bind (closed.changeContext _) fun _ => closed.lookUp key
  rintro _ rfl
  have changed : (filled host.fetching keys).Calm (Entered renderer path name)
      inlineTerms.Alike (fun _ _ => True) (changeContext (·.setTemplate path name)) (pure ()) := by
    intro left right holds
    exact ⟨(), _, (), right, rfl, rfl, trivial, holds.context.within.setTemplate.alike,
      holds.store⟩
  apply changed.inStep.before
  · exact fun _ => closed.lookUp _
  · intro _ _
    exact inStep_lookUp_fresh steady apart declared resolved

/-- Two lists of nodes that are the same once they are unwrapped. -/
def SameFlat (first second : List Node) : Prop := flattenAll first = flattenAll second

include bare nonempty steady apart declared unread resolved in
/-- The include and the content in place are rendered in step, one include apart. -/
theorem inStep_include (room : Nat) {starts : Context → Context → Prop} {kept : Context → Prop}
    (within : ∀ left right, starts left right → Within path left right)
    (before : ∀ left right, starts left right → kept left) :
    (filled host.fetching keys).InStep starts (fun left _ => kept left) SameFlat
      (inScope (·.setTemplate path name) (renderer.includesWithin host room))
      (renderNodes host (renderer.includesWithin host room) fragment.content) := by
  have admitted : ∀ template, Cache.Offered host.fetching template →
      inlineTerms.anyForms.Admits template.content := fun template offered =>
    ⟨fun key read => unread key ⟨template, offered, read⟩, fun _ _ => trivial⟩
  have lookUps := inStep_lookUp_filled steady apart declared admitted
  have offered : Cache.Offered host.fetching fragment := by
    have found := (Cache.sound_empty host.fetching).resolve ⟨path, name⟩ world
    exact (found.1 _ fragment (found.2 fragment resolved)).2
  have included : (filled host.fetching keys).InStep (Entered renderer path name)
      inlineTerms.Alike SameFlat (renderer.includesWithin host room)
      (renderNodes host (renderer.includesWithin host room) fragment.content) := by
    cases room with
    -- Running out of room is excused, since the content in place needs one include less.
    | zero => exact inStep_excused trivial _
    | succ room =>
        have deeper : (filled host.fetching keys).InStep inlineTerms.Addressed inlineTerms.Alike
            (Same inlineTerms.anyForms.AllDone) (renderer.includesWithin host room)
            (renderer.includesWithin host (room + 1)) :=
          inStep_includesWithin renderer lookUps (fun _ _ _ _ => trivial)
            (.inr ⟨Nat.le_succ room, trivial⟩)
        have walked : (filled host.fetching keys).InStep inlineTerms.Alike inlineTerms.Alike
            (Same inlineTerms.anyForms.AllDone)
            (renderNodes host (renderer.includesWithin host room) fragment.content)
            (renderNodes host (renderer.includesWithin host (room + 1)) fragment.content) :=
          inStep_renderNodes (remembers_includesWithin renderer host room) deeper _
            (admitted fragment offered)
        have finished : (filled host.fetching keys).InStep inlineTerms.Alike inlineTerms.Alike
            SameFlat (renderer.renderWithin host room fragment)
            (renderNodes host (renderer.includesWithin host (room + 1)) fragment.content >>=
              pure) := by
          rw [Renderer.renderWithin_eq]
          apply walked.map
          rintro raw _ ⟨rfl, -⟩
          rw [SameFlat, bare, flattenAll_flattenAll]
        rw [bind_pure] at finished
        apply (inStep_resolveTemplate_fresh steady apart declared resolved).before
        · exact (closed_remembers host).renderWithin renderer room
        · rintro _ rfl
          exact finished
  apply included.inScope_first _ before
  exact fun left right started => (within left right started).entered nonempty

include bare nonempty steady apart declared unread resolved in
/-- Only one of the elements looks at its marker behind the include. -/
theorem inStep_element (room : Nat) {tag : Tag} {context other : Context}
    (alike : inlineTerms.Alike context other) (known : inlineTerms.Knows tag Directive.unwrap) :
    (filled host.fetching keys).InStep (fun left right => Within path left right ∧ left = context)
      (fun _ _ => True) (fun node other => SameFlat [node] [other])
      (do
        let nodes ← inScope (·.setTemplate path name) (renderer.includesWithin host room)
        let last ← unwrapStage host tag
        return Node.element last nodes)
      (do
        let children ← renderNodes host (renderer.includesWithin host room) fragment.content
        return Node.element (context.marked tag) children) := by
  have closed := closed_remembers host
  have included : (filled host.fetching keys).InStep
      (fun left right => Within path left right ∧ left = context) (fun left _ => left = context)
      SameFlat (inScope (·.setTemplate path name) (renderer.includesWithin host room))
      (renderNodes host (renderer.includesWithin host room) fragment.content) :=
    inStep_include bare nonempty steady apart declared unread resolved room
      (fun _ _ started => started.1) fun _ _ started => started.2
  -- The include gave its context back, so that the marker is read in the first one.
  have marked : (filled host.fetching keys).Calm (fun left _ => left = context) (fun _ _ => True)
      (fun last _ => last = context.marked tag) (unwrapStage host tag) (pure ()) := by
    intro left right holds
    have here : inlineTerms.Alike left.context other := holds.context ▸ alike
    exact ⟨_, left, _, right, unwrapStage_run here known, rfl, by rw [holds.context], trivial,
      holds.store⟩
  apply included.bind
  · exact fun nodes => closed.bind (closed.unwrapStage tag) fun last => closed.pure _
  · intro nodes children same
    apply marked.inStep.before
    · exact fun last => closed.pure _
    · rintro _ rfl
      apply Calm.inStep
      exact calm_pure (flattenAll_element _ same)

include bare nonempty steady apart declared unread resolved in
/-- Behind its last repeat, an element is in step with its inlined form. -/
theorem inStep_renderContent_included (room : Nat)
    (literal : hasPlaceholders (Piece.scan name.toList) = false)
    (inFile : Text.startsWith "/" name = false) {left right : Tag}
    (paired : Includes name left right) (body : Render World (List Node)) :
    (filled host.fetching keys).InStep (Within path) (fun _ _ => True)
      (fun node other => SameFlat [node] [other])
      (renderContent host (renderer.includesWithin host room) body left.withoutGuard)
      (renderContent host (renderer.includesWithin host room)
        (renderNodes host (renderer.includesWithin host room) fragment.content)
        right.withoutGuard) := by
  intro scene other holds asked
  obtain ⟨alike, inPath⟩ := holds.context
  have known : ∀ key ∈ left.withoutGuard.readKeys, inlineTerms.reads key := fun key read =>
    paired.known key (left.readKeys_withoutGuard_subset read)
  have removed : right.withoutGuard = left.withoutGuard.remove Directive.included := by
    rw [paired.removed, left.withoutGuard_remove isUnqualified_included]
  have target := (left.get?_withoutGuard isUnqualified_included).trans paired.target
  have contentless := (left.get?_withoutGuard isUnqualified_content).trans paired.contentless
  rw [removed]
  generalize left.withoutGuard = tag at *
  have kept := alike.written known
  rw [← kept.get?_eq (by simp)] at target contentless
  have unwrap : inlineTerms.Knows (((scene.context.written tag).remove Directive.content).remove
      Directive.included) Directive.unwrap := by
    rw [Terms.Knows, Tag.get?_remove, if_neg (by decide), Tag.get?_remove, if_neg (by decide),
      kept.get?_eq (by simp)]
    exact Terms.knows_of_readKeys known (by simp)
  have ran : attributeStage host tag scene = .ok (scene.context.written tag) scene :=
    attributeStage_run alike known
  have ranSecond : attributeStage host (tag.remove Directive.included) other =
      .ok ((scene.context.written tag).remove Directive.included) other := by
    have fewer : ∀ key ∈ (tag.remove Directive.included).readKeys, inlineTerms.reads key :=
      fun key read => known key (tag.readKeys_remove_subset _ read)
    rw [← alike.written_remove known, alike.written_eq fewer]
    exact attributeStage_run alike.symm fewer
  have address : includeKey scene.context name = ⟨path, name⟩ := by
    rw [includeKey, inFile, inPath]
    rfl
  -- Both renders are brought to the actions that `inStep_element` compares.
  have run : renderContent host (renderer.includesWithin host room) body tag scene = _ :=
    renderContent_run_included ran contentless target literal address
  have runSecond : renderContent host (renderer.includesWithin host room)
      (renderNodes host (renderer.includesWithin host room) fragment.content)
      (tag.remove Directive.included) other = _ :=
    renderContent_run_children ranSecond
      (by rw [Tag.get?_remove, if_neg (by decide), contentless])
      (by rw [Tag.get?_remove, if_pos rfl])
  rw [Tag.remove_comm _ Directive.included Directive.content, Tag.remove_remove,
    bind_of_ok (unwrapStage_run alike.symm unwrap), ← alike.marked_eq unwrap] at runSecond
  have step := inStep_element bare nonempty steady apart declared unread resolved room alike unwrap
  rw [leaves, run] at asked
  rw [run, runSecond]
  exact step scene other ⟨⟨⟨alike, inPath⟩, rfl⟩, holds.store⟩ asked

/-- The outcome of one node over a fresh cache, with room for some includes. -/
def outcomeOf (renderer : Renderer) (host : Host World) (room : Nat) (node : Node)
    (context : Context) (world : World) : Except TemplateError (List Node) :=
  outcome (renderNode host (renderer.includesWithin host room) node)
    { context, cache := .empty, world }

/-- An element includes a fragment of its own file, and reads nothing that shows it. -/
structure Inlinable (host : Host World) (renderer : Renderer) (room : Nat) (path name : String)
    (tag : Tag) (children : List Node) (fragment : Template) (context : Context) (world : World) :
    Prop where
  unwrapped : renderer.config.wrapTextNodes = false
  plain : renderer.processors = []
  steady : ∀ path, Steady (host.fetching path)
  apart : TemplateKey.Apart fun key => key.Declared host.fetching ∨
    key ∈ (leaves (renderNode host (renderer.includesWithin host room) (.element tag children))
      { context, cache := .empty, world }).requested
  resolved : (Cache.empty.resolve host.fetching ⟨path, name⟩ world).1.1 = .ok fragment
  literal : hasPlaceholders (Piece.scan name.toList) = false
  inFile : Text.startsWith "/" name = false
  target : tag.get? Directive.included = some name
  contentless : tag.get? Directive.content = none
  inPath : context.templatePath? = some path
  data : ∀ key value, context.get? key = some value → value.Data Directive.IsForeign True
  unread : ∀ key, key ∈ tag.readKeys ∨ host.fetching.Reads key →
    key ≠ Context.templateKey ∧ key ≠ Context.currentNodeKey
  unaddressed : tag.KeepsAddress

/-- Such a renderer only unwraps behind the walk. -/
theorem finish_eq_flattenAll {renderer : Renderer}
    (unwrapped : renderer.config.wrapTextNodes = false) (plain : renderer.processors = []) :
    renderer.finish = flattenAll := by
  funext nodes
  simp only [finish, unwrapped, plain, Bool.false_eq_true, if_false, List.foldl_nil]

/-- The element with the include is rendered in step with the element without it. -/
theorem Inlinable.inStep {host : Host World} {renderer : Renderer} {room : Nat}
    {path name : String} {tag : Tag} {children : List Node} {fragment : Template}
    {context : Context} {world : World}
    (inlinable : Inlinable host renderer room path name tag children fragment context world)
    (nonempty : path ≠ "") {keys : TemplateKey → Prop} (apart : TemplateKey.Apart keys)
    (declared : ∀ key, key.Declared host.fetching → keys key) :
    (filled host.fetching keys).InStep (Within path) (fun _ _ => True) SameFlat
      (renderNode host (renderer.includesWithin host room) (.element tag children))
      (renderNode host (renderer.includesWithin host room)
        (.element (tag.remove Directive.included) fragment.content)) := by
  have bare := finish_eq_flattenAll inlinable.unwrapped inlinable.plain
  have unread : ∀ key, host.fetching.Reads key → inlineTerms.reads key := fun key read =>
    inlinable.unread key (.inr read)
  have paired : Includes name tag (tag.remove Directive.included) :=
    ⟨rfl, inlinable.target, inlinable.contentless,
      fun key read => inlinable.unread key (.inl read), inlinable.unaddressed⟩
  have remembers := remembers_includesWithin renderer host room
  have empty : SameFlat [] [] := rfl
  rw [renderNode, renderNode]
  apply inStep_renderElement empty _ (twins_includes path name) remembers
    ((closed_remembers host).renderNodes remembers children) (fun _ _ _ => trivial) _ _ _ paired
  · intro first second third fourth same others
    rw [SameFlat, flattenAll_append, flattenAll_append, same, others]
  · intro left right paired _
    exact inStep_renderContent_included bare nonempty inlinable.steady apart declared unread
      inlinable.resolved room inlinable.literal inlinable.inFile paired _

/-- Rendering the content of a fragment in place of its include gives the same nodes, unwrapped. -/
theorem outcomeOf_inlined {host : Host World} {renderer : Renderer} {room : Nat}
    {path name : String} {tag : Tag} {children : List Node} {fragment : Template}
    {context : Context} {world : World}
    (inlinable : Inlinable host renderer room path name tag children fragment context world)
    (nonempty : path ≠ "") {nodes : List Node}
    (rendered : renderer.outcomeOf host room (.element tag children) context world = .ok nodes)
    (fresh : World) :
    ∃ inlined, renderer.outcomeOf host room
        (.element (tag.remove Directive.included) fragment.content) context fresh = .ok inlined ∧
      flattenAll inlined = flattenAll nodes := by
  have within : Within path context context :=
    ⟨⟨fun key read => ⟨rfl, inlinable.data key⟩, .of_get?_eq fun key among => rfl⟩,
      inlinable.inPath⟩
  have empty := Cache.consistent_empty host.fetching
  have step := inlinable.inStep nonempty inlinable.apart fun key declared => .inl declared
  have matched := step { context, cache := .empty, world }
    { context, cache := .empty, world := fresh } ⟨within, empty, empty⟩ fun key asked => .inr asked
  obtain ⟨inlined, succeeded, same⟩ := matched.exists_of_ok rendered
  exact ⟨inlined, succeeded, same.symm⟩

/-- A renderer that does nothing but unwrap behind a walk. -/
def bareRenderer : Renderer := { config := { wrapTextNodes := false } }

/-- Two files with fragments of one name; the second is the file of a block. -/
def fragmentFiles : List (String × String) :=
  [("", "<template data-fly-name='f'>one</template>"),
    ("/blocks/b/b.html", "<template data-fly-name='f'>two</template>")]

/-- The keys of the fragment in the file and in the block. -/
def fragmentKeys : List TemplateKey := [⟨"", "f"⟩, ⟨"/blocks/b/b.html", "f"⟩]

/-- The block, in a template of the given file. -/
def fragmentContext (path : String) : Context :=
  ((∅ : Context).setTemplate path "").insert Context.blockNameKey (.string "b")

/-- A paragraph that includes the fragment. -/
def includingTag : Tag := ⟨"p", ⟨[(Directive.included, "f")]⟩⟩

theorem mem_fragmentKeys_of_declared {key : TemplateKey}
    (declared : key.Declared (Host.holding fragmentFiles).fetching) : key ∈ fragmentKeys := by
  obtain ⟨template, offered, rfl⟩ := declared
  have listed : ∀ template ∈ Host.templatesOf fragmentFiles, template.key ∈ fragmentKeys := by
    decide +kernel
  exact listed template (Host.mem_templatesOf_of_offered offered)

/-- The include of the fragment can be inlined. -/
theorem inlinable_fragmentFiles {path : String} {fragment : Template}
    (requested : (leaves (renderNode (.holding fragmentFiles)
      (bareRenderer.includesWithin (.holding fragmentFiles) 1) (.element includingTag []))
        { context := fragmentContext path, cache := .empty, world := () }).requested ⊆ fragmentKeys)
    (resolved : (Cache.empty.resolve (Host.holding fragmentFiles).fetching ⟨path, "f"⟩ ()).1.1 =
      .ok fragment) :
    Inlinable (.holding fragmentFiles) bareRenderer 1 path "f" includingTag [] fragment
      (fragmentContext path) () where
  unwrapped := rfl
  plain := rfl
  steady _ _ _ := rfl
  apart first second firstKnown secondKnown same := by
    have firstIn : first ∈ fragmentKeys :=
      firstKnown.elim mem_fragmentKeys_of_declared (requested ·)
    have secondIn : second ∈ fragmentKeys :=
      secondKnown.elim mem_fragmentKeys_of_declared (requested ·)
    have apart : ∀ first ∈ fragmentKeys, ∀ second ∈ fragmentKeys, first.id = second.id →
        first.path = second.path := by decide +kernel
    exact apart first firstIn second secondIn same
  resolved := resolved
  literal := by decide +kernel
  inFile := by decide
  target := rfl
  contentless := rfl
  inPath := by
    rw [fragmentContext, Context.templatePath?_insert _ (by decide),
      Context.templatePath?_setTemplate]
  data key value held := by
    rw [fragmentContext, OrderedMap.get?_insert] at held
    split at held
    · cases held
      exact .string "b"
    · rw [Context.setTemplate, OrderedMap.get?_insert] at held
      split at held
      · cases held
        exact Context.data_templateValue inlineTerms.dashless _ _
      · cases held
  unread key read := by
    have none : includingTag.readKeys = [] ∧ ((Host.templatesOf fragmentFiles).flatMap
        fun template => Node.readKeysOf template.content) = [] := by decide +kernel
    rcases read with own | inside
    · rw [none.1] at own
      cases own
    · have member := Host.mem_readKeys_of_reads inside
      rw [none.2] at member
      cases member
  unaddressed := Tag.keepsAddress_of_isUnqualified fun _ held =>
    List.mem_singleton.mp held ▸ isUnqualified_included

/-- In the file of the block, the element with the include gives what the inlined one gives. -/
theorem outcomeOf_inlined_block :
    ∃ inlined, bareRenderer.outcomeOf (.holding fragmentFiles) 1
        (.element (includingTag.remove Directive.included) [.text "two"])
        (fragmentContext "/blocks/b/b.html") () = .ok inlined ∧
      flattenAll inlined = flattenAll [.element ⟨"p", ∅⟩ [.text "two"]] := by
  have resolved : (Cache.empty.resolve (Host.holding fragmentFiles).fetching
      ⟨"/blocks/b/b.html", "f"⟩ ()).1.1 = .ok ⟨"faintly-template--blocks-b-b-html-f",
        "/blocks/b/b.html", "f", [.text "two"]⟩ := by decide +kernel
  have inlinable := inlinable_fragmentFiles (by decide +kernel) resolved
  have rendered : bareRenderer.outcomeOf (.holding fragmentFiles) 1 (.element includingTag [])
      (fragmentContext "/blocks/b/b.html") () = .ok [.element ⟨"p", ∅⟩ [.text "two"]] := by
    decide +kernel
  exact outcomeOf_inlined inlinable (by decide) rendered ()

/-- In a file with an empty path, the include goes to the file of the block instead. -/
theorem outcomeOf_emptyPath :
    ¬ ∀ path fragment nodes,
      Inlinable (.holding fragmentFiles) bareRenderer 1 path "f" includingTag [] fragment
        (fragmentContext path) () →
      bareRenderer.outcomeOf (.holding fragmentFiles) 1 (.element includingTag [])
        (fragmentContext path) () = .ok nodes →
      ∃ inlined, bareRenderer.outcomeOf (.holding fragmentFiles) 1
          (.element (includingTag.remove Directive.included) fragment.content)
          (fragmentContext path) () = .ok inlined ∧
        flattenAll inlined = flattenAll nodes := by
  intro inlines
  have resolved : (Cache.empty.resolve (Host.holding fragmentFiles).fetching ⟨"", "f"⟩ ()).1.1 =
      .ok ⟨"faintly-template--f", "", "f", [.text "one"]⟩ := by decide +kernel
  have inlinable := inlinable_fragmentFiles (by decide +kernel) resolved
  have rendered : bareRenderer.outcomeOf (.holding fragmentFiles) 1 (.element includingTag [])
      (fragmentContext "") () = .ok [.element ⟨"p", ∅⟩ [.text "two"]] := by decide +kernel
  have inPlace : bareRenderer.outcomeOf (.holding fragmentFiles) 1
      (.element (includingTag.remove Directive.included) [.text "one"]) (fragmentContext "") () =
        .ok [.element ⟨"p", ∅⟩ [.text "one"]] := by decide +kernel
  obtain ⟨inlined, succeeded, same⟩ := inlines "" _ _ inlinable rendered
  rw [inPlace] at succeeded
  cases succeeded
  exact absurd same (by decide)

end Renderer

end Stencil
