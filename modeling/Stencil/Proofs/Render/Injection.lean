import Stencil.Proofs.Markup.Skeleton
import Stencil.Proofs.Render.Contract
import Stencil.Proofs.Render.DataOnly

/-! Data writes no markup. -/

namespace Stencil

variable {World : Type}

/-! Templates are harmless where their tags are ordinary. -/

namespace Template

open Markup

mutual
/-- The outermost templates of a canonical node are canonical. -/
theorem canonical_of_mem_outermost {source : List Char} : (node : Node) → Canonical source node →
    ∀ element ∈ outermost node, ∀ child ∈ element.children, Canonical source child
  | .element tag children, .element _ _ _ _ inside => by
      rw [outermost]
      split
      · rw [List.forall_mem_singleton]
        exact inside
      · exact canonical_of_mem_outermostOf children inside
  | .text _, _ => by simp [outermost]
  | .comment _, _ => by simp [outermost]

/-- The outermost templates of canonical nodes are canonical. -/
theorem canonical_of_mem_outermostOf {source : List Char} : (nodes : List Node) →
    (∀ node ∈ nodes, Canonical source node) →
      ∀ element ∈ outermostOf nodes, ∀ child ∈ element.children, Canonical source child
  | [], _ => by simp [outermostOf]
  | node :: rest, canonical => by
      obtain ⟨here, behind⟩ := List.forall_mem_cons.mp canonical
      rw [outermostOf, List.forall_mem_append]
      exact ⟨canonical_of_mem_outermost node here, canonical_of_mem_outermostOf rest behind⟩
end

/-- The content of a template is in the form that its file is read in. -/
theorem InFile.canonical {path markup : String} {template : Template}
    (inFile : InFile path markup template) :
    ∀ node ∈ template.content, Canonical markup.toList node := by
  obtain ⟨templates, parsed, member⟩ := inFile
  unfold parseFile at parsed
  split at parsed
  · cases parsed
  · rename_i nodes read
    cases parsed
    obtain ⟨element, among, rfl⟩ := List.mem_map.mp (mem_of_mem_keepFirst member)
    exact canonical_of_mem_outermostOf nodes (canonicalAll_of_parse read).each element among

end Template

/-! Harmless nodes stay harmless. -/

namespace Markup.PlainTag

variable {tag : Tag}

/-- Some of the attributes stay, on an element with another plain name. -/
theorem filter (plain : PlainTag tag) {name : String} (named : isPlainName name = true)
    (kept : String × String → Bool) :
    PlainTag ⟨name, ⟨tag.attributes.entries.filter kept⟩⟩ where
  name := named
  keys key member := plain.keys key ((List.filter_sublist.map Prod.fst).subset member)
  distinct := (List.filter_sublist.map Prod.fst).nodup plain.distinct

theorem remove (plain : PlainTag tag) (name : String) : PlainTag (tag.remove name) :=
  plain.filter plain.name _

theorem withoutGuard (plain : PlainTag tag) : PlainTag tag.withoutGuard := by
  unfold Tag.withoutGuard
  split
  · exact plain.remove _
  · exact plain

end Markup.PlainTag

theorem Tag.isRawText_withoutGuard (tag : Tag) : tag.withoutGuard.isRawText = tag.isRawText := by
  rw [isRawText, name_withoutGuard, isRawText]

namespace Node

/-- The tag of a harmless element is plain, and no raw text. -/
theorem Harmless.tag {tag : Tag} {children : List Node}
    (harmless : Harmless (.element tag children)) :
    Markup.PlainTag tag ∧ tag.isRawText = false := by
  cases harmless with
  | element plain parsed each => exact ⟨plain, parsed⟩

theorem Harmless.children {tag : Tag} {children : List Node}
    (harmless : Harmless (.element tag children)) : ∀ child ∈ children, child.Harmless := by
  cases harmless with
  | element plain parsed each => exact each

mutual
/-- Unwrapping a harmless node gives harmless nodes. -/
theorem harmless_flatten : (node : Node) → node.Harmless → ∀ inner ∈ flatten node, inner.Harmless
  | .element tag children, .element plain parsed each => by
      have inside := harmless_flattenAll children each
      rw [flatten]
      split
      · exact inside
      · exact List.forall_mem_singleton.mpr (.element plain parsed inside)
  | .text content, harmless => List.forall_mem_singleton.mpr harmless
  | .comment content, harmless => List.forall_mem_singleton.mpr harmless

/-- Unwrapping harmless nodes gives harmless nodes. -/
theorem harmless_flattenAll : (nodes : List Node) → (∀ node ∈ nodes, node.Harmless) →
    ∀ node ∈ flattenAll nodes, node.Harmless
  | [], _ => by simp [flattenAll]
  | node :: rest, harmless => by
      obtain ⟨here, behind⟩ := List.forall_mem_cons.mp harmless
      rw [flattenAll, List.forall_mem_append]
      exact ⟨harmless_flatten node here, harmless_flattenAll rest behind⟩
end

/-- A wrapper is a paragraph with some attributes of its cell. -/
theorem Harmless.process {node : Node} (harmless : node.Harmless) :
    (Cell.process node).Harmless := by
  cases harmless with
  | element plain parsed each =>
      rw [Cell.process]
      split
      · refine .element (plain.filter plain.name _) parsed (List.forall_mem_singleton.mpr ?_)
        have parsedParagraph : rawTextNames.contains "p" = false := by decide
        exact .element (plain.filter (by decide) _) parsedParagraph each
      · exact .element plain parsed each
  | text content => exact .text content
  | comment unended => exact .comment unended

/-- Wrapping cells keeps a row harmless. -/
theorem Harmless.wrapRow {node : Node} (harmless : node.Harmless) : (wrapRow node).Harmless := by
  cases harmless with
  | element plain parsed each =>
      rw [Stencil.wrapRow]
      split
      · exact .element plain parsed
          (List.forall_mem_map.mpr fun child member => (each child member).process)
      · exact .element plain parsed each
  | text content => exact .text content
  | comment unended => exact .comment unended

end Node

namespace Renderer

/-- What is done behind the walk keeps nodes harmless. -/
theorem harmless_finish {renderer : Renderer} (plain : renderer.processors = [])
    {nodes : List Node} (harmless : ∀ node ∈ nodes, node.Harmless) :
    ∀ node ∈ renderer.finish nodes, node.Harmless := by
  have flat := Node.harmless_flattenAll nodes harmless
  rw [finish, plain, List.foldl_nil]
  split
  · exact List.forall_mem_map.mpr fun row member => (flat row member).wrapRow
  · exact flat

end Renderer

/-! Contexts in which only the visited node is a node. -/

/-- Data whose maps have plain names as keys, in small letters. -/
def plainMaterial : Material := Value.Data.material (Markup.isPlainName ·.toLower) False

/-- What the visited node may bring: harmless nodes, and maps with any keys. -/
def harmlessMaterial : Material where
  keys _ := True
  nodes := Node.Harmless
  resolvers := False

theorem closed_plainMaterial : plainMaterial.Closed where
  child impossible := impossible.elim
  data impossible := impossible.elim

theorem closed_harmlessMaterial : harmlessMaterial.Closed where
  child := Node.Harmless.children
  data _ _ _ := trivial

/-- Plain data is harmless. -/
theorem Value.Made.harmless {value : Value} (made : value.Made plainMaterial) :
    value.Made harmlessMaterial := by
  induction made with
  | null => exact .null
  | bool value => exact .bool value
  | number value => exact .number value
  | string content => exact .string content
  | list _ inductionHypothesis => exact .list inductionHypothesis
  | map _ _ inductionHypothesis => exact .map (fun _ _ => trivial) inductionHypothesis
  | node impossible => exact impossible.elim
  | nodes impossible => exact impossible.choose_spec.elim
  | resolver impossible => exact impossible.elim

/-- What is inserted as content of harmless material is harmless. -/
theorem harmless_contentNodes {value? : Option Value}
    (made : ∀ value, value? = some value → value.Made harmlessMaterial) :
    ∀ node ∈ Render.contentNodes value?, node.Harmless := by
  have single {value : Value} (whole : value.Made harmlessMaterial) :
      ∀ node ∈ Render.nodesOf value, node.Harmless := by
    cases whole with
    | node allowed => exact List.forall_mem_singleton.mpr allowed
    | nodes withNodes allowed => exact allowed
    | null | bool | number | string | list | map | resolver =>
        exact List.forall_mem_singleton.mpr (.text _)
  cases value? with
  | none => simp [Render.contentNodes]
  | some value =>
      cases made value rfl with
      | list each =>
          intro node member
          obtain ⟨item, among, here⟩ := List.mem_flatMap.mp member
          exact single (each item among) node here
      | null => exact single .null
      | bool value => exact single (.bool value)
      | number value => exact single (.number value)
      | string content => exact single (.string content)
      | map named each => exact single (.map named each)
      | node allowed => exact single (.node allowed)
      | nodes withNodes allowed => exact single (.nodes withNodes allowed)
      | resolver allowed handle => exact single (.resolver allowed handle)

/-- The visited node of a context is harmless, and all other entries are data. -/
structure Context.Tame (context : Context) : Prop where
  data : ∀ key value, context.get? key = some value → key ≠ currentNodeKey →
    value.Made plainMaterial
  all : ∀ key value, context.get? key = some value → value.Made harmlessMaterial

namespace Context.Tame

variable {context : Context}

theorem insert (tame : Tame context) (key : String) {value : Value}
    (made : value.Made plainMaterial) : Tame (context.insert key value) where
  data := OrderedMap.forall_get?_insert tame.data fun _ => made
  all := OrderedMap.forall_get?_insert tame.all made.harmless

theorem setCurrentNode (tame : Tame context) {node : Node} (harmless : node.Harmless) :
    Tame (context.setCurrentNode node) where
  data := OrderedMap.forall_get?_insert tame.data fun other => absurd rfl other
  all := OrderedMap.forall_get?_insert tame.all (.node harmless)

theorem setTemplate (tame : Tame context) (path name : String) :
    Tame (context.setTemplate path name) := by
  have pathKey : Markup.isPlainName "path".toLower = true := by decide +kernel
  have nameKey : Markup.isPlainName "name".toLower = true := by decide +kernel
  exact tame.insert _ (made_templateValue pathKey nameKey path name)

theorem bindItem (tame : Tame context) (name : String) (position : Nat) {entry : String × Value}
    (made : entry.2.Made plainMaterial) : Tame (Render.bindItem name position entry context) :=
  (((tame.insert _ made).insert _ (.number _)).insert _ (.number _)).insert _ (.string _)

variable {answering : Answering World} {expression : String} {world : World} {found : Value}

/-- An expression that does not start from the visited node gives data. -/
theorem data_evaluate (tame : Tame context)
    (unread : currentNodeKey ∉ Path.readKeys expression)
    (held : (answering.evaluate context expression world).1 = some found) :
    found.Made plainMaterial := by
  refine made_evaluate closed_plainMaterial (fun impossible => impossible.elim) ?_ held
  intro key read value entry
  exact tame.data key value entry fun same => unread (same ▸ read)

/-- What is found in a tame context is harmless. -/
theorem all_evaluate (tame : Tame context)
    (held : (answering.evaluate context expression world).1 = some found) :
    found.Made harmlessMaterial :=
  made_evaluate closed_harmlessMaterial (fun impossible => impossible.elim)
    (fun key _ => tame.all key) held

end Context.Tame

namespace Renderer

open Render Markup

/-- Plain templates on data render harmless nodes, whatever directives the data lays. -/
def inert (renderer : Renderer) (host : Host World) (plain : renderer.processors = [])
    (fits : ∀ template, Cache.Offered host.fetching template →
      ∀ node ∈ template.content, node.Harmless ∧ Context.currentNodeKey ∉ node.readKeys) :
    Contract renderer host where
  context := Context.Tame
  addressed := Context.Tame
  cache := Cache.Sound host.fetching
  fit node := node.Harmless ∧ Context.currentNodeKey ∉ node.readKeys
  drawn tag := PlainTag tag ∧ tag.isRawText = false
  done := Node.Harmless
  below := by
    intro tag children fit child member
    refine ⟨fit.1.children child member, fun read => fit.2 (List.mem_append_right _ ?_)⟩
    exact Node.mem_readKeysOf.mpr ⟨child, member, read⟩
  copied := by
    intro tag children directive fit search
    obtain ⟨plainTag, parsed⟩ := fit.1.tag
    refine ⟨.element (plainTag.withoutGuard.remove _) ?_ fit.1.children, fun read => fit.2 ?_⟩
    · exact tag.isRawText_withoutGuard.trans parsed
    · rcases List.mem_append.mp read with here | inside
      · exact List.mem_append_left _
          (tag.readKeys_withoutGuard_subset (tag.withoutGuard.readKeys_remove_subset _ here))
      · exact List.mem_append_right _ inside
  visitedText fit tame := tame.setCurrentNode (.text _)
  visited fit tame := tame.setCurrentNode (.element fit.1.tag.1 fit.1.tag.2 nofun)
  tested passed _ _ _ tame := tame.insert _ (.bool passed)
  bound := by
    intro tag children directive scope world value collection position entry fit search tame
      evaluated collected listed
    have unread : Context.currentNodeKey ∉ Path.readKeys directive.expression := fun read =>
      fit.2 (List.mem_append_left _ (Tag.readKeys_repeat_subset search read))
    have made := tame.data_evaluate unread evaluated
    exact tame.bindItem _ _ (made.collection? collected entry (List.mem_of_getElem? listed))
  attributes := by
    intro tag children entries value? scope fit unrepeated tame names laid
    obtain ⟨plainTag, parsed⟩ := fit.1.tag
    have shown := plainTag.withoutGuard.remove Directive.attributes
    refine ⟨⟨shown.name, ?_, ?_⟩, tag.isRawText_withoutGuard.trans parsed⟩
    · intro key member
      rcases mem_keys_overlay member with written | ⟨map, rfl, entry, among, rfl⟩
      · exact shown.keys key (names ▸ written)
      · -- The expression is the template's own, so that it does not reach the visited node.
        obtain ⟨expression, world, held, evaluated⟩ := laid _ rfl
        have read := List.Subset.trans (Tag.readKeys_subset_of_get? held
          (Directive.takesExpression_of_mem (by simp))) tag.readKeys_withoutGuard_subset
        have unread : Context.currentNodeKey ∉ Path.readKeys expression := fun here =>
          fit.2 (List.mem_append_left _ (read here))
        cases tame.data_evaluate unread evaluated with
        | map named each => exact named entry among
    · apply nodup_keys_overlay
      show (entries.map Prod.fst).Nodup
      rw [names]
      exact shown.distinct
  removed name drawn := ⟨drawn.1.remove name, drawn.2⟩
  -- A map may have set this expression, so that it may be the visited node.
  content world _ _ tame := harmless_contentNodes fun value evaluated => tame.all_evaluate evaluated
  included target _ _ tame := tame.setTemplate _ _
  entered tame _ := tame.setTemplate _ _
  found := by
    intro scope store key world template _ sound answered
    have kept := sound.resolve key world
    exact ⟨kept.1, fits template (kept.1 key.id template (kept.2 template answered)).2⟩
  text := .text
  comment fit := fit.1
  element drawn each := .element drawn.1 drawn.2 each
  finished := harmless_finish plain

/-- Written and read again, what plain templates render of data has its skeleton. -/
theorem skeletons_parse_render (host : Host World) {renderer : Renderer}
    (plain : renderer.processors = []) {cache : Cache}
    (reached : Cache.Reached host.fetching cache) (world : World)
    (ordinary : ∀ template, Cache.Offered host.fetching template →
      ∀ tag ∈ Node.tagsOf template.content, tag.Ordinary)
    (unread : ¬ host.fetching.Reads Context.currentNodeKey) {context : Context}
    (data : ∀ key value, context.get? key = some value →
      value.Data (fun name => isPlainName name.toLower = true) False)
    {nodes : List Node}
    (rendered : Render.outcome (renderer.render host) { context, cache, world } = .ok nodes) :
    ∃ read, parse (htmlOf nodes) = .ok read ∧
      Node.skeletons read = Node.skeletons (Node.emptiedAll nodes) := by
  have fits (template : Template) (offered : Cache.Offered host.fetching template) :
      ∀ node ∈ template.content, node.Harmless ∧ Context.currentNodeKey ∉ node.readKeys := by
    intro node member
    have ⟨_, markup, _, inFile⟩ := offered
    refine ⟨harmless_of_canonical template.content inFile.canonical
      (ordinary template offered) node member, fun read => unread ?_⟩
    exact ⟨template, offered, Node.mem_readKeysOf.mpr ⟨node, member, read⟩⟩
  have tame : context.Tame :=
    ⟨fun key value held _ => Value.data_iff_made.mp (data key value held),
      fun key value held => (Value.data_iff_made.mp (data key value held)).harmless⟩
  have scene : Context.Tame (Scene.context { context, cache, world : Scene World }) := tame
  have meets := (inert renderer host plain fits).meets_render scene reached.sound
  unfold Render.outcome at rendered
  split at rendered
  · rename_i answer after ran
    cases rendered
    rw [ran] at meets
    exact exists_parse_htmlOf meets.2
  · cases rendered

/-- A template that writes data into values, texts and void elements. -/
def hostileFiles : List (String × String) :=
  [("/a.html", "<template><b title='${text}' data-fly-attributes='laid'>${text}</b>" ++
      "<br data-fly-content='text'><i data-fly-include='/b.html'></i></template>"),
    ("/b.html", "<template><u data-fly-unwrap=''>${text}<!-- end --></u></template>")]

/-- Data with a quote, tags, a reference, a comment and a placeholder. -/
def hostileText : String := "\"><script>&lt;-->${text}"

/-- A map that is laid over attributes, and that sets the visited node as a content. -/
def hostileContext : Context :=
  (((∅ : Context).setTemplate "/a.html" "").insert "text" (.string hostileText)).insert "laid"
    (.map ⟨[("Id", .string hostileText), ("Data-Fly-Content", .string "currentNode")]⟩)

/-- What is rendered of the hostile data. -/
def hostileNodes : List Node :=
  [.element ⟨"b", ⟨[("title", hostileText), ("id", hostileText)]⟩⟩
      [.element ⟨"b", ⟨[("title", "${text}"), ("data-fly-attributes", "laid")]⟩⟩ []],
    .element ⟨"br", ∅⟩ [.text hostileText],
    .element ⟨"i", ∅⟩ [.text hostileText, .comment " end "]]

theorem data_hostileContext : ∀ key value, hostileContext.get? key = some value →
    value.Data (fun name => isPlainName name.toLower = true) False := by
  have strings {first second : String} (named : ∀ name ∈ [first, second],
      isPlainName name.toLower = true) (firstText secondText : String) :
      (Value.map ⟨[(first, .string firstText), (second, .string secondText)]⟩).Data
        (fun name => isPlainName name.toLower = true) False := by
    rw [List.forall_mem_cons, List.forall_mem_singleton] at named
    refine .map ?_ ?_
    · exact List.forall_mem_cons.mpr ⟨named.1, List.forall_mem_singleton.mpr named.2⟩
    · exact List.forall_mem_cons.mpr ⟨.string _, List.forall_mem_singleton.mpr (.string _)⟩
  have addressed : ∀ key value, ((∅ : Context).setTemplate "/a.html" "").get? key = some value →
      value.Data (fun name => isPlainName name.toLower = true) False :=
    OrderedMap.forall_get?_insert (fun _ _ absent => by cases absent)
      (strings (by decide +kernel) _ _)
  exact OrderedMap.forall_get?_insert (OrderedMap.forall_get?_insert addressed (.string _))
    (strings (by decide +kernel) _ _)

/-- The texts of the data neither end the values and the comment nor start elements. -/
theorem skeletons_parse_render_hostileNodes :
    Render.outcome (Renderer.render {} (.holding hostileFiles))
        { context := hostileContext, cache := .empty, world := () } = .ok hostileNodes ∧
      ∃ read, parse (htmlOf hostileNodes) = .ok read ∧
        Node.skeletons read = Node.skeletons (Node.emptiedAll hostileNodes) := by
  have rendered : Render.outcome (Renderer.render {} (.holding hostileFiles))
      { context := hostileContext, cache := .empty, world := () } = .ok hostileNodes := by
    decide +kernel
  have known : ∀ template ∈ Host.templatesOf hostileFiles,
      (∀ tag ∈ Node.tagsOf template.content, tag.Ordinary) ∧
        Context.currentNodeKey ∉ Node.readKeysOf template.content := by decide +kernel
  refine ⟨rendered, ?_⟩
  apply skeletons_parse_render (.holding hostileFiles) rfl .empty () _ _ data_hostileContext
    rendered
  · exact fun template offered => (known template (Host.mem_templatesOf_of_offered offered)).1
  · rintro ⟨template, offered, inside⟩
    exact (known template (Host.mem_templatesOf_of_offered offered)).2 inside

end Renderer

end Stencil
