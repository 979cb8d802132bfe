import Mathlib.Data.Finset.Card
import Stencil.Proofs.Render.DataOnly
import Stencil.Proofs.Render.Flattened
import Stencil.Proofs.Render.Scope

/-! Rendered nodes hold no directives. -/

namespace Stencil

variable {World : Type}

/-- The attributes that direct a render. -/
def Directive.isKnown (name : String) : Bool :=
  isFrom qualifiedBases name || [attributes, content, included, unwrap].contains name

namespace Tag

/-- The different attributes of a tag under some base names. -/
def namesFrom (tag : Tag) (bases : List String) : Finset String :=
  (tag.attributes.keys.filter (Directive.isFrom bases)).toFinset

/-- There is no more than one test for each way through the stages. -/
def Balanced (tag : Tag) : Prop :=
  (tag.namesFrom [Directive.test, Directive.not]).card ≤
    (tag.namesFrom [Directive.repeated]).card + 1

instance (tag : Tag) : Decidable tag.Balanced := inferInstanceAs (Decidable (_ ≤ _))

/-- All directives of a tag are known. -/
def AllKnown (tag : Tag) : Prop :=
  ∀ name ∈ tag.attributes.keys, Directive.isDirective name = true → Directive.isKnown name = true

instance (tag : Tag) : Decidable tag.AllKnown := inferInstanceAs (Decidable (∀ _ ∈ _, _))

theorem mem_namesFrom {tag : Tag} {bases : List String} {name : String} :
    name ∈ tag.namesFrom bases ↔
      name ∈ tag.attributes.keys ∧ Directive.isFrom bases name = true := by
  rw [namesFrom, List.mem_toFinset, List.mem_filter]

/-- Removing an attribute removes its name. -/
theorem namesFrom_remove (tag : Tag) (bases : List String) (removed : String) :
    (tag.remove removed).namesFrom bases = (tag.namesFrom bases).erase removed := by
  ext name
  rw [mem_namesFrom, mem_keys_remove, Finset.mem_erase, mem_namesFrom]
  tauto

/-- A directive that is found is among the names from its bases. -/
theorem mem_namesFrom_of_qualified? {tag : Tag} {bases : List String} {found : Qualified}
    (search : tag.qualified? bases = some found) : found.name ∈ tag.namesFrom bases := by
  obtain ⟨among, read, member⟩ := Qualified.find?_spec search
  rw [mem_namesFrom]
  refine ⟨List.mem_map_of_mem member, List.any_eq_true.mpr ⟨found.base, among, ?_⟩⟩
  rw [read, Option.isSome_some]

/-- Without a directive there are no names from its bases. -/
theorem namesFrom_eq_empty {tag : Tag} {bases : List String}
    (search : tag.qualified? bases = none) : tag.namesFrom bases = ∅ := by
  rw [Finset.eq_empty_iff_forall_notMem]
  intro name member
  obtain ⟨held, fromBase⟩ := mem_namesFrom.mp member
  obtain ⟨entry, among, rfl⟩ := List.mem_map.mp held
  obtain ⟨base, based, read⟩ := List.any_eq_true.mp fromBase
  have missing := List.findSome?_eq_none_iff.mp (List.findSome?_eq_none_iff.mp search entry among)
    base based
  rw [Option.map_eq_none_iff] at missing
  rw [missing] at read
  cases read

/-- A test is removed if there is one. -/
theorem card_namesFrom_withoutGuard (tag : Tag) :
    (tag.withoutGuard.namesFrom [Directive.test, Directive.not]).card =
      (tag.namesFrom [Directive.test, Directive.not]).card - 1 := by
  unfold withoutGuard
  cases search : tag.guard? with
  | none => rw [namesFrom_eq_empty search, Finset.card_empty]
  | some guard =>
      rw [namesFrom_remove, Finset.card_erase_of_mem (mem_namesFrom_of_qualified? search)]

/-- A test is no repeat. -/
theorem namesFrom_withoutGuard (tag : Tag) :
    tag.withoutGuard.namesFrom [Directive.repeated] = tag.namesFrom [Directive.repeated] := by
  unfold withoutGuard
  cases search : tag.guard? with
  | none => rfl
  | some guard =>
      have other : guard.name ∉ tag.namesFrom [Directive.repeated] := by
        intro member
        have fromRepeat := (mem_namesFrom.mp member).2
        rw [Directive.isFrom, List.any_cons, List.any_nil, qualifier?_guard_eq_none search,
          Option.isSome_none, Bool.or_false] at fromRepeat
        exact Bool.false_ne_true fromRepeat
      rw [namesFrom_remove, Finset.erase_eq_of_notMem other]

/-- A copy of a repeated element has lost a test, if there was one, and a repeat. -/
theorem Balanced.copy {tag : Tag} {directive : Qualified} (balanced : tag.Balanced)
    (search : tag.withoutGuard.repeat? = some directive) :
    (tag.withoutGuard.remove directive.name).Balanced := by
  have member := mem_namesFrom_of_qualified? search
  have lost := Finset.card_erase_of_mem member
  have positive := Finset.card_pos.mpr ⟨directive.name, member⟩
  have fewer : ((tag.withoutGuard.namesFrom [Directive.test, Directive.not]).erase
      directive.name).card ≤ _ := Finset.card_erase_le
  rw [card_namesFrom_withoutGuard] at fewer
  rw [namesFrom_withoutGuard] at lost positive
  rw [Balanced] at balanced ⊢
  rw [namesFrom_remove, namesFrom_remove, namesFrom_withoutGuard, lost]
  omega

theorem AllKnown.remove {tag : Tag} (known : tag.AllKnown) (removed : String) :
    (tag.remove removed).AllKnown := fun name member =>
  known name (mem_keys_remove.mp member).1

theorem AllKnown.withoutGuard {tag : Tag} (known : tag.AllKnown) : tag.withoutGuard.AllKnown := by
  unfold Tag.withoutGuard
  split
  · exact known.remove _
  · exact known

/-- Behind its last repeat an element has no test and no repeat. -/
theorem known_of_unrepeated {tag : Tag} (known : tag.AllKnown) (balanced : tag.Balanced)
    (search : tag.withoutGuard.repeat? = none) {name : String}
    (member : name ∈ tag.withoutGuard.attributes.keys)
    (directive : Directive.isDirective name = true) :
    name ∈ [Directive.attributes, Directive.content, Directive.included, Directive.unwrap] := by
  have noRepeat := namesFrom_eq_empty search
  -- Without a repeat the balance leaves room for one test, and that one is gone.
  have noGuard : tag.withoutGuard.namesFrom [Directive.test, Directive.not] = ∅ := by
    rw [namesFrom_withoutGuard] at noRepeat
    rw [Balanced, noRepeat, Finset.card_empty] at balanced
    rw [← Finset.card_eq_zero, card_namesFrom_withoutGuard]
    omega
  have either := known.withoutGuard name member directive
  rw [Directive.isKnown, Bool.or_eq_true, List.contains_iff_mem] at either
  rcases either with qualified | plain
  · obtain ⟨base, among, read⟩ := List.any_eq_true.mp qualified
    simp only [Directive.qualifiedBases, List.mem_cons, List.not_mem_nil, or_false] at among
    have nowhere (bases : List String) (based : base ∈ bases)
        (none : tag.withoutGuard.namesFrom bases = ∅) : False := by
      have held : name ∈ tag.withoutGuard.namesFrom bases :=
        mem_namesFrom.mpr ⟨member, List.any_eq_true.mpr ⟨base, based, read⟩⟩
      rw [none] at held
      exact Finset.notMem_empty _ held
    rcases among with rfl | rfl | rfl
    · exact (nowhere _ (by simp) noGuard).elim
    · exact (nowhere _ (by simp) noGuard).elim
    · exact (nowhere _ (by simp) noRepeat).elim
  · exact plain

/-- A tag with no directives. -/
def DirectiveFree (tag : Tag) : Prop :=
  ∀ name ∈ tag.attributes.keys, Directive.isDirective name = false

/-- A tag with no directive but the marker that a later pass takes. -/
def OnlyMarked (tag : Tag) : Prop :=
  ∀ name ∈ tag.attributes.keys, Directive.isDirective name = true → name = Directive.unwrap

/-- An element that is not marked has no directive. -/
theorem OnlyMarked.directiveFree {tag : Tag} (marked : tag.OnlyMarked)
    (unmarked : tag.has Directive.unwrap = false) : tag.DirectiveFree := by
  intro name member
  cases directive : Directive.isDirective name with
  | false => rfl
  | true =>
      have here : tag.has Directive.unwrap = true := by
        obtain ⟨entry, among, same⟩ := List.mem_map.mp member
        apply List.any_eq_true.mpr
        exact ⟨entry, among, by rw [same, marked name member directive, decide_eq_true rfl]⟩
      rw [here] at unmarked
      cases unmarked

end Tag

/-- Some of the attributes of a tag without directives have none. -/
theorem Tag.DirectiveFree.filter {name : String} {tag : Tag} (clean : tag.DirectiveFree)
    (kept : String × String → Bool) :
    Tag.DirectiveFree ⟨name, ⟨tag.attributes.entries.filter kept⟩⟩ := by
  intro key member
  obtain ⟨entry, among, rfl⟩ := List.mem_map.mp member
  exact clean _ (List.mem_map_of_mem (List.mem_filter.mp among).1)

/-- Wrapping distributes the attributes of a cell over the cell and its wrapper. -/
theorem directiveFree_process {node : Node} (clean : ∀ tag ∈ node.tags, tag.DirectiveFree) :
    ∀ tag ∈ (Cell.process node).tags, tag.DirectiveFree := by
  cases node with
  | element tag children =>
      have here := clean tag List.mem_cons_self
      rw [Cell.process]
      split
      · intro other member
        simp only [Element.node, Cell.wrap, Cell.wrapper, Node.tags, Node.tagsOf, List.append_nil,
          List.mem_cons] at member
        rcases member with rfl | rfl | inside
        · exact here.filter _
        · exact here.filter _
        · exact clean other (List.mem_cons_of_mem _ inside)
      · exact clean
  | text content => exact clean
  | comment content => exact clean

/-- Wrapping cells brings no directive. -/
theorem directiveFree_wrapRow {node : Node} (clean : ∀ tag ∈ node.tags, tag.DirectiveFree) :
    ∀ tag ∈ (wrapRow node).tags, tag.DirectiveFree := by
  cases node with
  | element tag children =>
      rw [wrapRow]
      split
      · intro other member
        rw [Node.tags] at member
        rcases List.mem_cons.mp member with rfl | inside
        · exact clean _ List.mem_cons_self
        · obtain ⟨cell, among, within⟩ := Node.mem_tagsOf.mp inside
          obtain ⟨child, listed, rfl⟩ := List.mem_map.mp among
          apply directiveFree_process _ other within
          exact fun below held =>
            clean below (List.mem_cons_of_mem _ (Node.mem_tagsOf.mpr ⟨child, listed, held⟩))
      · exact clean
  | text content => exact clean
  | comment content => exact clean

namespace Renderer

/-- Finished nodes have no directives if the nodes of the walk had only markers. -/
theorem directiveFree_finish {renderer : Renderer} (plain : renderer.processors = [])
    {nodes : List Node} (marked : ∀ tag ∈ Node.tagsOf nodes, tag.OnlyMarked) :
    ∀ tag ∈ Node.tagsOf (renderer.finish nodes), tag.DirectiveFree := by
  have flat : ∀ tag ∈ Node.tagsOf (flattenAll nodes), tag.DirectiveFree := by
    intro tag member
    have inside := mem_tagsOf_flattenAll member
    exact (marked tag inside.1).directiveFree inside.2
  rw [finish, plain, List.foldl_nil]
  split
  · intro tag member
    obtain ⟨row, among, within⟩ := Node.mem_tagsOf.mp member
    obtain ⟨node, listed, rfl⟩ := List.mem_map.mp among
    apply directiveFree_wrapRow _ tag within
    exact fun below held => flat below (Node.mem_tagsOf.mpr ⟨node, listed, held⟩)
  · exact flat

/-- Data without nodes, and without maps that bring a directive. -/
def plainTerms : Terms where
  reads key := key ≠ Context.currentNodeKey
  names := Directive.IsForeign
  withNodes := False
  dashless _ := Directive.isForeign_of_dash_notMem
  laid _ := laysData_of_isForeign
  visited unread := absurd rfl unread

/-- Elements with known directives and enough repeats are left with at most a marker. -/
def plainForms : plainTerms.Forms where
  fit tag := tag.AllKnown ∧ tag.Balanced
  done := Tag.OnlyMarked
  copied tag directive fit search := ⟨fit.1.withoutGuard.remove _, fit.2.copy search⟩
  prepared tag written fit search kept name member directive := by
    have held := Tag.mem_keys_remove.mp member
    have outer := Tag.mem_keys_remove.mp held.1
    obtain ⟨value, found⟩ : ∃ value, written.get? name = some value :=
      OrderedMap.mem_keys_iff.mp outer.1
    have unnamed : ∀ key : String, Directive.IsForeign key → key.toLower ≠ name := by
      rintro key foreign rfl
      rw [Directive.IsForeign, directive] at foreign
      cases foreign
    rw [kept name directive unnamed] at found
    have before := Tag.mem_keys_remove.mp (OrderedMap.mem_keys_iff.mpr ⟨value, found⟩)
    have among := Tag.known_of_unrepeated fit.1 fit.2 search before.1 directive
    simp only [List.mem_cons, List.not_mem_nil, or_false] at among
    tauto
  unmarked tag marked name member := marked name (Tag.mem_keys_remove.mp member).1
  inserted impossible := impossible.elim

/-- The data of a render without directives. -/
def PlainData (context : Context) : Prop :=
  ∀ key value, context.get? key = some value →
    value.Data Directive.IsForeign False

/-- Known directives are not rendered where no element has tests to spare. -/
theorem directiveFree_render (host : Host World) {renderer : Renderer}
    (plain : renderer.processors = []) {cache : Cache}
    (reached : Cache.Reached host.fetching cache) (world : World)
    (known : ∀ template, Cache.Offered host.fetching template →
      ∀ tag ∈ Node.tagsOf template.content, tag.AllKnown ∧ tag.Balanced)
    (unread : ¬ host.fetching.Reads Context.currentNodeKey) {context : Context}
    (data : PlainData context) {nodes : List Node}
    (rendered : Render.outcome (renderer.render host) { context, cache, world } = .ok nodes) :
    ∀ tag ∈ Node.tagsOf nodes, tag.DirectiveFree := by
  have alike : plainTerms.Alike context context :=
    ⟨fun key read => ⟨rfl, data key⟩, .of_get?_eq fun key among => rfl⟩
  have admitted : ∀ template, Cache.Offered host.fetching template →
      plainForms.Admits template.content := by
    intro template offered
    refine ⟨fun key inside visited => unread ?_, known template offered⟩
    exact ⟨template, offered, visited ▸ inside⟩
  have finished (raw : List Node) (marked : plainForms.AllDone raw) :
      ∀ tag ∈ Node.tagsOf (renderer.finish raw), tag.DirectiveFree :=
    directiveFree_finish plain marked
  -- The render is in step with itself; its relation on answers carries the form of the nodes.
  have step := Render.inStep_render_sharing admitted renderer fun raw marked tag member name held
    directive => by
      rw [finished raw marked tag member name held] at directive
      cases directive
  have matched := step { context, cache, world } { context, cache, world }
    ⟨⟨alike, rfl⟩, rfl, reached.sound⟩ fun _ _ => trivial
  obtain ⟨other, -, rfl, raw, marked, rfl⟩ := matched.exists_of_ok rendered
  exact finished raw marked

theorem PlainData.insert {context : Context} (data : PlainData context) (key : String)
    {value : Value}
    (held : value.Data Directive.IsForeign False) :
    PlainData (context.insert key value) :=
  OrderedMap.forall_get?_insert data held

theorem plainData_addressed (path name : String) :
    PlainData ((∅ : Context).setTemplate path name) :=
  PlainData.insert (fun key value absent => by cases absent) _
    (Context.data_templateValue plainTerms.dashless path name)

/-- An element with two tests and a repeat. -/
def repeatedFiles : List (String × String) :=
  [("/a.html", "<template><p data-fly-test='shown' data-fly-repeat='items' " ++
    "data-fly-not='hidden'></p></template>")]

/-- A context with a list and a shown flag. -/
def repeatedContext : Context :=
  (((∅ : Context).setTemplate "/a.html" "").insert "shown" (.bool true)).insert "items"
    (.list [.null])

/-- What is left of the repeated element. -/
def repeatedNodes : List Node := [.element ⟨"p", ∅⟩ []]

theorem plainData_repeatedContext : PlainData repeatedContext := by
  apply ((plainData_addressed "/a.html" "").insert "shown" (.bool true)).insert
  refine .list fun item member => ?_
  rw [List.mem_singleton.mp member]
  exact .null

/-- Both tests and the repeat are gone behind the render. -/
theorem directiveFree_repeatedNodes :
    Render.outcome (Renderer.render {} (.holding repeatedFiles))
        { context := repeatedContext, cache := .empty, world := () } = .ok repeatedNodes ∧
      ∀ tag ∈ Node.tagsOf repeatedNodes, tag.DirectiveFree := by
  have rendered : Render.outcome (Renderer.render {} (.holding repeatedFiles))
      { context := repeatedContext, cache := .empty, world := () } = .ok repeatedNodes := by
    decide +kernel
  have known : ∀ template ∈ Host.templatesOf repeatedFiles,
      (∀ tag ∈ Node.tagsOf template.content, tag.AllKnown ∧ tag.Balanced) ∧
        Context.currentNodeKey ∉ Node.readKeysOf template.content := by decide +kernel
  refine ⟨rendered, ?_⟩
  apply directiveFree_render (.holding repeatedFiles) rfl .empty () _ _
    plainData_repeatedContext rendered
  · exact fun template offered => (known template (Host.mem_templatesOf_of_offered offered)).1
  · rintro ⟨template, offered, inside⟩
    exact (known template (Host.mem_templatesOf_of_offered offered)).2 inside

/-- An element with two tests and no repeat. -/
def guardedFiles : List (String × String) :=
  [("/a.html", "<template><p data-fly-test='shown' data-fly-not='hidden'>x</p></template>")]

/-- The second test of an element that is not repeated is rendered. -/
theorem directive_render_guarded :
    (∀ template, Cache.Offered (Host.holding guardedFiles).fetching template →
      ∀ tag ∈ Node.tagsOf template.content, tag.AllKnown) ∧
    ¬ (Host.holding guardedFiles).fetching.Reads Context.currentNodeKey ∧
    ¬ ∀ context nodes, PlainData context →
      Render.outcome (Renderer.render {} (.holding guardedFiles))
        { context, cache := .empty, world := () } = .ok nodes →
      ∀ tag ∈ Node.tagsOf nodes, tag.DirectiveFree := by
  have known : ∀ template ∈ Host.templatesOf guardedFiles,
      (∀ tag ∈ Node.tagsOf template.content, tag.AllKnown) ∧
        Context.currentNodeKey ∉ Node.readKeysOf template.content := by decide +kernel
  refine ⟨?_, ?_, fun free => ?_⟩
  · exact fun template offered => (known template (Host.mem_templatesOf_of_offered offered)).1
  · rintro ⟨template, offered, inside⟩
    exact (known template (Host.mem_templatesOf_of_offered offered)).2 inside
  · have data := (plainData_addressed "/a.html" "").insert "shown" (.bool true)
    have rendered : Render.outcome (Renderer.render {} (.holding guardedFiles))
        { context := ((∅ : Context).setTemplate "/a.html" "").insert "shown" (.bool true),
          cache := .empty, world := () } =
        .ok [.element ⟨"p", ⟨[("data-fly-not", "hidden")]⟩⟩ [.text "x"]] := by decide +kernel
    have clean := free _ _ data rendered _ List.mem_cons_self "data-fly-not" List.mem_cons_self
    exact absurd clean (by decide)

end Renderer

end Stencil
