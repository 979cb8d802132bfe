import Stencil.Proofs.Render.Scope
import Stencil.Proofs.Render.Stages
import Stencil.Text.Split

/-! The address of the template that is rendered, and what writes over it. -/

namespace Stencil

variable {World : Type}

namespace Context

theorem templatePath?_insert (context : Context) {key : String} (other : key ≠ templateKey)
    (value : Value) : templatePath? (context.insert key value) = context.templatePath? := by
  rw [templatePath?, templatePath?, templateField?, templateField?, OrderedMap.get?_insert,
    if_neg (Ne.symm other)]

theorem templatePath?_setTemplate (context : Context) (path name : String) :
    (context.setTemplate path name).templatePath? = some path := by
  rw [templatePath?, templateField?, setTemplate, OrderedMap.get?_insert, if_pos rfl]
  rfl

end Context

namespace TemplateKey

/-- The empty path addresses no file. -/
theorem path_ne_empty_of_ofContext? {context : Context} {codeBasePath : String}
    {key : TemplateKey} (addressed : ofContext? context codeBasePath = some key) :
    key.path ≠ "" := by
  rw [ofContext?] at addressed
  split at addressed
  · rename_i path found
    rw [Option.some.injEq] at addressed
    rw [← addressed]
    simpa using (Option.filter_eq_some_iff.mp found).2
  · obtain ⟨blockName, -, rfl⟩ := Option.map_eq_some_iff.mp addressed
    simp [defaultPath]

/-- The address that is set is the one that is looked up. -/
theorem ofContext?_setTemplate (context : Context) (codeBasePath : String) {key : TemplateKey}
    (nonempty : key.path ≠ "") :
    ofContext? (context.setTemplate key.path key.name) codeBasePath = some key := by
  have path := context.templatePath?_setTemplate key.path key.name
  have name : (context.setTemplate key.path key.name).templateName? = some key.name := by
    rw [Context.templateName?, Context.templateField?, Context.setTemplate,
      OrderedMap.get?_insert, if_pos rfl]
    rfl
  rw [ofContext?, path, name, Option.filter_some, if_pos (by simpa using nonempty)]
  rfl

end TemplateKey

/-- A name that no test, negated test or repeat has. -/
def Directive.IsUnqualified (name : String) : Prop :=
  ∀ base ∈ qualifiedBases, Qualified.qualifier? base name = none

namespace Tag

/-- No test and no repeat of the element writes the address of the template. -/
def KeepsAddress (tag : Tag) : Prop :=
  ∀ full ∈ tag.attributes.keys, ∀ base ∈ Directive.qualifiedBases, ∀ qualifier,
    Qualified.qualifier? base full = some (some qualifier) →
      Text.lowerCase qualifier ≠ Context.templateKey

instance (tag : Tag) : Decidable tag.KeepsAddress :=
  decidable_of_iff (∀ full ∈ tag.attributes.keys, ∀ base ∈ Directive.qualifiedBases,
      ∀ qualifier ∈ (Qualified.qualifier? base full).join,
        Text.lowerCase qualifier ≠ Context.templateKey) (by
    simp only [KeepsAddress, Option.mem_def, Option.join_eq_some_iff])

/-- A tag without qualified tests and repeats writes no results and no items. -/
theorem keepsAddress_of_isUnqualified {tag : Tag}
    (unqualified : ∀ full ∈ tag.attributes.keys, Directive.IsUnqualified full) :
    tag.KeepsAddress := by
  intro full member base among qualifier read
  rw [unqualified full member base among] at read
  cases read

namespace KeepsAddress

variable {tag : Tag} (unaddressed : tag.KeepsAddress)
include unaddressed

theorem remove (name : String) : (tag.remove name).KeepsAddress :=
  fun full member => unaddressed full (mem_keys_remove.mp member).1

theorem withoutGuard : tag.withoutGuard.KeepsAddress := by
  unfold Tag.withoutGuard
  split
  · exact unaddressed.remove _
  · exact unaddressed

/-- A directive that is found writes something else than the address. -/
theorem qualifier_ne {bases : List String} (directives : bases ⊆ Directive.qualifiedBases)
    {found : Qualified} (search : tag.qualified? bases = some found) {qualifier : String}
    (qualified : found.qualifier = some qualifier) :
    Text.lowerCase qualifier ≠ Context.templateKey := by
  obtain ⟨among, read, member⟩ := Qualified.find?_spec search
  rw [qualified] at read
  exact unaddressed found.name (List.mem_map_of_mem member) found.base (directives among)
    qualifier read

/-- The items of a repeat do not have the name of the address. -/
theorem itemName_ne {directive : Qualified} (search : tag.repeat? = some directive) :
    Render.itemName directive ≠ Context.templateKey := by
  rw [Render.itemName]
  cases qualified : directive.qualifier with
  | none => decide
  | some qualifier =>
      exact unaddressed.qualifier_ne (List.drop_subset 2 _) search qualified

end KeepsAddress

end Tag

namespace Render

/-- An include goes to a file with a path, as it starts in one. -/
theorem path_includeKey_ne_empty {context : Context} {path : String}
    (inPath : context.templatePath? = some path) (nonempty : path ≠ "") (target : String) :
    (includeKey context target).path ≠ "" := by
  rw [includeKey]
  split
  · rename_i absolute
    obtain ⟨rest, whole⟩ := Text.startsWith_iff.mp absolute
    have first : target.toList = '/' :: rest := whole
    rw [Text.splitOn_eq_takeWhile, first]
    simp
  · simpa [inPath] using nonempty

theorem templatePath?_visiting (scene : Scene World) (node : Node) :
    (scene.visiting node).context.templatePath? = scene.context.templatePath? :=
  Context.templatePath?_insert _ (by decide) _

/-- A test that writes no address leaves it alone. -/
theorem templatePath?_of_passes {host : Host World} {tag : Tag} (unaddressed : tag.KeepsAddress)
    {scene after : Scene World} {passed : Bool}
    (ran : passes host tag.guard? scene = .ok passed after) :
    after.context.templatePath? = scene.context.templatePath? := by
  have frame := frame_passes host tag scene
  rw [leaves_of_ok ran] at frame
  have address : after.context.get? Context.templateKey =
      scene.context.get? Context.templateKey := by
    refine Classical.byContradiction fun changed => ?_
    obtain ⟨full, member, base, among, name, read, same⟩ := frame.values _ changed
    exact unaddressed full member base (List.mem_of_mem_take (i := 2) among) name read same.symm
  rw [Context.templatePath?, Context.templatePath?, Context.templateField?, Context.templateField?,
    address]

/-- The names of an item's position and key are longer than the item's. -/
theorem suffixed_ne_templateKey (name : String) :
    name ++ "Index" ≠ Context.templateKey ∧ name ++ "Number" ≠ Context.templateKey ∧
      name ++ "Key" ≠ Context.templateKey := by
  have ends {suffix : String} (last : suffix.toList.getLast? ≠ none)
      (other : suffix.toList.getLast? ≠ Context.templateKey.toList.getLast?) :
      name ++ suffix ≠ Context.templateKey := by
    intro same
    have whole := congrArg (fun text => text.toList.getLast?) same
    simp only [String.toList_append, List.getLast?_append] at whole
    cases found : suffix.toList.getLast? with
    | none => exact last found
    | some character =>
        rw [found, Option.some_or] at whole
        exact other (found.trans whole)
  exact ⟨ends (by decide) (by decide), ends (by decide) (by decide), ends (by decide) (by decide)⟩

/-- The bindings of an item leave the address alone if its name does. -/
theorem templatePath?_bindItem {name : String} (other : name ≠ Context.templateKey)
    (position : Nat) (entry : String × Value) (context : Context) :
    (bindItem name position entry context).templatePath? = context.templatePath? := by
  obtain ⟨index, number, key⟩ := suffixed_ne_templateKey name
  rw [bindItem, OrderedMap.insertAll]
  simp only [List.foldl_cons, List.foldl_nil, Context.templatePath?_insert _ key,
    Context.templatePath?_insert _ number, Context.templatePath?_insert _ index,
    Context.templatePath?_insert _ other]

end Render

end Stencil
