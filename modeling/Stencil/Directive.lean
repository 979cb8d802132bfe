import Stencil.Markup.Node
import Stencil.Text.Start

/-! The attributes that direct a render. -/

namespace Stencil

namespace Directive

def marker : String := "data-fly-"

def test : String := "data-fly-test"
def not : String := "data-fly-not"
def repeated : String := "data-fly-repeat"
def attributes : String := "data-fly-attributes"
def content : String := "data-fly-content"
def included : String := "data-fly-include"
def unwrap : String := "data-fly-unwrap"

/-- The attribute that names a template in its file. -/
def name : String := "data-fly-name"

/-- The directives that the stages of an element read. -/
def all : List String :=
  [test, not, repeated, attributes, content, included, unwrap]

/-- The engine takes every attribute with the marker for itself. -/
def isDirective (name : String) : Bool := Text.startsWith marker name

end Directive

/-- A directive on an element, with the qualifier behind its name. -/
structure Qualified where
  base : String
  name : String
  qualifier : Option String
  expression : String
deriving Repr, DecidableEq

namespace Qualified

/-- The first segment behind a base name and a dot; the empty segment is none. -/
def qualifier? (base name : String) : Option (Option String) :=
  match base.toList.isPrefixOf? name.toList with
  | some [] => some none
  | some ('.' :: rest) =>
      let segment := rest.takeWhile (· != '.')
      some (if segment = [] then none else some (String.ofList segment))
  | _ => none

/-- The first attribute that has one of the base names, bare or qualified. -/
def find? (bases : List String) (entries : List (String × String)) : Option Qualified :=
  entries.findSome? fun entry =>
    bases.findSome? fun base =>
      (qualifier? base entry.1).map fun qualifier => ⟨base, entry.1, qualifier, entry.2⟩

/-- A directive that is found is one of the attributes, read under its base. -/
theorem find?_spec {bases : List String} {entries : List (String × String)} {found : Qualified}
    (search : find? bases entries = some found) :
    found.base ∈ bases ∧ qualifier? found.base found.name = some found.qualifier ∧
      (found.name, found.expression) ∈ entries := by
  obtain ⟨entry, member, inner⟩ := List.exists_of_findSome?_eq_some search
  obtain ⟨base, among, match?⟩ := List.exists_of_findSome?_eq_some inner
  obtain ⟨qualifier, read, rfl⟩ := Option.map_eq_some_iff.mp match?
  exact ⟨among, read, member⟩

/-- A name that has a qualifier starts with the base. -/
theorem base_prefix {base name : String} {qualifier : Option String}
    (read : qualifier? base name = some qualifier) : base.toList <+: name.toList := by
  unfold qualifier? at read
  split at read
  · rename_i shared
    exact ⟨_, (Text.isPrefixOf?_eq shared).symm⟩
  · rename_i rest shared
    exact ⟨_, (Text.isPrefixOf?_eq shared).symm⟩
  · cases read

end Qualified

/-- Directives on a tag are searched in the order of the attributes. -/
def Tag.qualified? (tag : Tag) (bases : List String) : Option Qualified :=
  Qualified.find? bases tag.attributes.entries

/-- Removing a directive that was found leaves fewer attributes. -/
theorem Tag.remove_size_lt {tag : Tag} {bases : List String} {found : Qualified}
    (search : tag.qualified? bases = some found) :
    (tag.remove found.name).attributes.size < tag.attributes.size := by
  have member := (Qualified.find?_spec search).2.2
  simp only [Tag.remove, OrderedMap.erase, OrderedMap.size]
  apply List.length_filter_lt_length_iff_exists.mpr
  exact ⟨(found.name, found.expression), member, by simp⟩

/-- Removing an attribute never leaves more of them. -/
theorem Tag.remove_size_le (tag : Tag) (name : String) :
    (tag.remove name).attributes.size ≤ tag.attributes.size := by
  simp only [Tag.remove, OrderedMap.erase, OrderedMap.size]
  exact List.length_filter_le _ _

end Stencil
