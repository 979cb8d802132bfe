import Stencil.Directive
import Stencil.Expression.Placeholder

/-! The keys of the context from which the expressions of a template start. -/

namespace Stencil

/-- The key that an expression starts from. -/
def Path.readKeys (expression : String) : List String := (Path.parse expression).head?.toList

/-- The key that a placeholder starts from; other pieces read nothing. -/
def Piece.readKeys : Piece → List String
  | .placeholder body => (Piece.path body).head?.toList
  | .literal _ => []
  | .escaped _ => []

/-- The keys that the placeholders of a text start from. -/
def Placeholder.readKeys (text : String) : List String :=
  (Piece.scan text.toList).flatMap Piece.readKeys

namespace Directive

/-- The directives that may have a qualifier. -/
def qualifiedBases : List String := [test, not, repeated]

/-- A name is one of the bases, bare or with a qualifier. -/
def isFrom (bases : List String) (name : String) : Bool :=
  bases.any fun base => (Qualified.qualifier? base name).isSome

/-- The attributes whose value is an expression. -/
def takesExpression (name : String) : Bool :=
  isFrom qualifiedBases name || [attributes, content, unwrap].contains name

/-- These directives hold expressions. -/
theorem takesExpression_of_mem {name : String} (among : name ∈ [attributes, content, unwrap]) :
    takesExpression name = true := by
  rw [takesExpression, List.contains_iff_mem.mpr among, Bool.or_true]

/-- The attributes whose value is a text with placeholders. -/
def takesText (name : String) : Bool := name = included || !isDirective name

/-- The keys that an attribute reads. -/
def readKeys (entry : String × String) : List String :=
  (if takesExpression entry.1 then Path.readKeys entry.2 else []) ++
    if takesText entry.1 then Placeholder.readKeys entry.2 else []

end Directive

/-- The keys that the attributes of a tag start from. -/
def Tag.readKeys (tag : Tag) : List String := tag.attributes.entries.flatMap Directive.readKeys

namespace Node

mutual
/-- The tags of a tree, at any depth. -/
def tags : Node → List Tag
  | .element tag children => tag :: tagsOf children
  | .text _ => []
  | .comment _ => []

def tagsOf : List Node → List Tag
  | [] => []
  | node :: rest => node.tags ++ tagsOf rest
end

mutual
/-- The keys that a tree reads, at any depth. -/
def readKeys : Node → List String
  | .element tag children => tag.readKeys ++ readKeysOf children
  | .text content => Placeholder.readKeys content
  | .comment _ => []

def readKeysOf : List Node → List String
  | [] => []
  | node :: rest => node.readKeys ++ readKeysOf rest
end

/-- The tags of siblings are listed one after the other. -/
theorem tagsOf_append (first second : List Node) :
    tagsOf (first ++ second) = tagsOf first ++ tagsOf second := by
  induction first with
  | nil => rfl
  | cons node rest inductionHypothesis =>
      simp only [List.cons_append, tagsOf, inductionHypothesis, List.append_assoc]

/-- A tag among siblings is in one of them. -/
theorem mem_tagsOf {tag : Tag} {nodes : List Node} :
    tag ∈ tagsOf nodes ↔ ∃ node ∈ nodes, tag ∈ node.tags := by
  induction nodes with
  | nil => simp only [tagsOf, List.not_mem_nil, false_and, exists_false]
  | cons node rest inductionHypothesis =>
      simp only [tagsOf, List.mem_append, inductionHypothesis, List.mem_cons, or_and_right,
        exists_or, exists_eq_left]

/-- A key that siblings read is read by one of them. -/
theorem mem_readKeysOf {key : String} {nodes : List Node} :
    key ∈ readKeysOf nodes ↔ ∃ node ∈ nodes, key ∈ node.readKeys := by
  induction nodes with
  | nil => simp only [readKeysOf, List.not_mem_nil, false_and, exists_false]
  | cons node rest inductionHypothesis =>
      simp only [readKeysOf, List.mem_append, inductionHypothesis, List.mem_cons, or_and_right,
        exists_or, exists_eq_left]

end Node

namespace Tag

variable {tag : Tag} {name value key : String}

/-- An attribute that is evaluated reads the keys of its path. -/
theorem mem_readKeys_of_expression (member : (name, value) ∈ tag.attributes.entries)
    (evaluated : Directive.takesExpression name = true) (read : key ∈ Path.readKeys value) :
    key ∈ tag.readKeys := by
  apply List.mem_flatMap.mpr
  refine ⟨(name, value), member, List.mem_append_left _ ?_⟩
  rw [if_pos evaluated]
  exact read

/-- An attribute that is interpolated reads the keys of its placeholders. -/
theorem mem_readKeys_of_text (member : (name, value) ∈ tag.attributes.entries)
    (written : Directive.takesText name = true) (read : key ∈ Placeholder.readKeys value) :
    key ∈ tag.readKeys := by
  apply List.mem_flatMap.mpr
  refine ⟨(name, value), member, List.mem_append_right _ ?_⟩
  rw [if_pos written]
  exact read

/-- A tag reads no more without an attribute. -/
theorem readKeys_remove_subset (tag : Tag) (name : String) :
    (tag.remove name).readKeys ⊆ tag.readKeys := by
  intro key read
  obtain ⟨entry, member, found⟩ := List.mem_flatMap.mp read
  exact List.mem_flatMap.mpr ⟨entry, (List.mem_filter.mp member).1, found⟩

/-- A directive that is found under a qualified base is an attribute that takes an expression. -/
theorem takesExpression_of_qualified? {bases : List String} {found : Qualified}
    (search : tag.qualified? bases = some found) (known : bases ⊆ Directive.qualifiedBases) :
    Directive.takesExpression found.name = true := by
  obtain ⟨among, read, -⟩ := Qualified.find?_spec search
  have from_base : Directive.isFrom Directive.qualifiedBases found.name = true := by
    apply List.any_eq_true.mpr
    exact ⟨found.base, known among, by rw [read, Option.isSome_some]⟩
  rw [Directive.takesExpression, from_base, Bool.true_or]

/-- The keys of a directive are among those of its tag. -/
theorem readKeys_subset_of_get? (held : tag.get? name = some value)
    (evaluated : Directive.takesExpression name = true) : Path.readKeys value ⊆ tag.readKeys :=
  fun _ read => mem_readKeys_of_expression (OrderedMap.mem_entries_of_get? held) evaluated read

/-- The keys of a qualified directive are among those of its tag. -/
theorem readKeys_subset_of_qualified? {bases : List String} {found : Qualified}
    (search : tag.qualified? bases = some found) (known : bases ⊆ Directive.qualifiedBases) :
    Path.readKeys found.expression ⊆ tag.readKeys := fun _ read =>
  mem_readKeys_of_expression (Qualified.find?_spec search).2.2
    (takesExpression_of_qualified? search known) read

end Tag

end Stencil
