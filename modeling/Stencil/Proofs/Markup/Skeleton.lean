import Stencil.Proofs.Expression.ReadKeys
import Stencil.Proofs.Markup.Image

/-! What is left of nodes that are written and read. -/

namespace Stencil

namespace Node

mutual
/-- The elements and comments of a tree, without its texts. -/
def skeleton : Node → List Node
  | .element tag children => [.element tag (skeletons children)]
  | .text _ => []
  | .comment content => [.comment content]

def skeletons : List Node → List Node
  | [] => []
  | node :: rest => node.skeleton ++ skeletons rest
end

mutual
/-- A tree whose void elements have lost their children. -/
def emptied : Node → Node
  | .element tag children => .element tag (if tag.isVoid then [] else emptiedAll children)
  | .text content => .text content
  | .comment content => .comment content

def emptiedAll : List Node → List Node
  | [] => []
  | node :: rest => node.emptied :: emptiedAll rest
end

/-- Joined texts leave the same elements and comments. -/
theorem skeletons_join (node : Node) (rest : List Node) :
    skeletons (node.join rest) = node.skeleton ++ skeletons rest := by
  cases node with
  | element tag children => rfl
  | comment content => rfl
  | text content =>
      cases rest with
      | nil =>
          rw [join]
          · split <;> rfl
          · simp
      | cons first others =>
          cases first with
          | text after => rw [join]; split <;> rfl
          | element tag children => rw [join]; split <;> rfl; simp
          | comment after => rw [join]; split <;> rfl; simp

mutual
theorem skeleton_normal : (node : Node) → node.normal.skeleton = node.emptied.skeleton
  | .element tag children => by
      rw [normal, emptied]
      split
      · rfl
      · rw [skeleton, skeleton, skeletons_normals children]
  | .text _ => rfl
  | .comment _ => rfl

/-- The normal form joins texts and empties void elements. -/
theorem skeletons_normals : (nodes : List Node) →
    skeletons (normals nodes) = skeletons (emptiedAll nodes)
  | [] => rfl
  | node :: rest => by
      rw [normals, emptiedAll, skeletons, skeletons_join, skeleton_normal node,
        skeletons_normals rest]
end

/-- A plain tag without raw text, and no comment that ends inside of itself. -/
inductive Harmless : Node → Prop
  | element {tag : Tag} {children : List Node} (plain : Markup.PlainTag tag)
      (parsed : tag.isRawText = false) (each : ∀ child ∈ children, Harmless child) :
      Harmless (.element tag children)
  | text (content : String) : Harmless (.text content)
  | comment {content : String} (unended : ¬ "-->".toList <:+: content.toList) :
      Harmless (.comment content)

end Node

/-- A tag with plain names whose element is no raw text. -/
structure Tag.Ordinary (tag : Tag) : Prop where
  name : Markup.isPlainName tag.name = true
  keys : ∀ key ∈ tag.attributes.keys, Markup.isPlainName key = true
  parsed : tag.isRawText = false

instance (tag : Tag) : Decidable tag.Ordinary :=
  decidable_of_iff (Markup.isPlainName tag.name = true ∧
      (∀ key ∈ tag.attributes.keys, Markup.isPlainName key = true) ∧ tag.isRawText = false)
    ⟨fun ⟨name, keys, parsed⟩ => ⟨name, keys, parsed⟩,
      fun ordinary => ⟨ordinary.name, ordinary.keys, ordinary.parsed⟩⟩

namespace Markup

mutual
/-- What was read from a source is harmless if its tags are ordinary. -/
theorem Canonical.harmless {source : List Char} : (node : Node) → Canonical source node →
    (∀ tag ∈ node.tags, tag.Ordinary) → node.Harmless
  | .element tag children, .element small _ _ _ inside, ordinary => by
      have here := ordinary tag List.mem_cons_self
      refine .element ⟨here.name, here.keys, small.distinct⟩ here.parsed ?_
      exact harmless_of_canonical children inside fun other member =>
        ordinary other (List.mem_cons_of_mem _ member)
  | .text content, _, _ => .text content
  | .comment _, .comment unended, _ => .comment unended

/-- Canonical nodes are harmless if their tags are. -/
theorem harmless_of_canonical {source : List Char} : (nodes : List Node) →
    (∀ node ∈ nodes, Canonical source node) → (∀ tag ∈ Node.tagsOf nodes, tag.Ordinary) →
      ∀ node ∈ nodes, node.Harmless
  | [], _, _ => by simp
  | node :: rest, canonical, ordinary => by
      obtain ⟨here, behind⟩ := List.forall_mem_cons.mp canonical
      rw [List.forall_mem_cons]
      constructor
      · exact Canonical.harmless node here fun tag member =>
          ordinary tag (List.mem_append_left _ member)
      · exact harmless_of_canonical rest behind fun tag member =>
          ordinary tag (List.mem_append_right _ member)
end

/-! Harmless nodes are read alike wherever they stand. -/

/-- An element whose children are read is read itself. -/
theorem ReadsAnywhere.element {tag : Tag} (plain : PlainTag tag) (notVoid : tag.isVoid = false)
    (notRaw : tag.isRawText = false) {children : List Node}
    (reads : ∀ forest, ReadsAnywhere (htmlOf children).toList forest
      (forest.edit fun siblings => (children.map Node.normal).foldl Forest.push siblings))
    (forest : Forest) :
    ReadsAnywhere (Node.element tag children).html.toList forest
      (forest.append (.element tag (Node.normals children))) := by
  rw [toList_html_element notVoid notRaw]
  have inside := (reads (forest.openElement tag)).append
    (plain.reads_closing_filled notVoid children forest)
  exact (plain.reads_opening notVoid notRaw forest).append inside

mutual
theorem readsAnywhere_html : (node : Node) → node.Harmless → (forest : Forest) →
    ReadsAnywhere node.html.toList forest
      (forest.edit fun siblings => Forest.push siblings node.normal)
  | .element tag children, .element plain parsed each, forest => by
      by_cases isVoid : tag.isVoid = true
      · rw [Node.html, if_pos isVoid, Node.normal, if_pos isVoid]
        exact plain.reads_void isVoid forest
      · rw [Bool.not_eq_true] at isVoid
        rw [Node.normal, isVoid]
        exact .element plain isVoid parsed (readsAnywhere_htmlOf children each) forest
  | .text content, _, forest => by
      rw [Node.html, Node.normal]
      exact .text content forest
  | .comment content, .comment unended, forest => by
      rw [Node.normal]
      exact .comment unended forest

/-- Harmless nodes are read as their normal form, whatever stands around them. -/
theorem readsAnywhere_htmlOf : (nodes : List Node) → (∀ node ∈ nodes, node.Harmless) →
    (forest : Forest) → ReadsAnywhere (htmlOf nodes).toList forest
      (forest.edit fun siblings => (nodes.map Node.normal).foldl Forest.push siblings)
  | [], _, forest => by
      rw [List.map_nil]
      simp only [List.foldl_nil, Forest.edit_id]
      exact .nil forest
  | node :: rest, harmless, forest => by
      obtain ⟨here, behind⟩ := List.forall_mem_cons.mp harmless
      have first := readsAnywhere_html node here forest
      have others := readsAnywhere_htmlOf rest behind
        (forest.edit fun siblings => Forest.push siblings node.normal)
      rw [Forest.edit_edit] at others
      rw [htmlOf_cons, String.toList_append]
      exact first.append others
end

/-! A byte order mark that starts the first text is lost. -/

/-- Siblings without the byte order mark that their written form starts with. -/
def withoutMark : List Node → List Node
  | .text content :: rest =>
      if content = "" then withoutMark rest
      else .text (String.ofList (Reader.start 0 content.toList).rest) :: rest
  | nodes => nodes

/-- Without a byte order mark nothing is dropped. -/
theorem rest_start_of_unmarked {source : List Char} (unmarked : Unmarked source) :
    (Reader.start 0 source).rest = source := by
  rw [Reader.start_unmarked 0 unmarked]

/-- A mark that is dropped is one of the first text. -/
theorem rest_start_htmlOf (nodes : List Node) :
    (Reader.start 0 (htmlOf nodes).toList).rest = (htmlOf (withoutMark nodes)).toList := by
  induction nodes with
  | nil => rfl
  | cons node rest inductionHypothesis =>
      cases node with
      | element tag children =>
          apply rest_start_of_unmarked
          rw [htmlOf_cons, Node.html]
          split <;> simp [Tag.opening, Unmarked]
      | comment content =>
          apply rest_start_of_unmarked
          simp [htmlOf_cons, Node.html, Unmarked]
      | text content =>
          rw [withoutMark]
          cases held : content.toList with
          | nil =>
              have empty : content = "" := String.toList_injective held
              subst empty
              exact inductionHypothesis
          | cons first others =>
              have filled : content ≠ "" := by
                rintro rfl
                cases held
              rw [if_neg filled, htmlOf_cons, htmlOf_cons, Node.html, Node.html]
              simp only [String.toList_append, toList_escapeText, held, String.toList_ofList,
                List.flatMap_cons, List.append_assoc]
              -- A mark is written as it is, and nothing else is written like one.
              by_cases mark : first = '\uFEFF'
              · subst mark
                rfl
              · rw [rest_start_of_unmarked (unmarked_escapeTextCharacter mark _),
                  rest_start_of_unmarked (by simpa [Unmarked] using mark), List.flatMap_cons,
                  List.append_assoc]

/-- Nodes without a mark at their start are as harmless. -/
theorem harmless_withoutMark {nodes : List Node} (harmless : ∀ node ∈ nodes, node.Harmless) :
    ∀ node ∈ withoutMark nodes, node.Harmless := by
  induction nodes with
  | nil => exact harmless
  | cons node rest inductionHypothesis =>
      cases node with
      | element tag children => exact harmless
      | comment content => exact harmless
      | text content =>
          obtain ⟨-, behind⟩ := List.forall_mem_cons.mp harmless
          rw [withoutMark]
          split
          · exact inductionHypothesis behind
          · exact List.forall_mem_cons.mpr ⟨.text _, behind⟩

/-- A mark at the start makes no difference to elements and comments. -/
theorem skeletons_withoutMark (nodes : List Node) :
    Node.skeletons (Node.emptiedAll (withoutMark nodes)) =
      Node.skeletons (Node.emptiedAll nodes) := by
  induction nodes with
  | nil => rfl
  | cons node rest inductionHypothesis =>
      cases node with
      | element tag children => rfl
      | comment content => rfl
      | text content =>
          rw [withoutMark]
          split
          · exact inductionHypothesis
          · rfl

/-- Harmless nodes are read with the same elements and comments. -/
theorem exists_parse_htmlOf {nodes : List Node} (harmless : ∀ node ∈ nodes, node.Harmless) :
    ∃ read, parse (htmlOf nodes) = .ok read ∧
      Node.skeletons read = Node.skeletons (Node.emptiedAll nodes) := by
  have reads := readsAnywhere_htmlOf (withoutMark nodes) (harmless_withoutMark harmless) .empty
  rw [← rest_start_htmlOf] at reads
  refine ⟨Node.normals (withoutMark nodes), ?_, ?_⟩
  · rw [reads.parse, Forest.finish_edit_empty, Forest.foldl_push_normal]
  · rw [Node.skeletons_normals, skeletons_withoutMark]

end Markup

end Stencil
