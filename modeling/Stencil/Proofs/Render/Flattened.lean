import Mathlib.Data.List.Basic
import Stencil.Proofs.Expression.ReadKeys
import Stencil.Render.Flatten

/-! Unwrapped nodes: the marked elements are gone, and all others are kept in order. -/

namespace Stencil

/-- A node of a forest with the elements around it, the innermost first. -/
structure Nested where
  around : List Tag
  content : Listed
deriving Repr, DecidableEq

/-- The element gives way to its children. -/
def Tag.isMarked (tag : Tag) : Bool := tag.has Directive.unwrap

/-- Whether a listed element is marked. -/
def Listed.isMarked : Listed → Bool
  | element tag => tag.isMarked
  | text _ | comment _ => false

namespace Nested

/-- What is listed, with the number of elements around it. -/
def atDepth (entry : Nested) : Nat × Listed := (entry.around.length, entry.content)

/-- The depth without the marked elements around. -/
def atUnwrappedDepth (entry : Nested) : Nat × Listed :=
  (entry.around.length - entry.around.countP Tag.isMarked, entry.content)

/-- Only the elements around that are not marked are left. -/
def unwrapped (entry : Nested) : Nested :=
  { entry with around := entry.around.filter fun tag => !tag.isMarked }

/-- Unmarked elements around a node are counted as in the listing. -/
theorem atDepth_unwrapped (entry : Nested) : entry.unwrapped.atDepth = entry.atUnwrappedDepth := by
  have parted := List.length_eq_length_filter_add (l := entry.around) Tag.isMarked
  rw [← List.countP_eq_length_filter] at parted
  rw [atDepth, atUnwrappedDepth, unwrapped, parted, Nat.add_sub_cancel_left]

end Nested

namespace Node

mutual
/-- A node and its descendants under the elements around them, each before its own descendants. -/
def nested (around : List Tag) : Node → List Nested
  | .element tag children => ⟨around, .element tag⟩ :: nestedAll (tag :: around) children
  | .text content => [⟨around, .text content⟩]
  | .comment content => [⟨around, .comment content⟩]

def nestedAll (around : List Tag) : List Node → List Nested
  | [] => []
  | node :: rest => node.nested around ++ nestedAll around rest
end

theorem nestedAll_append (around : List Tag) (first second : List Node) :
    nestedAll around (first ++ second) = nestedAll around first ++ nestedAll around second := by
  induction first with
  | nil => rfl
  | cons node rest inductionHypothesis =>
      rw [List.cons_append, nestedAll, inductionHypothesis, nestedAll, List.append_assoc]

mutual
/-- The listing counts the elements around each node. -/
theorem map_atDepth_nested (around : List Tag) (node : Node) :
    (node.nested around).map Nested.atDepth = node.listing around.length := by
  cases node with
  | element tag children =>
      rw [nested, List.map_cons, map_atDepth_nestedAll, listing]
      rfl
  | text content => rfl
  | comment content => rfl

/-- The number of the elements around a node is its depth. -/
theorem map_atDepth_nestedAll (around : List Tag) (nodes : List Node) :
    (nestedAll around nodes).map Nested.atDepth = listings around.length nodes := by
  cases nodes with
  | nil => rfl
  | cons node rest =>
      rw [nestedAll, List.map_append, map_atDepth_nested, map_atDepth_nestedAll, listings]
end

theorem textContents_append (first second : List Node) :
    textContents (first ++ second) = textContents first ++ textContents second := by
  induction first with
  | nil => simp [textContents]
  | cons node rest inductionHypothesis =>
      rw [List.cons_append, textContents, inductionHypothesis, textContents, String.append_assoc]

end Node

mutual
/-- The elements that are left by unwrapping were there before, and they are not marked. -/
theorem mem_tagsOf_flatten {node : Node} {tag : Tag} (member : tag ∈ Node.tagsOf (flatten node)) :
    tag ∈ node.tags ∧ tag.has Directive.unwrap = false := by
  cases node with
  | element outer children =>
      rw [flatten] at member
      split at member
      · have inside := mem_tagsOf_flattenAll member
        exact ⟨List.mem_cons_of_mem _ inside.1, inside.2⟩
      · rename_i unmarked
        rw [Node.tagsOf, Node.tagsOf, List.append_nil, Node.tags] at member
        rcases List.mem_cons.mp member with rfl | within
        · exact ⟨List.mem_cons_self, by simpa using unmarked⟩
        · have inside := mem_tagsOf_flattenAll within
          exact ⟨List.mem_cons_of_mem _ inside.1, inside.2⟩
  | text content => cases member
  | comment content => cases member

/-- Elements that are left were there and are not marked. -/
theorem mem_tagsOf_flattenAll {nodes : List Node} {tag : Tag}
    (member : tag ∈ Node.tagsOf (flattenAll nodes)) :
    tag ∈ Node.tagsOf nodes ∧ tag.has Directive.unwrap = false := by
  cases nodes with
  | nil => cases member
  | cons node rest =>
      rw [flattenAll, Node.tagsOf_append] at member
      rcases List.mem_append.mp member with here | behind
      · have inside := mem_tagsOf_flatten here
        exact ⟨List.mem_append_left _ inside.1, inside.2⟩
      · have inside := mem_tagsOf_flattenAll behind
        exact ⟨List.mem_append_right _ inside.1, inside.2⟩
end

mutual
/-- A node without marks is left alone. -/
theorem flatten_eq_self {node : Node}
    (unmarked : ∀ tag ∈ node.tags, tag.has Directive.unwrap = false) : flatten node = [node] := by
  cases node with
  | element tag children =>
      have here := unmarked tag List.mem_cons_self
      have inside := flattenAll_eq_self fun other member =>
        unmarked other (List.mem_cons_of_mem _ member)
      rw [flatten, if_neg (by rw [here]; exact Bool.false_ne_true), inside]
  | text content => rfl
  | comment content => rfl

theorem flattenAll_eq_self {nodes : List Node}
    (unmarked : ∀ tag ∈ Node.tagsOf nodes, tag.has Directive.unwrap = false) :
    flattenAll nodes = nodes := by
  cases nodes with
  | nil => rfl
  | cons node rest =>
      have first := flatten_eq_self fun tag member => unmarked tag (List.mem_append_left _ member)
      have others := flattenAll_eq_self fun tag member =>
        unmarked tag (List.mem_append_right _ member)
      rw [flattenAll, first, others, List.singleton_append]
end

/-- Unwrapping again changes nothing. -/
theorem flattenAll_flattenAll (nodes : List Node) :
    flattenAll (flattenAll nodes) = flattenAll nodes :=
  flattenAll_eq_self fun _ member => (mem_tagsOf_flattenAll member).2

mutual
/-- Unwrapping a node takes its marked elements out. -/
theorem nestedAll_flatten (around : List Tag) (node : Node) :
    Node.nestedAll (around.filter fun tag => !tag.isMarked) (flatten node) =
      ((node.nested around).filter fun entry => !entry.content.isMarked).map Nested.unwrapped := by
  cases node with
  | element tag children =>
      have inside := nestedAll_flattenAll (tag :: around) children
      rw [flatten, Node.nested]
      cases marked : tag.isMarked with
      | true =>
          have here : (Listed.element tag).isMarked = true := marked
          rw [List.filter_cons_of_neg (by simp [marked])] at inside
          have markedHere : tag.has Directive.unwrap = true := marked
          rw [if_pos markedHere, List.filter_cons_of_neg (by simp [here]), inside]
      | false =>
          have here : (Listed.element tag).isMarked = false := marked
          have unmarkedHere : tag.has Directive.unwrap = false := marked
          rw [List.filter_cons_of_pos (by simp [marked])] at inside
          rw [if_neg (by simp [unmarkedHere]), List.filter_cons_of_pos (by simp [here]),
            List.map_cons, Node.nestedAll, Node.nested, Node.nestedAll, List.append_nil, inside]
          rfl
  | text content => rfl
  | comment content => rfl

/-- Unwrapping takes out the marked elements and keeps all others in order. -/
theorem nestedAll_flattenAll (around : List Tag) (nodes : List Node) :
    Node.nestedAll (around.filter fun tag => !tag.isMarked) (flattenAll nodes) =
      ((Node.nestedAll around nodes).filter fun entry => !entry.content.isMarked).map
        Nested.unwrapped := by
  cases nodes with
  | nil => rfl
  | cons node rest =>
      rw [flattenAll, Node.nestedAll_append, nestedAll_flatten around node,
        nestedAll_flattenAll around rest, Node.nestedAll, List.filter_append, List.map_append]
end

mutual
theorem textContents_flatten (node : Node) :
    Node.textContents (flatten node) = node.textContent := by
  cases node with
  | element tag children =>
      rw [flatten, Node.textContent]
      split
      · exact textContents_flattenAll children
      · rw [Node.textContents, Node.textContents, Node.textContent, textContents_flattenAll,
          String.append_empty]
  | text content => simp [flatten, Node.textContents]
  | comment content => simp [flatten, Node.textContents]

/-- Unwrapping keeps the text. -/
theorem textContents_flattenAll (nodes : List Node) :
    Node.textContents (flattenAll nodes) = Node.textContents nodes := by
  cases nodes with
  | nil => rfl
  | cons node rest =>
      rw [flattenAll, Node.textContents_append, textContents_flatten, textContents_flattenAll,
        Node.textContents]
end

/-- Unwrapping lists the same nodes without the marked, each less deep by those around it. -/
theorem listings_flattenAll (nodes : List Node) :
    Node.listings 0 nodes = (Node.nestedAll [] nodes).map Nested.atDepth ∧
    Node.listings 0 (flattenAll nodes) =
      ((Node.nestedAll [] nodes).filter fun entry => !entry.content.isMarked).map
        Nested.atUnwrappedDepth ∧
    (∀ tag ∈ Node.tagsOf (flattenAll nodes), tag.isMarked = false) ∧
    flattenAll (flattenAll nodes) = flattenAll nodes ∧
    (∀ others, flattenAll (nodes ++ others) = flattenAll nodes ++ flattenAll others) ∧
    Node.textContents (flattenAll nodes) = Node.textContents nodes := by
  have listed := Node.map_atDepth_nestedAll [] (flattenAll nodes)
  have kept := nestedAll_flattenAll [] nodes
  rw [List.filter_nil] at kept
  refine ⟨(Node.map_atDepth_nestedAll [] nodes).symm, ?_,
    fun tag member => (mem_tagsOf_flattenAll member).2, flattenAll_flattenAll nodes,
    flattenAll_append nodes, textContents_flattenAll nodes⟩
  rw [← List.length_nil (α := Tag), ← listed, kept, List.map_map]
  exact List.map_congr_left fun entry _ => entry.atDepth_unwrapped

/-- A marked element inside of another one, and siblings around them. -/
example :
    flattenAll [.element ⟨"p", ∅⟩
        [.element ⟨"b", ⟨[("data-fly-unwrap", "")]⟩⟩
          [.text "a", .element ⟨"i", ⟨[("data-fly-unwrap", "x")]⟩⟩ [.text "b"]], .text "c"]] =
      [.element ⟨"p", ∅⟩ [.text "a", .text "b", .text "c"]] := by
  decide

/-- What an element is unwrapped to depends on its children as they are unwrapped. -/
theorem flattenAll_element (tag : Tag) {first second : List Node}
    (same : flattenAll first = flattenAll second) :
    flattenAll [.element tag first] = flattenAll [.element tag second] := by
  simp only [flattenAll, flatten, same]

end Stencil
