import Stencil.Directive

/-! Unwrapping: an element with the marker gives way to its children, at any depth. -/

namespace Stencil

mutual
/-- A marked element is replaced by its flattened children. -/
def flatten : Node → List Node
  | .element tag children =>
      if tag.has Directive.unwrap then flattenAll children
      else [.element tag (flattenAll children)]
  | .text content => [.text content]
  | .comment content => [.comment content]

def flattenAll : List Node → List Node
  | [] => []
  | node :: rest => flatten node ++ flattenAll rest
end

/-- Siblings are flattened one by one. -/
theorem flattenAll_append (first second : List Node) :
    flattenAll (first ++ second) = flattenAll first ++ flattenAll second := by
  induction first with
  | nil => simp [flattenAll]
  | cons node rest inductionHypothesis =>
      simp [flattenAll, inductionHypothesis, List.append_assoc]

end Stencil
