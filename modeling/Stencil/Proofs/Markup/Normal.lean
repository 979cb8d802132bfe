import Stencil.Markup.Forest

/-! The normal form of siblings: no empty or adjacent texts, and void elements without children. -/

namespace Stencil

namespace Node

/-- A text joins the text behind it, and the empty text is dropped. -/
def join : Node → List Node → List Node
  | .text content, .text after :: rest =>
      if content = "" then .text after :: rest else .text (content ++ after) :: rest
  | .text content, rest => if content = "" then rest else .text content :: rest
  | node, rest => node :: rest

mutual
/-- A node in normal form. -/
def normal : Node → Node
  | .element tag children => .element tag (if tag.isVoid then [] else normals children)
  | .text content => .text content
  | .comment content => .comment content

/-- Siblings in normal form. -/
def normals : List Node → List Node
  | [] => []
  | node :: rest => join (normal node) (normals rest)
end

/-- Siblings are brought to normal form from the right. -/
theorem normals_eq_foldr (nodes : List Node) :
    normals nodes = (nodes.map normal).foldr join [] := by
  induction nodes with
  | nil => rfl
  | cons node rest inductionHypothesis =>
      simp only [normals, List.map_cons, List.foldr_cons, inductionHypothesis]

end Node

namespace Markup.Forest

/-- A finished node goes behind its siblings, the newest of which stands first. -/
def push (siblings : List Node) : Node → List Node
  | .text content => joinText content siblings
  | node => node :: siblings

/-- The siblings of a forest, newest first, with more siblings behind them in document order. -/
def continued : List Node → List Node → List Node
  | .text before :: others, .text after :: rest =>
      others.reverse ++ .text (before ++ after) :: rest
  | siblings, rest => siblings.reverse ++ rest

@[simp] theorem continued_nil (siblings : List Node) :
    continued siblings [] = siblings.reverse := by
  cases siblings with
  | nil => rfl
  | cons node others => cases node <;> simp [continued]

@[simp] theorem nil_continued (rest : List Node) : continued [] rest = rest := by
  simp [continued]

/-- A text that is pushed joins what it would join in front of the rest. -/
theorem continued_push_text (siblings rest : List Node) (content : String) :
    continued (push siblings (.text content)) rest =
      continued siblings (Node.join (.text content) rest) := by
  by_cases empty : content = ""
  · subst empty
    have unchanged : Node.join (.text "") rest = rest := by
      cases rest with
      | nil => rfl
      | cons node others => cases node <;> rfl
    rw [unchanged]
    simp [push, joinText]
  · -- Both sides split on whether a text stands before and whether one stands behind.
    cases siblings with
    | nil =>
        cases rest with
        | nil => simp [push, joinText, empty, Node.join, continued]
        | cons node others =>
            cases node <;> simp [push, joinText, empty, Node.join, continued]
    | cons newest older =>
        cases rest with
        | nil =>
            cases newest <;> simp [push, joinText, empty, Node.join, continued]
        | cons node others =>
            cases newest <;> cases node <;>
              simp [push, joinText, empty, Node.join, continued, String.append_assoc]

/-- A node that is pushed is joined in front of the rest. -/
theorem continued_push (siblings rest : List Node) (node : Node) :
    continued (push siblings node) rest = continued siblings (node.join rest) := by
  cases node with
  | text content => exact continued_push_text siblings rest content
  | element tag children =>
      cases siblings with
      | nil => simp [push, Node.join, continued]
      | cons newest older => cases newest <;> simp [push, Node.join, continued]
  | comment content =>
      cases siblings with
      | nil => simp [push, Node.join, continued]
      | cons newest older => cases newest <;> simp [push, Node.join, continued]

/-- Nodes that are pushed one by one are joined from the right. -/
theorem foldl_push_reverse (siblings nodes : List Node) :
    (nodes.foldl push siblings).reverse = continued siblings (nodes.foldr Node.join []) := by
  induction nodes generalizing siblings with
  | nil => simp
  | cons node rest inductionHypothesis =>
      rw [List.foldl_cons, inductionHypothesis, continued_push, List.foldr_cons]

/-- Nodes that are pushed one after the other are held in normal form. -/
theorem foldl_push_normal (nodes : List Node) :
    ((nodes.map Node.normal).foldl push []).reverse = Node.normals nodes := by
  rw [foldl_push_reverse, nil_continued, Node.normals_eq_foldr]

/-- An edit of an edited forest is one edit. -/
theorem edit_edit (first second : List Node → List Node) (forest : Forest) :
    (forest.edit first).edit second = forest.edit (second ∘ first) := by
  obtain ⟨frames, roots⟩ := forest
  cases frames with
  | nil => rfl
  | cons frame outer => rfl

@[simp] theorem edit_id (forest : Forest) : (forest.edit fun siblings => siblings) = forest := by
  obtain ⟨frames, roots⟩ := forest
  cases frames with
  | nil => rfl
  | cons frame outer => rfl

/-- Texts added one after the other are one text. -/
theorem addText_addText (forest : Forest) (first second : String) :
    (forest.addText first).addText second = forest.addText (first ++ second) := by
  have joined : joinText second ∘ joinText first = joinText (first ++ second) := by
    funext siblings
    by_cases noFirst : first = ""
    · subst noFirst
      simp [joinText]
    · by_cases noSecond : second = ""
      · subst noSecond
        simp [joinText]
      · have nonempty : first ++ second ≠ "" := by simp [noFirst]
        cases siblings with
        | nil => simp [joinText, noFirst, noSecond]
        | cons newest older =>
            cases newest <;> simp [joinText, noFirst, noSecond, String.append_assoc]
  rw [addText, addText, edit_edit, joined, addText]

@[simp] theorem addText_empty (forest : Forest) : forest.addText "" = forest := edit_id forest

/-- An element that was opened, filled and closed is one appended node. -/
theorem close_edit_openElement (forest : Forest) (tag : Tag) (fill : List Node → List Node) :
    (((forest.openElement tag).edit fill).close tag.name) =
      forest.append (.element tag (fill []).reverse) := by
  obtain ⟨frames, roots⟩ := forest
  simp [openElement, edit, close, List.findIdx?_cons, closeInner, closeInnermost, Frame.node]

/-- Nodes that are added at the top level are the nodes of the finished forest. -/
theorem finish_edit_empty (fill : List Node → List Node) :
    (empty.edit fill).finish = (fill []).reverse := rfl

end Markup.Forest

end Stencil
