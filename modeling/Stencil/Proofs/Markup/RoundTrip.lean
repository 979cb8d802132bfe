import Stencil.Proofs.Markup.EndTag
import Stencil.Proofs.Markup.PlainTag

/-! Reading undoes writing. -/

namespace Stencil.Markup

/-- Raw text may hold no end tag of its own element. -/
structure RawChildren (name : String) (children : List Node) : Prop where
  texts : ∀ child ∈ children, child.text?.isSome = true
  closed : ¬ HasEndTag name.toList (Node.textContents children).toList

mutual
/-- A node whose written form holds all of it. -/
def Writable : Node → Prop
  | .element tag children =>
      PlainTag tag ∧ (tag.isRawText = true → RawChildren tag.name children) ∧ WritableAll children
  | .text content => Unmarked content.toList
  | .comment content => ¬ "-->".toList <:+: content.toList

/-- Siblings whose written form holds all of them. -/
def WritableAll : List Node → Prop
  | [] => True
  | node :: rest => Writable node ∧ WritableAll rest
end

/-- Raw text may hold no end tag that is ended in it. -/
structure LegibleRaw (name : String) (children : List Node) : Prop where
  texts : ∀ child ∈ children, child.text?.isSome = true
  closed : ¬ HasEndTag name.toList ((Node.textContents children).toList ++ ['<'])

mutual
/-- A node whose written form is read as the node in normal form. -/
def Legible : Node → Prop
  | .element tag children =>
      PlainTag tag ∧ (tag.isRawText = true → LegibleRaw tag.name children) ∧ LegibleAll children
  | .text content => Unmarked content.toList
  | .comment content => ¬ "-->".toList <:+: content.toList

def LegibleAll : List Node → Prop
  | [] => True
  | node :: rest => Legible node ∧ LegibleAll rest
end

/-- Plain names hold no `<`. -/
theorem PlainTag.tagless {tag : Tag} (plain : PlainTag tag) : '<' ∉ tag.name.toList := by
  intro member
  have inside := isNameCharacter_of_isPlainName plain.name '<' member
  exact absurd inside (by decide)

mutual
/-- What holds all of a node is legible. -/
theorem legible_of_writable : (node : Node) → Writable node → Legible node
  | .element tag children, writable => by
      rw [Writable] at writable
      rw [Legible]
      obtain ⟨plain, rawChildren, others⟩ := writable
      refine ⟨plain, fun raw => ?_, legibleAll_of_writableAll children others⟩
      obtain ⟨texts, closed⟩ := rawChildren raw
      exact ⟨texts, fun has => closed (hasEndTag_of_append plain.tagless has)⟩
  | .text content, writable => by
      rw [Writable] at writable
      rw [Legible]
      exact writable
  | .comment content, writable => by
      rw [Writable] at writable
      rw [Legible]
      exact writable

/-- Writable nodes are legible. -/
theorem legibleAll_of_writableAll : (nodes : List Node) → WritableAll nodes → LegibleAll nodes
  | [], _ => by
      rw [LegibleAll]
      trivial
  | node :: rest, writable => by
      rw [WritableAll] at writable
      rw [LegibleAll]
      exact ⟨legible_of_writable node writable.1, legibleAll_of_writableAll rest writable.2⟩
end

/-! Nothing that is written starts with a byte order mark. -/

/-- The escape of a character starts with no byte order mark. -/
theorem unmarked_escapeTextCharacter {character : Char} (other : character ≠ '\uFEFF')
    (rest : List Char) : Unmarked (escapeTextCharacter character ++ rest) := by
  unfold escapeTextCharacter
  split <;> simp [Unmarked, other]

/-- An escaped text starts with no byte order mark if the text does not. -/
theorem unmarked_escapeText {content : String} (unmarked : Unmarked content.toList)
    {rest : List Char} (restUnmarked : Unmarked rest) :
    Unmarked ((escapeText content).toList ++ rest) := by
  rw [toList_escapeText]
  cases held : content.toList with
  | nil => exact restUnmarked
  | cons first others =>
      rw [held] at unmarked
      simp only [Unmarked, List.head?_cons, ne_eq, Option.some.injEq] at unmarked
      rw [List.flatMap_cons, List.append_assoc]
      exact unmarked_escapeTextCharacter unmarked _

/-- A written node starts with no byte order mark. -/
theorem unmarked_html {node : Node} (legible : Legible node) {rest : List Char}
    (restUnmarked : Unmarked rest) : Unmarked (node.html.toList ++ rest) := by
  cases node with
  | element tag children =>
      rw [Node.html]
      split <;> simp [Tag.opening, Unmarked]
  | text content =>
      rw [Legible] at legible
      rw [Node.html]
      exact unmarked_escapeText legible restUnmarked
  | comment content => simp [Node.html, Unmarked]

/-- Written nodes start with no byte order mark. -/
theorem LegibleAll.unmarked {nodes : List Node} (legible : LegibleAll nodes) {rest : List Char}
    (restUnmarked : Unmarked rest) : Unmarked ((htmlOf nodes).toList ++ rest) := by
  induction nodes with
  | nil => exact restUnmarked
  | cons node others inductionHypothesis =>
      rw [LegibleAll] at legible
      rw [htmlOf_cons, String.toList_append, List.append_assoc]
      exact unmarked_html legible.1 (inductionHypothesis legible.2)

theorem unmarked_htmlOf {nodes : List Node} (writable : WritableAll nodes) {rest : List Char}
    (restUnmarked : Unmarked rest) : Unmarked ((htmlOf nodes).toList ++ rest) :=
  (legibleAll_of_writableAll nodes writable).unmarked restUnmarked

/-! A raw text element is read as one text. -/

/-- Raw texts are written as they are. -/
theorem htmlWithin_texts {children : List Node}
    (texts : ∀ child ∈ children, child.text?.isSome = true) :
    Node.htmlWithin true children = Node.textContents children := by
  induction children with
  | nil => rfl
  | cons child rest inductionHypothesis =>
      have behind := inductionHypothesis fun other member =>
        texts other (List.mem_cons_of_mem _ member)
      cases child with
      | text content => simp [Node.htmlWithin, Node.textContents, Node.textContent, behind]
      | element tag children => exact absurd (texts _ List.mem_cons_self) (by simp [Node.text?])
      | comment content => exact absurd (texts _ List.mem_cons_self) (by simp [Node.text?])

/-- Texts beside each other are one text. -/
theorem normals_texts {children : List Node}
    (texts : ∀ child ∈ children, child.text?.isSome = true) :
    Node.normals children =
      if Node.textContents children = "" then [] else [.text (Node.textContents children)] := by
  induction children with
  | nil => rfl
  | cons child rest inductionHypothesis =>
      have behind := inductionHypothesis fun other member =>
        texts other (List.mem_cons_of_mem _ member)
      cases child with
      | text content =>
          rw [Node.normals, Node.normal, behind, Node.textContents, Node.textContent]
          by_cases noRest : Node.textContents rest = ""
          · by_cases noContent : content = "" <;> simp [noRest, noContent, Node.join]
          · by_cases noContent : content = "" <;> simp [noRest, noContent, Node.join]
      | element tag children => exact absurd (texts _ List.mem_cons_self) (by simp [Node.text?])
      | comment content => exact absurd (texts _ List.mem_cons_self) (by simp [Node.text?])

/-- A raw text element is had back with its texts as one. -/
theorem rawElement_textContents {tag : Tag} {children : List Node}
    (texts : ∀ child ∈ children, child.text?.isSome = true) :
    rawElement tag (Node.textContents children).toList =
      .element tag (Node.normals children) := by
  rw [rawElement, normals_texts texts, String.ofList_toList]
  simp

/-- No raw text element is void. -/
theorem isVoid_of_isRawText {tag : Tag} (raw : tag.isRawText = true) : tag.isVoid = false := by
  have named : tag.name = "script" ∨ tag.name = "style" := by
    simpa [Tag.isRawText, rawTextNames] using raw
  rcases named with script | style
  · rw [Tag.isVoid, script]
    decide
  · rw [Tag.isVoid, style]
    decide

/-- A written raw text element is appended whole. -/
theorem reads_rawText {tag : Tag} (plain : PlainTag tag) (raw : tag.isRawText = true)
    {children : List Node} (inside : LegibleRaw tag.name children) (forest : Forest) :
    Reads (Node.element tag children).html.toList forest
      (forest.append (.element tag (Node.normals children))) := by
  have notVoid := isVoid_of_isRawText raw
  have written : (Node.element tag children).html.toList = tag.opening.toList ++
      ((Node.textContents children).toList ++ '<' :: '/' :: (tag.name.toList ++ ['>'])) := by
    rw [Node.html, notVoid, raw, htmlWithin_texts inside.texts]
    simp [Tag.closing]
  have means : meaning (.startTag (tagContent tag)) = .ok (.rawText tag) := by
    rw [plain.meaning_startTag, startMeaning, notVoid, raw]
    rfl
  intro position rest unmarked
  have source : tag.opening.toList ++
      ((Node.textContents children).toList ++ '<' :: '/' :: (tag.name.toList ++ ['>'])) ++ rest =
        tag.opening.toList ++ ((Node.textContents children).toList ++
          '<' :: '/' :: (tag.name.toList ++ '>' :: rest)) := by
    simp
  have next := plain.next?_opening
    ((Node.textContents children).toList ++ '<' :: '/' :: (tag.name.toList ++ '>' :: rest))
  have cut :=
    rawText_closed (map_toLower_of_isPlainName plain.name) plain.tagless inside.closed rest
  -- The count goes on from the start tag to behind the end tag.
  have consumed : position + Text.byteLength tag.opening.toList +
      (Text.byteLength ((Node.textContents children).toList ++
        '<' :: '/' :: (tag.name.toList ++ '>' :: rest)) - Text.byteLength rest) =
      position + Text.byteLength (tag.opening.toList ++
        ((Node.textContents children).toList ++ '<' :: '/' :: (tag.name.toList ++ ['>']))) := by
    simp only [Text.byteLength_append, Text.byteLength_cons, Text.byteLength_nil]
    omega
  rw [written, source, Reader.readInto_rawText next means cut unmarked,
    rawElement_textContents inside.texts, consumed]

/-- An element is written as its start tag, its children and its end tag. -/
theorem toList_html_element {tag : Tag} (notVoid : tag.isVoid = false)
    (notRaw : tag.isRawText = false) (children : List Node) :
    (Node.element tag children).html.toList =
      tag.opening.toList ++ ((htmlOf children).toList ++ tag.closing.toList) := by
  rw [Node.html, notVoid, notRaw, htmlOf]
  simp

/-- The end tag appends the element that was opened and filled. -/
theorem PlainTag.reads_closing_filled {tag : Tag} (plain : PlainTag tag)
    (notVoid : tag.isVoid = false) (children : List Node) (forest : Forest) :
    ReadsAnywhere tag.closing.toList
      ((forest.openElement tag).edit fun siblings =>
        (children.map Node.normal).foldl Forest.push siblings)
      (forest.append (.element tag (Node.normals children))) := by
  have closed := plain.reads_closing notVoid ((forest.openElement tag).edit fun siblings =>
    (children.map Node.normal).foldl Forest.push siblings)
  rw [Forest.close_edit_openElement, Forest.foldl_push_normal] at closed
  exact closed

/-- An element whose children are read is read itself. -/
theorem reads_element {tag : Tag} (plain : PlainTag tag) (notVoid : tag.isVoid = false)
    (notRaw : tag.isRawText = false) {children : List Node} (legible : LegibleAll children)
    (reads : ∀ forest, Reads (htmlOf children).toList forest
      (forest.edit fun siblings => (children.map Node.normal).foldl Forest.push siblings))
    (forest : Forest) :
    Reads (Node.element tag children).html.toList forest
      (forest.append (.element tag (Node.normals children))) := by
  have closed := (plain.reads_closing_filled notVoid children forest).reads
  have closingUnmarked : ∀ rest, Unmarked rest → Unmarked (tag.closing.toList ++ rest) := by
    intro rest _
    simp [Tag.closing, Unmarked]
  have inside := (reads (forest.openElement tag)).append closingUnmarked closed
  rw [toList_html_element notVoid notRaw]
  refine (plain.reads_opening notVoid notRaw forest).reads.append ?_ inside
  intro rest unmarked
  rw [List.append_assoc]
  exact legible.unmarked (closingUnmarked rest unmarked)

mutual
/-- The written form of a node appends its normal form. -/
theorem Legible.reads : (node : Node) → Legible node → (forest : Forest) →
    Reads node.html.toList forest (forest.edit fun siblings => Forest.push siblings node.normal)
  | .element tag children, legible, forest => by
      rw [Legible] at legible
      obtain ⟨plain, rawChildren, others⟩ := legible
      by_cases isVoid : tag.isVoid = true
      · rw [Node.html, if_pos isVoid, Node.normal, if_pos isVoid]
        exact (plain.reads_void isVoid forest).reads
      · rw [Bool.not_eq_true] at isVoid
        rw [Node.normal, isVoid]
        by_cases raw : tag.isRawText = true
        · exact reads_rawText plain raw (rawChildren raw) forest
        · rw [Bool.not_eq_true] at raw
          exact reads_element plain isVoid raw others (LegibleAll.reads children others) forest
  | .text content, _, forest => by
      rw [Node.html, Node.normal]
      exact (ReadsAnywhere.text content forest).reads
  | .comment content, legible, forest => by
      rw [Legible] at legible
      rw [Node.normal]
      exact (ReadsAnywhere.comment legible forest).reads

/-- The written form of siblings appends their normal forms one after the other. -/
theorem LegibleAll.reads : (nodes : List Node) → LegibleAll nodes → (forest : Forest) →
    Reads (htmlOf nodes).toList forest
      (forest.edit fun siblings => (nodes.map Node.normal).foldl Forest.push siblings)
  | [], _, forest => by
      rw [List.map_nil]
      simp only [List.foldl_nil, Forest.edit_id]
      exact (ReadsAnywhere.nil forest).reads
  | node :: rest, legible, forest => by
      rw [LegibleAll] at legible
      have first := Legible.reads node legible.1 forest
      have others := LegibleAll.reads rest legible.2
        (forest.edit fun siblings => Forest.push siblings node.normal)
      rw [Forest.edit_edit] at others
      rw [htmlOf_cons, String.toList_append]
      exact first.append (fun _ => legible.2.unmarked) others
end

/-- Written nodes are read as their normal form. -/
theorem reads_htmlOf (nodes : List Node) (writable : WritableAll nodes) (forest : Forest) :
    Reads (htmlOf nodes).toList forest
      (forest.edit fun siblings => (nodes.map Node.normal).foldl Forest.push siblings) :=
  LegibleAll.reads nodes (legibleAll_of_writableAll nodes writable) forest

/-- The written form of legible nodes is read as their normal form. -/
theorem LegibleAll.parse_htmlOf_eq {nodes : List Node} (legible : LegibleAll nodes) :
    parse (htmlOf nodes) = .ok (Node.normals nodes) := by
  have unmarked : Unmarked ((htmlOf nodes).toList ++ []) :=
    legible.unmarked (by simp [Unmarked])
  rw [List.append_nil] at unmarked
  rw [Reads.parse unmarked (LegibleAll.reads nodes legible .empty), Forest.finish_edit_empty,
    Forest.foldl_push_normal]

end Stencil.Markup

namespace Stencil

open Markup in
/-- The written form of writable nodes is read as their normal form. -/
theorem parse_htmlOf {nodes : List Node} (writable : WritableAll nodes) :
    parse (htmlOf nodes) = .ok (Node.normals nodes) := by
  have unmarked : Unmarked ((htmlOf nodes).toList ++ []) :=
    unmarked_htmlOf writable (by simp [Unmarked])
  rw [List.append_nil] at unmarked
  rw [Reads.parse unmarked (reads_htmlOf nodes writable .empty), Forest.finish_edit_empty,
    Forest.foldl_push_normal]

/-- Texts, values, a void element with a child and a script that nearly ends early. -/
def sampleNodes : List Node := [
  .text "a < b & ", .text "", .text "\u00a0c",
  .element ⟨"p", ⟨[("title", "say \"hi\" & go"), ("data-x", "")]⟩⟩
    [.comment " - ", .element ⟨"br", ∅⟩ [.text "gone"], .text ">"],
  .element ⟨"script", ∅⟩ [.text "x </", .text "scripts></style>"]]

/-- The sample has escapes, a void element, and half an end tag in a script. -/
theorem parse_htmlOf_sampleNodes :
    Markup.WritableAll sampleNodes ∧
      parse (htmlOf sampleNodes) = .ok [
        .text "a < b & \u00a0c",
        .element ⟨"p", ⟨[("title", "say \"hi\" & go"), ("data-x", "")]⟩⟩
          [.comment " - ", .element ⟨"br", ∅⟩ [], .text ">"],
        .element ⟨"script", ∅⟩ [.text "x </scripts></style>"]] := by
  have paragraph : Markup.PlainTag ⟨"p", ⟨[("title", "say \"hi\" & go"), ("data-x", "")]⟩⟩ :=
    ⟨by decide, by decide, by decide⟩
  have lineBreak : Markup.PlainTag ⟨"br", ∅⟩ := ⟨by decide, by decide, by decide⟩
  have script : Markup.PlainTag ⟨"script", ∅⟩ := ⟨by decide, by decide, by decide⟩
  have scriptText : Markup.RawChildren "script" [.text "x </", .text "scripts></style>"] :=
    ⟨by decide, Markup.rawText_eq_self_iff.mp (by decide)⟩
  have comment : ¬ "-->".toList <:+: " - ".toList := fun within => by
    have held : '>' ∈ " - ".toList := within.subset (by decide)
    exact absurd held (by decide)
  have writable : Markup.WritableAll sampleNodes := by
    simp only [sampleNodes, Markup.WritableAll, Markup.Writable, Markup.Unmarked]
    exact ⟨by decide, by decide, by decide, ⟨paragraph, fun raw => absurd raw (by decide), comment,
      ⟨lineBreak, fun raw => absurd raw (by decide), by decide, trivial⟩, by decide, trivial⟩,
      ⟨script, fun _ => scriptText, by decide, by decide, trivial⟩, trivial⟩
  exact ⟨writable, parse_htmlOf writable⟩

end Stencil
