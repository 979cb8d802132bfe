import Mathlib.Data.List.Forall2
import Stencil.Proofs.Expression.ReadKeys
import Stencil.Render.WrapCells

/-! Wrapped cells and the paragraphs around their content. -/

namespace Stencil

namespace Cell

/-- The attributes that belong to the content of a cell. -/
def IsMoving (name : String) : Prop :=
  name = "class" ∨ "data-aue".toList <+: name.toList ∨ "data-richtext".toList <+: name.toList

instance (name : String) : Decidable (IsMoving name) :=
  inferInstanceAs (Decidable (_ ∨ _ ∨ _))

/-- An attribute moves exactly if its name does. -/
theorem moves_eq (name : String) : moves name = decide (IsMoving name) := by
  rw [Bool.eq_iff_iff, decide_eq_true_eq, moves, Bool.or_eq_true, Bool.or_eq_true,
    decide_eq_true_eq, Text.startsWith, Text.startsWith, List.isPrefixOf_iff_prefix,
    List.isPrefixOf_iff_prefix, or_assoc]
  rfl

/-- Content is loose if its first element is no proper wrapper. -/
def IsLoose (cell : Element) : Prop :=
  cell.children ≠ [] ∧ ∀ first ∈ cell.elementChildren.head?,
    first.tag.name ∉ wrapperNames ∨
      first.tag.name = "picture" ∧
        (1 < cell.elementChildren.length ∨
          ∃ character ∈ cell.textContent.toList, Text.isBlank character = false)

/-- A text is not blank if some character is not. -/
theorem allBlank_eq_false_iff {text : String} :
    Text.allBlank text = false ↔ ∃ character ∈ text.toList, Text.isBlank character = false := by
  rw [Text.allBlank, List.all_eq_false]
  simp only [Bool.not_eq_true]

/-- Cells need a wrapper exactly if their content is loose. -/
theorem needsWrapper_iff (cell : Element) : needsWrapper cell = true ↔ IsLoose cell := by
  rw [needsWrapper, IsLoose]
  cases filled : cell.children with
  | nil => simp
  | cons node rest =>
      cases led : cell.elementChildren with
      | nil => simp
      | cons first others =>
          rw [List.head?_cons, List.length_cons, ← allBlank_eq_false_iff]
          by_cases proper : first.tag.name ∈ wrapperNames
          · cases others <;> simp [proper]
          · simp [proper]

/-- An attribute moves from one tag to the end of another. -/
def moveAttribute (tags : Tag × Tag) (name : String) : Tag × Tag :=
  match tags.1.get? name with
  | some value => (tags.1.remove name, tags.2.set name value)
  | none => tags

/-- A cell and its paragraph behind moves of one attribute after the other. -/
def moveAttributes (cell : Tag) : Tag × Tag :=
  (cell.attributes.keys.filter (IsMoving ·)).foldl moveAttribute (cell, ⟨"p", ∅⟩)

/-- Attributes of distinct names leave a tag and come last in another, in their order. -/
theorem foldl_moveAttribute {moving : List (String × String)} {cell paragraph : Tag}
    (distinct : cell.attributes.keys.Nodup)
    (among : ∀ entry ∈ moving, entry ∈ cell.attributes.entries)
    (apart : (paragraph.attributes.keys ++ moving.map Prod.fst).Nodup) :
    (moving.map Prod.fst).foldl moveAttribute (cell, paragraph) =
      (⟨cell.name, ⟨cell.attributes.entries.filter (·.1 ∉ moving.map Prod.fst)⟩⟩,
        ⟨paragraph.name, ⟨paragraph.attributes.entries ++ moving⟩⟩) := by
  induction moving generalizing cell paragraph with
  | nil => simp
  | cons entry rest inductionHypothesis =>
      obtain ⟨name, value⟩ := entry
      obtain ⟨here, behind⟩ := List.forall_mem_cons.mp among
      obtain ⟨-, distinctMoving, outside⟩ := List.nodup_append.mp apart
      have new : name ∉ paragraph.attributes.keys :=
        fun held => outside name held name List.mem_cons_self rfl
      have moved : moveAttribute (cell, paragraph) name =
          (cell.remove name, paragraph.set name value) := by
        simp only [moveAttribute, Tag.get?, OrderedMap.get?_of_mem_entries distinct here]
      have left : ∀ other ∈ rest, other ∈ (cell.remove name).attributes.entries := by
        intro other member
        have listed : other.1 ∈ rest.map Prod.fst := List.mem_map_of_mem member
        have different : other.1 ≠ name := fun same =>
          (List.nodup_cons.mp distinctMoving).1 (same ▸ listed)
        exact List.mem_filter.mpr ⟨behind other member, by simpa using different⟩
      have apartBehind : ((paragraph.set name value).attributes.keys ++
          rest.map Prod.fst).Nodup := by
        rw [Tag.set, OrderedMap.keys_insert, if_neg new, List.append_assoc]
        exact apart
      rw [List.map_cons, List.foldl_cons, moved,
        inductionHypothesis (OrderedMap.nodup_keys_erase distinct name) left apartBehind]
      simp only [Tag.remove, Tag.set, OrderedMap.erase, List.filter_filter,
        OrderedMap.entries_insert_of_notMem new, List.append_assoc, List.singleton_append,
        List.mem_cons, not_or, Bool.decide_and, Bool.and_comm]

/-- Moved one after the other, the attributes are distributed by their names. -/
theorem moveAttributes_eq {cell : Tag} (distinct : cell.attributes.keys.Nodup) :
    moveAttributes cell =
      (⟨cell.name, ⟨cell.attributes.entries.filter (¬ IsMoving ·.1)⟩⟩,
        ⟨"p", ⟨cell.attributes.entries.filter (IsMoving ·.1)⟩⟩) := by
  have names : cell.attributes.keys.filter (IsMoving ·) =
      (cell.attributes.entries.filter (IsMoving ·.1)).map Prod.fst := List.filter_map
  have apart : ((∅ : OrderedMap String).keys ++
      (cell.attributes.entries.filter (IsMoving ·.1)).map Prod.fst).Nodup := by
    rw [OrderedMap.keys_empty, List.nil_append, ← names]
    exact distinct.filter _
  have kept : cell.attributes.entries.filter
      (·.1 ∉ (cell.attributes.entries.filter (IsMoving ·.1)).map Prod.fst) =
        cell.attributes.entries.filter (¬ IsMoving ·.1) := by
    apply List.filter_congr
    intro entry member
    have held : entry.1 ∈ cell.attributes.keys := List.mem_map_of_mem member
    simp only [← names, List.mem_filter, held, true_and, decide_eq_true_eq]
  rw [moveAttributes, names,
    foldl_moveAttribute distinct (fun entry member => (List.mem_filter.mp member).1) apart, kept]
  rfl

/-- A cell with loose content is given one paragraph that takes over some attributes. -/
structure Wraps (cell after : Element) : Prop where
  changed : after ≠ cell ↔ IsLoose cell
  wrapped : after ≠ cell → ∃ kept paragraph : Tag,
    after = ⟨kept, [.element paragraph cell.children]⟩ ∧
    kept.name = cell.tag.name ∧ paragraph.name = "p" ∧
    paragraph.attributes.entries = cell.tag.attributes.entries.filter (IsMoving ·.1) ∧
    kept.attributes.entries = cell.tag.attributes.entries.filter (¬ IsMoving ·.1) ∧
    moveAttributes cell.tag = (kept, paragraph)

/-- The children of a row that are `div` elements are its cells. -/
inductive WrapsChild : Node → Node → Prop
  | cell {cell after : Element} (isCell : cell.tag.name = "div") (wraps : Wraps cell after) :
      WrapsChild cell.node after.node
  | other {node : Node} (noCell : ∀ element ∈ node.element?, element.tag.name ≠ "div") :
      WrapsChild node node

/-- The top-level `div` elements are rows. -/
inductive WrapsRow : Node → Node → Prop
  | row {tag : Tag} {children after : List Node} (isRow : tag.name = "div")
      (each : List.Forall₂ WrapsChild children after) :
      WrapsRow (.element tag children) (.element tag after)
  | other {node : Node} (noRow : ∀ element ∈ node.element?, element.tag.name ≠ "div") :
      WrapsRow node node

/-- A wrapped cell has one paragraph and the attributes that do not move. -/
theorem wrap_eq (cell : Element) :
    wrap cell =
      ⟨⟨cell.tag.name, ⟨cell.tag.attributes.entries.filter (¬ IsMoving ·.1)⟩⟩,
        [.element ⟨"p", ⟨cell.tag.attributes.entries.filter (IsMoving ·.1)⟩⟩ cell.children]⟩ := by
  simp only [wrap, wrapper, moves_eq, decide_not]

/-- A wrapped cell is one element larger. -/
theorem wrap_ne (cell : Element) : wrap cell ≠ cell := by
  intro same
  have sizes : sizeOf (wrap cell).children = sizeOf cell.children := by rw [same]
  rw [wrap_eq] at sizes
  simp only [List.cons.sizeOf_spec, List.nil.sizeOf_spec, Node.element.sizeOf_spec] at sizes
  omega

/-- A cell with loose content is wrapped. -/
theorem wraps_wrap {cell : Element} (distinct : cell.tag.attributes.keys.Nodup)
    (loose : IsLoose cell) : Wraps cell (wrap cell) where
  changed := ⟨fun _ => loose, fun _ => wrap_ne cell⟩
  wrapped _ := ⟨_, _, wrap_eq cell, rfl, rfl, rfl, rfl, moveAttributes_eq distinct⟩

/-- A cell with neat content is left alone. -/
theorem wraps_self {cell : Element} (neat : ¬ IsLoose cell) : Wraps cell cell where
  changed := ⟨fun changed => absurd rfl changed, fun loose => absurd loose neat⟩
  wrapped changed := absurd rfl changed

theorem wrapsChild_process {node : Node}
    (distinct : ∀ tag ∈ node.tags, tag.attributes.keys.Nodup) :
    WrapsChild node (process node) := by
  cases node with
  | text content => exact .other fun element found => by cases found
  | comment content => exact .other fun element found => by cases found
  | element tag children =>
      rw [process]
      by_cases isCell : tag.name = "div"
      · by_cases loose : IsLoose ⟨tag, children⟩
        · rw [if_pos ⟨isCell, (needsWrapper_iff _).mpr loose⟩]
          exact .cell isCell (wraps_wrap (distinct tag List.mem_cons_self) loose)
        · rw [if_neg fun both => loose ((needsWrapper_iff _).mp both.2)]
          exact @WrapsChild.cell ⟨tag, children⟩ ⟨tag, children⟩ isCell (wraps_self loose)
      · rw [if_neg fun both => isCell both.1]
        exact .other fun element found => by cases found; exact isCell

theorem wrapsRow_wrapRow {node : Node}
    (distinct : ∀ tag ∈ node.tags, tag.attributes.keys.Nodup) :
    WrapsRow node (wrapRow node) := by
  cases node with
  | text content => exact .other fun element found => by cases found
  | comment content => exact .other fun element found => by cases found
  | element tag children =>
      rw [wrapRow]
      split
      · rename_i isRow
        refine .row isRow (List.forall₂_map_right_iff.mpr (List.forall₂_same.mpr ?_))
        intro child member
        exact wrapsChild_process fun inner within =>
          distinct inner (List.mem_cons_of_mem _ (Node.mem_tagsOf.mpr ⟨child, member, within⟩))
      · rename_i noRow
        exact .other fun element found => by cases found; exact noRow

/-- A paragraph is a proper wrapper. -/
theorem needsWrapper_wrap (cell : Element) : needsWrapper (wrap cell) = false := by
  rw [wrap_eq]
  rfl

theorem process_process (node : Node) : process (process node) = process node := by
  cases node with
  | text content => rfl
  | comment content => rfl
  | element tag children =>
      rw [process]
      split
      · rw [Element.node, process, if_neg (by rw [needsWrapper_wrap]; simp)]
      · rename_i neat
        rw [process, if_neg neat]

theorem textContent_process (node : Node) : (process node).textContent = node.textContent := by
  cases node with
  | text content => rfl
  | comment content => rfl
  | element tag children =>
      rw [process]
      split
      · rw [wrap_eq, Element.node]
        simp only [Node.textContent, Node.textContents, String.append_empty]
      · rfl

end Cell

theorem wrapRow_wrapRow (node : Node) : wrapRow (wrapRow node) = wrapRow node := by
  cases node with
  | text content => rfl
  | comment content => rfl
  | element tag children =>
      rw [wrapRow]
      split
      · rename_i isRow
        rw [wrapRow, if_pos isRow, List.map_map]
        congr 1
        exact List.map_congr_left fun child _ => Cell.process_process child
      · rename_i noRow
        rw [wrapRow, if_neg noRow]

theorem textContents_map {change : Node → Node}
    (same : ∀ node, (change node).textContent = node.textContent) (nodes : List Node) :
    Node.textContents (nodes.map change) = Node.textContents nodes := by
  induction nodes with
  | nil => rfl
  | cons node rest inductionHypothesis =>
      rw [List.map_cons, Node.textContents, Node.textContents, same, inductionHypothesis]

theorem textContent_wrapRow (node : Node) : (wrapRow node).textContent = node.textContent := by
  cases node with
  | text content => rfl
  | comment content => rfl
  | element tag children =>
      rw [wrapRow]
      split
      · rw [Node.textContent, Node.textContent, textContents_map Cell.textContent_process]
      · rfl

/-- Wrapping changes cells with loose content only, keeps the text, and is idempotent. -/
theorem wrapCells_exact {nodes : List Node}
    (distinct : ∀ tag ∈ Node.tagsOf nodes, tag.attributes.keys.Nodup) :
    List.Forall₂ Cell.WrapsRow nodes (wrapCells nodes) ∧
    Node.textContents (wrapCells nodes) = Node.textContents nodes ∧
    wrapCells (wrapCells nodes) = wrapCells nodes := by
  refine ⟨List.forall₂_map_right_iff.mpr (List.forall₂_same.mpr ?_),
    textContents_map textContent_wrapRow nodes, ?_⟩
  · intro node member
    exact Cell.wrapsRow_wrapRow fun tag within =>
      distinct tag (Node.mem_tagsOf.mpr ⟨node, member, within⟩)
  · rw [wrapCells, wrapCells, List.map_map]
    exact List.map_congr_left fun node _ => wrapRow_wrapRow node

/-- Cells with loose text, with pictures, and without content. -/
def looseRows : List Node :=
  [.element ⟨"div", ∅⟩
      [.element ⟨"div", ⟨[("data-aue-prop", "t"), ("id", "k"), ("class", "c")]⟩⟩
          [.text "a ", .element ⟨"b", ∅⟩ [.text "b"]],
        .element ⟨"div", ∅⟩ [.comment "c", .element ⟨"picture", ∅⟩ [], .text "\u2003"],
        .element ⟨"div", ⟨[("data-richtext", "")]⟩⟩ [.element ⟨"picture", ∅⟩ [], .text "d"],
        .element ⟨"div", ⟨[("class", "e")]⟩⟩ [],
        .element ⟨"span", ⟨[("class", "f")]⟩⟩ [.text "f"]],
    .element ⟨"section", ∅⟩ [.element ⟨"div", ∅⟩ [.element ⟨"div", ∅⟩ [.text "g"]]]]

/-- The same rows, with paragraphs. -/
def neatRows : List Node :=
  [.element ⟨"div", ∅⟩
      [.element ⟨"div", ⟨[("id", "k")]⟩⟩
          [.element ⟨"p", ⟨[("data-aue-prop", "t"), ("class", "c")]⟩⟩
            [.text "a ", .element ⟨"b", ∅⟩ [.text "b"]]],
        .element ⟨"div", ∅⟩ [.comment "c", .element ⟨"picture", ∅⟩ [], .text "\u2003"],
        .element ⟨"div", ∅⟩
          [.element ⟨"p", ⟨[("data-richtext", "")]⟩⟩ [.element ⟨"picture", ∅⟩ [], .text "d"]],
        .element ⟨"div", ⟨[("class", "e")]⟩⟩ [],
        .element ⟨"span", ⟨[("class", "f")]⟩⟩ [.text "f"]],
    .element ⟨"section", ∅⟩ [.element ⟨"div", ∅⟩ [.element ⟨"div", ∅⟩ [.text "g"]]]]

/-- The loose cells are wrapped, and then left alone. -/
theorem wrapCells_exact_looseRows :
    (∀ tag ∈ Node.tagsOf looseRows, tag.attributes.keys.Nodup) ∧
      wrapCells looseRows = neatRows ∧ List.Forall₂ Cell.WrapsRow looseRows neatRows ∧
      Node.textContents neatRows = Node.textContents looseRows ∧ wrapCells neatRows = neatRows := by
  have distinct : ∀ tag ∈ Node.tagsOf looseRows, tag.attributes.keys.Nodup := by decide
  have wrapped : wrapCells looseRows = neatRows := by decide +kernel
  obtain ⟨each, sameText, again⟩ := wrapCells_exact distinct
  rw [wrapped] at each sameText again
  exact ⟨distinct, wrapped, each, sameText, again⟩

end Stencil
