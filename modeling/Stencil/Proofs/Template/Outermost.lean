import Stencil.Proofs.Template.Cached

/-! The templates of a file: its outermost `template` elements, in document order. -/

namespace Stencil

/-- An element of a forest with the elements around it, the innermost first. -/
structure Enclosed where
  around : List Tag
  element : Element
deriving Repr, DecidableEq

namespace Node

mutual
/-- The elements of a tree at any depth, each before the elements in it. -/
def enclosed (around : List Tag) : Node → List Enclosed
  | .element tag children => ⟨around, ⟨tag, children⟩⟩ :: enclosedAll (tag :: around) children
  | .text _ => []
  | .comment _ => []

def enclosedAll (around : List Tag) : List Node → List Enclosed
  | [] => []
  | node :: rest => node.enclosed around ++ enclosedAll around rest
end

mutual
/-- What is around a node is around all that is in it. -/
theorem around_subset_of_mem_enclosed {around : List Tag} {node : Node} {entry : Enclosed}
    (member : entry ∈ node.enclosed around) : around ⊆ entry.around := by
  cases node with
  | element tag children =>
      rcases List.mem_cons.mp member with rfl | inside
      · exact fun _ held => held
      · exact fun _ held =>
          around_subset_of_mem_enclosedAll inside (List.mem_cons_of_mem _ held)
  | text content => cases member
  | comment content => cases member

/-- What is around a forest is around all elements in it. -/
theorem around_subset_of_mem_enclosedAll {around : List Tag} {nodes : List Node}
    {entry : Enclosed} (member : entry ∈ enclosedAll around nodes) : around ⊆ entry.around := by
  cases nodes with
  | nil => cases member
  | cons node rest =>
      rcases List.mem_append.mp member with here | behind
      · exact around_subset_of_mem_enclosed here
      · exact around_subset_of_mem_enclosedAll behind
end

end Node

/-- Whether a tag is that of a template. -/
def Tag.isTemplate (tag : Tag) : Bool := tag.name = "template"

/-- A template that is in no other template. -/
def Enclosed.isOutermost (entry : Enclosed) : Bool :=
  entry.element.tag.isTemplate && entry.around.all fun tag => !tag.isTemplate

namespace Template

/-- Nothing inside a template is outermost. -/
theorem filter_enclosedAll_of_template {around : List Tag} {tag : Tag} (within : tag ∈ around)
    (template : tag.isTemplate = true) (nodes : List Node) :
    (Node.enclosedAll around nodes).filter Enclosed.isOutermost = [] := by
  rw [List.filter_eq_nil_iff]
  intro entry member outer
  have free := (Bool.and_eq_true_iff.mp outer).2
  have unlike := List.all_eq_true.mp free tag (Node.around_subset_of_mem_enclosedAll member within)
  rw [template] at unlike
  cases unlike

mutual
/-- The outermost templates are those with no template around them. -/
theorem outermost_eq_filter {around : List Tag}
    (free : (around.all fun tag => !tag.isTemplate) = true) (node : Node) :
    outermost node =
      ((node.enclosed around).filter Enclosed.isOutermost).map Enclosed.element := by
  cases node with
  | element tag children =>
      rw [outermost, Node.enclosed]
      by_cases template : tag.name = "template"
      · have known : tag.isTemplate = true := decide_eq_true template
        have outer : Enclosed.isOutermost ⟨around, ⟨tag, children⟩⟩ = true := by
          rw [Enclosed.isOutermost, known, free, Bool.and_true]
        rw [if_pos template, List.filter_cons_of_pos outer,
          filter_enclosedAll_of_template List.mem_cons_self known]
        rfl
      · have known : tag.isTemplate = false := decide_eq_false template
        have plain : Enclosed.isOutermost ⟨around, ⟨tag, children⟩⟩ ≠ true := by
          rw [Enclosed.isOutermost, known, Bool.false_and]
          exact Bool.false_ne_true
        rw [if_neg template, List.filter_cons_of_neg plain]
        apply outermostOf_eq_filter
        rw [List.all_cons, known, free]
        rfl
  | text content => rfl
  | comment content => rfl

/-- The walk that stops at templates meets the templates that are in no other, in document order. -/
theorem outermostOf_eq_filter {around : List Tag}
    (free : (around.all fun tag => !tag.isTemplate) = true) (nodes : List Node) :
    outermostOf nodes =
      ((Node.enclosedAll around nodes).filter Enclosed.isOutermost).map Enclosed.element := by
  cases nodes with
  | nil => rfl
  | cons node rest =>
      rw [outermostOf, outermost_eq_filter free node, outermostOf_eq_filter free rest,
        Node.enclosedAll, List.filter_append, List.map_append]
end

/-- A template has a new identifier if no template before its position has the same. -/
def isNew (templates : List Template) (entry : Template × Nat) : Bool :=
  (templates.take entry.2).all fun earlier => earlier.id ≠ entry.1.id

/-- The templates without those whose identifier an earlier one has. -/
def withNewIds (templates : List Template) : List Template :=
  (templates.zipIdx.filter (isNew templates)).map Prod.fst

/-- An identifier is new behind a template that has another one. -/
theorem isNew_cons (first : Template) (rest : List Template) (entry : Template × Nat) :
    isNew (first :: rest) (entry.1, entry.2 + 1) =
      (decide (first.id ≠ entry.1.id) && isNew rest entry) := rfl

/-- Behind templates whose identifiers were seen, those are kept that are new among the others. -/
theorem keepFirst_eq_filter (seen : List String) (templates : List Template) :
    keepFirst seen templates =
      (templates.zipIdx.filter fun entry =>
        decide (entry.1.id ∉ seen) && isNew templates entry).map Prod.fst := by
  induction templates generalizing seen with
  | nil => rfl
  | cons first rest inductionHypothesis =>
      have shifted : (first :: rest).zipIdx =
          (first, 0) :: rest.zipIdx.map fun entry => (entry.1, entry.2 + 1) := by
        rw [List.zipIdx_cons, List.zipIdx_succ]
      have new : isNew (first :: rest) (first, 0) = true := rfl
      rw [keepFirst, shifted, List.filter_cons, List.filter_map, new, Bool.and_true]
      -- Behind the first template, those are new that are new there and have another identifier.
      by_cases known : first.id ∈ seen
      · rw [if_pos known, if_neg (by simp [known]), inductionHypothesis, List.map_map]
        refine congrArg _ (List.filter_congr fun entry _ => ?_)
        rw [Function.comp, isNew_cons, ← Bool.and_assoc]
        congr 1
        by_cases same : first.id = entry.1.id
        · simp [← same, known]
        · simp [same]
      · rw [if_neg known, if_pos (by simp [known]), inductionHypothesis, List.map_cons,
          List.map_map]
        refine congrArg _ (congrArg _ (List.filter_congr fun entry _ => ?_))
        rw [Function.comp, isNew_cons, ← Bool.and_assoc]
        congr 1
        simp [eq_comm, Bool.and_comm]

/-- The first template of an identifier is the one that is kept. -/
theorem find?_keepFirst (seen : List String) (templates : List Template) (id : String) :
    (keepFirst seen templates).find? (·.id = id) =
      if id ∈ seen then none else templates.find? (·.id = id) := by
  induction templates generalizing seen with
  | nil => simp [keepFirst]
  | cons first rest inductionHypothesis =>
      rw [keepFirst]
      by_cases known : first.id ∈ seen
      · rw [if_pos known, inductionHypothesis]
        by_cases asked : id ∈ seen
        · rw [if_pos asked, if_pos asked]
        · have other : first.id ≠ id := fun same => asked (same ▸ known)
          rw [if_neg asked, if_neg asked, List.find?_cons_of_neg (by simpa using other)]
      · rw [if_neg known]
        by_cases same : first.id = id
        · have asked : id ∉ seen := same ▸ known
          rw [if_neg asked, List.find?_cons_of_pos (by simpa using same),
            List.find?_cons_of_pos (by simpa using same)]
        · rw [List.find?_cons_of_neg (by simpa using same), inductionHypothesis,
            List.find?_cons_of_neg (by simpa using same)]
          simp [Ne.symm same]

/-- A file has the outermost templates in order, the first under each identifier. -/
theorem parseFile_exact {path markup : String} {nodes : List Node}
    (parsed : parse markup = .ok nodes) :
    let outermost := (Node.enclosedAll [] nodes).filter Enclosed.isOutermost
    let declared := outermost.map fun entry =>
      let name := (entry.element.tag.get? "data-fly-name").getD ""
      Template.mk (TemplateKey.id ⟨path, name⟩) path name entry.element.children
    parseFile path markup = .ok (withNewIds declared) ∧
    ((withNewIds declared).map Template.id).Nodup ∧
    ∀ template ∈ declared, ∃ first,
      declared.find? (·.id = template.id) = some first ∧
      (withNewIds declared).find? (·.id = template.id) = some first := by
  intro outermost declared
  have made : (outermostOf nodes).map (ofElement path) = declared := by
    rw [outermostOf_eq_filter List.all_nil nodes, List.map_map]
    rfl
  have kept : keepFirst [] declared = withNewIds declared := by
    rw [keepFirst_eq_filter, withNewIds]
    refine congrArg _ (List.filter_congr fun entry _ => ?_)
    rw [decide_eq_true List.not_mem_nil, Bool.true_and]
  refine ⟨?_, kept ▸ nodup_keepFirst [] declared, fun template member => ?_⟩
  · rw [parseFile, parsed, ← kept, ← made]
    rfl
  · have present : (declared.find? (·.id = template.id)).isSome := by
      rw [List.find?_isSome]
      exact ⟨template, member, decide_eq_true rfl⟩
    obtain ⟨first, found⟩ := Option.isSome_iff_exists.mp present
    refine ⟨first, found, ?_⟩
    rw [← kept, find?_keepFirst, if_neg List.not_mem_nil, found]

/-- A template in another one, one inside an element, and a name used twice. -/
def nestedMarkup : String :=
  "<template><template/></template><b><template data-fly-name=X>1</template></b>" ++
    "<template data-fly-name=x>2</template>"

/-- What the file is read as. -/
def nestedNodes : List Node :=
  [.element ⟨"template", ∅⟩ [.element ⟨"template", ∅⟩ []],
    .element ⟨"b", ∅⟩ [.element ⟨"template", ⟨[("data-fly-name", "X")]⟩⟩ [.text "1"]],
    .element ⟨"template", ⟨[("data-fly-name", "x")]⟩⟩ [.text "2"]]

/-- The nested template and the second of the name are left out. -/
theorem parseFile_exact_nestedMarkup :
    parse nestedMarkup = .ok nestedNodes ∧
    parseFile "/t" nestedMarkup = .ok
      [⟨"faintly-template--t-", "/t", "", [.element ⟨"template", ∅⟩ []]⟩,
        ⟨"faintly-template--t-x", "/t", "X", [.text "1"]⟩] := by
  have parsed : parse nestedMarkup = .ok nestedNodes := by decide +kernel
  refine ⟨parsed, (parseFile_exact parsed).1.trans ?_⟩
  decide +kernel

end Template

end Stencil
