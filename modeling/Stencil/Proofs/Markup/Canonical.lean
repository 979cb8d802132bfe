import Mathlib.Data.List.Chain
import Stencil.Proofs.Markup.Positions

/-! The form of the nodes that a source is read as, and that they are read as again. -/

namespace Stencil.Markup

/-- A name without ASCII capitals. -/
def IsSmall (name : String) : Prop := ∀ character ∈ name.toList, character.isUpper = false

-- Only the characters of the name are looked through, and not all that there are.
instance (name : String) : Decidable (IsSmall name) := List.decidableBAll _ _

/-- A tag whose name and keys are small, and whose keys are distinct. -/
structure SmallTag (tag : Tag) : Prop where
  name : IsSmall tag.name
  keys : ∀ key ∈ tag.attributes.keys, IsSmall key
  distinct : tag.attributes.keys.Nodup

/-- No two texts stand side by side. -/
def Apart (nodes : List Node) : Prop :=
  nodes.IsChain fun first second => first.text? = none ∨ second.text? = none

/-- A content that was cut out of a source at the first end tag of a name. -/
def CutOut (source name content : List Char) : Prop :=
  ∃ region behind after, region <:+ source ∧ CutsAtEndTag name region content behind after

/-- A node as it is read from a source. -/
inductive Canonical (source : List Char) : Node → Prop
  | element {tag : Tag} {children : List Node} (small : SmallTag tag)
      (void : tag.isVoid = true → children = [])
      (raw : tag.isRawText = true → children = [] ∨
        ∃ content, children = [.text content] ∧ CutOut source tag.name.toList content.toList)
      (apart : Apart children) (inside : ∀ child ∈ children, Canonical source child) :
      Canonical source (.element tag children)
  | text {content : String} (filled : content ≠ "") : Canonical source (.text content)
  | comment {content : String} (unended : ¬ "-->".toList <:+: content.toList) :
      Canonical source (.comment content)

/-- Siblings as they are read from a source. -/
structure CanonicalAll (source : List Char) (nodes : List Node) : Prop where
  apart : Apart nodes
  each : ∀ node ∈ nodes, Canonical source node

namespace CanonicalAll

variable {source : List Char} {nodes : List Node}

theorem nil : CanonicalAll source [] := ⟨.nil, by simp⟩

/-- The form does not depend on the direction. -/
theorem reverse (canonical : CanonicalAll source nodes) : CanonicalAll source nodes.reverse where
  apart := List.isChain_reverse.mpr (canonical.apart.imp fun _ _ apart => apart.symm)
  each := fun node member => canonical.each node (List.mem_reverse.mp member)

/-- What is no text may stand beside everything. -/
theorem cons (canonical : CanonicalAll source nodes) {node : Node} (textless : node.text? = none)
    (here : Canonical source node) : CanonicalAll source (node :: nodes) where
  apart := by
    cases nodes with
    | nil => exact .singleton node
    | cons first rest => exact .cons_cons (.inl textless) canonical.apart
  each := List.forall_mem_cons.mpr ⟨here, canonical.each⟩

/-- A text that joins a text before it stands beside what that text stood beside. -/
theorem joinText (canonical : CanonicalAll source nodes) (content : String) :
    CanonicalAll source (Forest.joinText content nodes) := by
  unfold Forest.joinText
  split
  · exact canonical
  · rename_i filled
    obtain ⟨apart, each⟩ := canonical
    split
    · rename_i before others
      obtain ⟨-, behind⟩ := List.forall_mem_cons.mp each
      have joined : Canonical source (.text (before ++ content)) := .text (by simp [filled])
      refine ⟨?_, List.forall_mem_cons.mpr ⟨joined, behind⟩⟩
      cases others with
      | nil => exact .singleton _
      | cons first rest =>
          rw [Apart, List.isChain_cons_cons] at apart ⊢
          -- The text in front had no text behind it, and it has none now.
          have textless : first.text? = none := apart.1.resolve_left (by simp [Node.text?])
          exact ⟨.inr textless, apart.2⟩
    · rename_i noText
      refine ⟨?_, List.forall_mem_cons.mpr ⟨.text filled, each⟩⟩
      cases nodes with
      | nil => exact .singleton _
      | cons first rest =>
          refine .cons_cons (.inr ?_) apart
          cases first with
          | text before => exact (noText before rest rfl).elim
          | element tag children => rfl
          | comment content => rfl

end CanonicalAll

/-! A construction keeps the form. -/

namespace Forest

/-- An open element may have children, all of them in the form. -/
structure FrameFits (source : List Char) (frame : Frame) : Prop where
  small : SmallTag frame.tag
  notVoid : frame.tag.isVoid = false
  notRaw : frame.tag.isRawText = false
  children : CanonicalAll source frame.children

/-- A forest all of whose nodes are in the form. -/
structure Fits (source : List Char) (forest : Forest) : Prop where
  frames : ∀ frame ∈ forest.frames, FrameFits source frame
  roots : CanonicalAll source forest.roots

/-- A step that brings in nodes of the form only. -/
def StepFits (source : List Char) : Step → Prop
  | .openElement tag => SmallTag tag ∧ tag.isVoid = false ∧ tag.isRawText = false
  | .append node => node.text? = none ∧ Canonical source node
  | .text _ => True
  | .close _ => True

section

variable {source : List Char} {forest : Forest}

theorem fits_empty : Fits source .empty := ⟨by simp [empty], .nil⟩

/-- An element that is closed is in the form, as its children were. -/
theorem FrameFits.node {frame : Frame} (fits : FrameFits source frame) :
    Canonical source frame.node :=
  have children := fits.children.reverse
  .element fits.small (by simp [fits.notVoid]) (by simp [fits.notRaw]) children.apart children.each

/-- An edit that keeps the form of siblings keeps it. -/
theorem Fits.edit (fits : Fits source forest) {change : List Node → List Node}
    (keeps : ∀ siblings, CanonicalAll source siblings → CanonicalAll source (change siblings)) :
    Fits source (forest.edit change) := by
  obtain ⟨frames, roots⟩ := forest
  cases frames with
  | nil => exact ⟨fits.frames, keeps roots fits.roots⟩
  | cons frame outer =>
      obtain ⟨innermost, others⟩ := List.forall_mem_cons.mp fits.frames
      have filled : FrameFits source { frame with children := change frame.children } :=
        { innermost with children := keeps _ innermost.children }
      exact ⟨List.forall_mem_cons.mpr ⟨filled, others⟩, fits.roots⟩

/-- A node of the form other than a text may come behind any other. -/
theorem Fits.append (fits : Fits source forest) {node : Node} (textless : node.text? = none)
    (canonical : Canonical source node) : Fits source (forest.append node) :=
  fits.edit fun _ siblings => siblings.cons textless canonical

/-- A closed element has the form, as its children do. -/
theorem Fits.closeInnermost (fits : Fits source forest) : Fits source forest.closeInnermost := by
  unfold Forest.closeInnermost
  split
  · exact fits
  · rename_i frame outer innermost
    obtain ⟨frameFits, others⟩ := List.forall_mem_cons.mp (innermost ▸ fits.frames)
    have outside : Fits source ⟨outer, forest.roots⟩ := ⟨others, fits.roots⟩
    exact outside.append rfl frameFits.node

/-- Closed elements have the form. -/
theorem Fits.closeInner (fits : Fits source forest) (count : Nat) :
    Fits source (closeInner count forest) := by
  induction count generalizing forest with
  | zero => exact fits
  | succ count inductionHypothesis => exact inductionHypothesis fits.closeInnermost

theorem Fits.step (fits : Fits source forest) {step : Step} (stepFits : StepFits source step) :
    Fits source (forest.step step) := by
  cases step with
  | openElement tag =>
      obtain ⟨small, notVoid, notRaw⟩ := stepFits
      exact ⟨List.forall_mem_cons.mpr ⟨⟨small, notVoid, notRaw, .nil⟩, fits.frames⟩, fits.roots⟩
  | append node => exact fits.append stepFits.1 stepFits.2
  | text content => exact fits.edit fun _ siblings => siblings.joinText content
  | close name =>
      rw [Forest.step, close]
      split
      · exact fits.closeInner _
      · exact fits

theorem Fits.foldl_step (fits : Fits source forest) {steps : List Step}
    (stepsFit : ∀ step ∈ steps, StepFits source step) :
    Fits source (steps.foldl Forest.step forest) := by
  induction steps generalizing forest with
  | nil => exact fits
  | cons step rest inductionHypothesis =>
      obtain ⟨here, behind⟩ := List.forall_mem_cons.mp stepsFit
      exact inductionHypothesis (fits.step here) behind

/-- What is built has the form. -/
theorem Fits.finish (fits : Fits source forest) : CanonicalAll source forest.finish :=
  (fits.closeInner _).roots.reverse

/-- Steps that bring in nodes of the form build siblings of the form. -/
theorem canonicalAll_build {steps : List Step} (stepsFit : ∀ step ∈ steps, StepFits source step) :
    CanonicalAll source (build steps) :=
  (fits_empty.foldl_step stepsFit).finish

end

end Forest

/-! Nodes of the form are in normal form. -/

section

variable {source : List Char}

/-- A node that stands apart from its siblings is not joined. -/
theorem join_of_apart {node : Node} {rest : List Node} (filled : node ≠ .text "")
    (apart : Apart (node :: rest)) : node.join rest = node :: rest := by
  cases node with
  | element tag children => rfl
  | comment content => rfl
  | text content =>
      have nonempty : content ≠ "" := fun empty => filled (congrArg Node.text empty)
      cases rest with
      | nil => rw [Node.join, if_neg nonempty]; simp
      | cons first others =>
          have textless : first.text? = none :=
            (List.isChain_cons_cons.mp apart).1.resolve_left (by simp [Node.text?])
          cases first with
          | text after => cases textless
          | element tag children => rw [Node.join, if_neg nonempty]; simp
          | comment after => rw [Node.join, if_neg nonempty]; simp

/-- No text is empty. -/
theorem Canonical.filled {node : Node} (canonical : Canonical source node) : node ≠ .text "" := by
  rintro rfl
  cases canonical with
  | text filled => exact filled rfl

mutual
theorem Canonical.normal_eq : (node : Node) → Canonical source node → node.normal = node
  | .element tag children, .element _ void _ apart inside => by
      rw [Node.normal, normals_eq_self children apart inside]
      split
      · rename_i isVoid
        rw [void isVoid]
      · rfl
  | .text _, _ => rfl
  | .comment _, _ => rfl

/-- Nodes of the form are in normal form. -/
theorem normals_eq_self : (nodes : List Node) → Apart nodes →
    (∀ node ∈ nodes, Canonical source node) → Node.normals nodes = nodes
  | [], _, _ => rfl
  | node :: rest, apart, each => by
      obtain ⟨here, behind⟩ := List.forall_mem_cons.mp each
      rw [Node.normals, Canonical.normal_eq node here,
        normals_eq_self rest (List.IsChain.tail apart) behind, join_of_apart here.filled apart]
end

end

/-! With plain names, nodes of the form are legible. -/

mutual
/-- Plain names in all tags, and no text that starts with a byte order mark. -/
def Plain : Node → Prop
  | .element tag children =>
      isPlainName tag.name = true ∧ (∀ key ∈ tag.attributes.keys, isPlainName key = true) ∧
        PlainAll children
  | .text content => Unmarked content.toList
  | .comment _ => True

def PlainAll : List Node → Prop
  | [] => True
  | node :: rest => Plain node ∧ PlainAll rest
end

/-- No end tag of the name is ended in a content that was cut out. -/
theorem CutOut.not_hasEndTag {source name content : List Char} (cutOut : CutOut source name content)
    (tagless : '<' ∉ name) : ¬ HasEndTag name (content ++ ['<']) := by
  obtain ⟨region, behind, after, -, cut⟩ := cutOut
  rintro ⟨found, suffix, starts⟩
  obtain rfl | ⟨later, rfl, earlier, whole⟩ := List.suffix_concat_iff.mp suffix
  · obtain ⟨spelled, tail, same, -⟩ := starts
    cases same
  · by_cases nonempty : later = []
    · subst nonempty
      obtain ⟨spelled, tail, same, -⟩ := starts
      cases same
    · exact cut.first earlier later whole.symm nonempty
        (startsEndTag_append nonempty tagless starts behind)

section

variable {source : List Char}

/-- A content that was cut out can be written as raw text. -/
theorem legibleRaw_of_cutOut {tag : Tag} (plain : PlainTag tag) {children : List Node}
    (raw : children = [] ∨
      ∃ content, children = [.text content] ∧ CutOut source tag.name.toList content.toList) :
    LegibleRaw tag.name children := by
  obtain rfl | ⟨content, rfl, cutOut⟩ := raw
  · have nowhere : ¬ HasEndTag tag.name.toList [] := rawText_eq_self_iff.mp rfl
    exact ⟨by simp, fun has => nowhere (hasEndTag_of_append plain.tagless has)⟩
  · refine ⟨by simp [Node.text?], ?_⟩
    simpa [Node.textContents, Node.textContent] using cutOut.not_hasEndTag plain.tagless

mutual
theorem Canonical.legible : (node : Node) → Canonical source node → Plain node → Legible node
  | .element tag children, .element small _ raw _ inside, plain => by
      rw [Plain] at plain
      rw [Legible]
      obtain ⟨name, keys, others⟩ := plain
      have plainTag : PlainTag tag := ⟨name, keys, small.distinct⟩
      exact ⟨plainTag, fun isRaw => legibleRaw_of_cutOut plainTag (raw isRaw),
        legibleAll_of_canonical children inside others⟩
  | .text _, _, plain => by
      rw [Plain] at plain
      rw [Legible]
      exact plain
  | .comment _, .comment unended, _ => by
      rw [Legible]
      exact unended

/-- Nodes of the form with plain names are legible. -/
theorem legibleAll_of_canonical : (nodes : List Node) →
    (∀ node ∈ nodes, Canonical source node) → PlainAll nodes → LegibleAll nodes
  | [], _, _ => by
      rw [LegibleAll]
      trivial
  | node :: rest, each, plain => by
      rw [PlainAll] at plain
      rw [LegibleAll]
      obtain ⟨here, behind⟩ := List.forall_mem_cons.mp each
      exact ⟨Canonical.legible node here plain.1, legibleAll_of_canonical rest behind plain.2⟩
end

/-- What is written out of siblings of the form is read as them again. -/
theorem CanonicalAll.parse_htmlOf_eq {nodes : List Node} (canonical : CanonicalAll source nodes)
    (plain : PlainAll nodes) : parse (htmlOf nodes) = .ok nodes := by
  have read := (legibleAll_of_canonical nodes canonical.each plain).parse_htmlOf_eq
  rwa [normals_eq_self nodes canonical.apart canonical.each] at read

end

end Stencil.Markup
