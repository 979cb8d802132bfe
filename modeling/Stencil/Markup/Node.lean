import Stencil.OrderedMap

/-! The tree of a markup fragment: elements, texts and comments. -/

namespace Stencil

/-- An element without its children. -/
structure Tag where
  name : String
  attributes : OrderedMap String := ∅
deriving Repr, DecidableEq, Inhabited

/-- The nodes of a tree. -/
inductive Node where
  | element (tag : Tag) (children : List Node)
  | text (content : String)
  | comment (content : String)
deriving Repr, Inhabited

/-- Elements that never have children or an end tag. -/
def voidNames : List String :=
  ["area", "base", "br", "col", "embed", "hr", "img", "input", "link", "meta", "source", "track",
    "wbr"]

/-- Elements whose text is neither parsed nor escaped. -/
def rawTextNames : List String := ["script", "style"]

namespace Tag

/-- Void elements have no end tags. -/
def isVoid (tag : Tag) : Bool := voidNames.contains tag.name

/-- Raw text elements have no markup in them. -/
def isRawText (tag : Tag) : Bool := rawTextNames.contains tag.name

/-- Element names are held in ASCII lower case. -/
def named (name : String) : Tag := ⟨name.toLower, ∅⟩

/-- The value of an attribute. -/
def get? (tag : Tag) (name : String) : Option String := tag.attributes.get? name

/-- Whether an attribute is there. -/
def has (tag : Tag) (name : String) : Bool := tag.attributes.contains name

/-- An attribute has a new value. -/
def set (tag : Tag) (name value : String) : Tag :=
  { tag with attributes := tag.attributes.insert name value }

/-- An attribute is taken away. -/
def remove (tag : Tag) (name : String) : Tag :=
  { tag with attributes := tag.attributes.erase name }

end Tag

namespace Node

mutual
/-- Nodes are compared from the outside inwards. -/
def decideEqual : (first second : Node) → Decidable (first = second)
  | element tag children, element tag' children' =>
      if sameTag : tag = tag' then
        match decideEqualAll children children' with
        | isTrue sameChildren => isTrue (by rw [sameTag, sameChildren])
        | isFalse different => isFalse (by intro same; injection same; contradiction)
      else isFalse (by intro same; injection same; contradiction)
  | text content, text content' =>
      if same : content = content' then isTrue (by rw [same])
      else isFalse (by intro equal; injection equal; contradiction)
  | comment content, comment content' =>
      if same : content = content' then isTrue (by rw [same])
      else isFalse (by intro equal; injection equal; contradiction)
  | element _ _, text _ => isFalse (by simp)
  | element _ _, comment _ => isFalse (by simp)
  | text _, element _ _ => isFalse (by simp)
  | text _, comment _ => isFalse (by simp)
  | comment _, element _ _ => isFalse (by simp)
  | comment _, text _ => isFalse (by simp)

def decideEqualAll : (first second : List Node) → Decidable (first = second)
  | [], [] => isTrue rfl
  | node :: rest, node' :: rest' =>
      match decideEqual node node', decideEqualAll rest rest' with
      | isTrue same, isTrue sameRest => isTrue (by rw [same, sameRest])
      | isFalse different, _ => isFalse (by intro same; injection same; contradiction)
      | _, isFalse different => isFalse (by intro same; injection same; contradiction)
  | [], _ :: _ => isFalse (by simp)
  | _ :: _, [] => isFalse (by simp)
end

instance : DecidableEq Node := decideEqual

mutual
/-- Comments contribute no text. -/
def textContent : Node → String
  | element _ children => textContents children
  | text content => content
  | comment _ => ""

def textContents : List Node → String
  | [] => ""
  | node :: rest => node.textContent ++ textContents rest
end

end Node

/-- An element with its children. -/
structure Element where
  tag : Tag
  children : List Node := []
deriving Repr, DecidableEq, Inhabited

namespace Element

/-- An element as a node. -/
def node (element : Element) : Node := .element element.tag element.children

/-- The texts inside an element, one after the other. -/
def textContent (element : Element) : String := Node.textContents element.children

end Element

namespace Node

/-- The element that a node is. -/
def element? : Node → Option Element
  | element tag children => some ⟨tag, children⟩
  | text _ => none
  | comment _ => none

/-- The content of a text node. -/
def text? : Node → Option String
  | text content => some content
  | _ => none

end Node

/-- The elements among sibling nodes. -/
def elementsOf (nodes : List Node) : List Element := nodes.filterMap Node.element?

namespace Element

/-- The elements among the children of an element. -/
def elementChildren (element : Element) : List Element := elementsOf element.children

/-- An element without its children. -/
def shallow (element : Element) : Element := ⟨element.tag, []⟩

end Element

/-- The nodes of a forest with their depths, each before its descendants. -/
inductive Listed where
  | element (tag : Tag)
  | text (content : String)
  | comment (content : String)
deriving Repr, DecidableEq

namespace Node

mutual
def listing (depth : Nat) : Node → List (Nat × Listed)
  | element tag children => (depth, .element tag) :: listings (depth + 1) children
  | text content => [(depth, .text content)]
  | comment content => [(depth, .comment content)]

def listings (depth : Nat) : List Node → List (Nat × Listed)
  | [] => []
  | node :: rest => listing depth node ++ listings depth rest
end

end Node

end Stencil
