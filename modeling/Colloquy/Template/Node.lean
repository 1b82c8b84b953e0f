import Colloquy.Dictionary

/-!
# Template Trees

A template is a list of nodes: text, and elements that stand for something to be done. An element is
written either as a leaf, which has no place for content, or as a container, which has one even when
it is empty. Content policies tell the two apart, so they are two constructors, and a leaf with
children is not a tree at all.

An element is also what a handler is given to work on. `Element` is that view: a tag with an
optional body, where no body means a leaf.

## Main definitions

* `Tag`: The name and the attributes of an element.
* `Node`: Text, a leaf or a container.
* `Element`: An element apart from the tree it stands in.
* `Element.withChild`: An element with one more child.
-/

namespace Colloquy

/-- The name and the attributes of an element. A repeated attribute keeps its last value. -/
structure Tag where
  name : String
  attributes : Dictionary String := ∅
  deriving DecidableEq, Repr, Inhabited

namespace Tag

/-- The tag with one attribute set, in place of an earlier value of that name. -/
def withAttribute (tag : Tag) (name value : String) : Tag :=
  { tag with attributes := tag.attributes.insert name value }

/-- The value of an attribute. -/
def attribute? (tag : Tag) (name : String) : Option String :=
  tag.attributes.get? name

end Tag

/-- One node of a template. -/
inductive Node where
  | text (content : String)
  | leaf (tag : Tag)
  | container (tag : Tag) (children : List Node)
  deriving Repr, Inhabited

/-- An element: its tag, and its children if it was written with a body. -/
structure Element where
  tag : Tag
  body : Option (List Node)
  deriving Repr, Inhabited

namespace Element

/-- The children of an element; a leaf has none. -/
def children (element : Element) : List Node :=
  element.body.getD []

/-- Whether an element has children, which an empty container has not. -/
def hasChildren (element : Element) : Bool :=
  !element.children.isEmpty

/-- The node that an element is. -/
def toNode (element : Element) : Node :=
  match element.body with
  | none => .leaf element.tag
  | some children => .container element.tag children

/-- The element with one more child at its end. A leaf becomes a container. -/
def withChild (element : Element) (child : Node) : Element :=
  { element with body := some (element.children ++ [child]) }

end Element

/-- The element that a node is, unless it is text. -/
def Node.element? : Node → Option Element
  | .text _ => none
  | .leaf tag => some ⟨tag, none⟩
  | .container tag children => some ⟨tag, some children⟩

end Colloquy
