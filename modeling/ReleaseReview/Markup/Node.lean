import ReleaseReview.Fault

/-!
# Markup trees

A markup tree is an element with attributes and children, or a leaf: text, a comment, an
instruction or a document type. `Element` is an element taken out of its node. Searches come in two
kinds: `child?` and `childrenNamed` look at the children only, `within?` and `allWithin` at
everything below, in document order. `soleText?` is the text of a node that holds nothing but one
text, however deep.
-/

namespace ReleaseReview.Markup

/-- The kinds of leaves. Text is told apart by the element it stands in. -/
inductive LeafKind where
  | text
  | comment
  | instruction
  | doctype
  | script
  | stylesheet
  | template
  | rubyText
  | rubyParenthesis
  deriving DecidableEq, Inhabited

/-- The word for the kind of leaf in messages. -/
def LeafKind.word : LeafKind → String
  | .text => "NavigableString"
  | .comment => "Comment"
  | .instruction => "ProcessingInstruction"
  | .doctype => "Doctype"
  | .script => "Script"
  | .stylesheet => "Stylesheet"
  | .template => "TemplateString"
  | .rubyText => "RubyTextString"
  | .rubyParenthesis => "RubyParenthesisString"

/-- A node of a markup tree. -/
inductive Node where
  | element (name : String) (attributes : List (String × String)) (children : List Node)
  | leaf (kind : LeafKind) (content : String)
  deriving Inhabited

/-- An element: its name, its attributes and its children. -/
structure Element where
  name : String
  attributes : List (String × String)
  children : List Node
  deriving Inhabited

namespace Node

/-- The element that a node is, unless it is a leaf. -/
def element? : Node → Option Element
  | .element name attributes children => some ⟨name, attributes, children⟩
  | _ => none

/-- The name of an element; a leaf has none. -/
def name? : Node → Option String
  | .element name _ _ => some name
  | _ => none

/-- The content of a leaf. -/
def content? : Node → Option String
  | .element _ _ _ => none
  | .leaf _ content => some content

/-- The word for the kind of node in messages. -/
def kind : Node → String
  | .element _ _ _ => "Tag"
  | .leaf kind _ => kind.word

mutual

/-- The content of a leaf, or of the leaf at the end of a chain of only children. -/
def soleText? : Node → Option String
  | .element _ _ children => soleTextOf? children
  | .leaf _ content => some content

/-- The sole text of a list with one node. -/
def soleTextOf? : List Node → Option String
  | [] => none
  | [node] => node.soleText?
  | _ :: _ :: _ => none

end

mutual

/-- The elements of a tree in document order, its root first. -/
def elements : Node → List Element
  | .element name attributes children => ⟨name, attributes, children⟩ :: elementsOf children
  | _ => []

/-- The elements of a list of trees in document order. -/
def elementsOf : List Node → List Element
  | [] => []
  | node :: nodes => node.elements ++ elementsOf nodes

end

mutual

/-- The elements of a tree in document order, each with its parent; the root's is `parent`. -/
def elementsUnder (parent : Element) : Node → List (Element × Element)
  | .element name attributes children =>
    (⟨name, attributes, children⟩, parent) :: elementsUnderOf ⟨name, attributes, children⟩ children
  | _ => []

/-- The elements of a list of trees, each with its parent. -/
def elementsUnderOf (parent : Element) : List Node → List (Element × Element)
  | [] => []
  | node :: nodes => node.elementsUnder parent ++ elementsUnderOf parent nodes

end

/-- The first element of a document with a name. -/
def firstWithin? (nodes : List Node) (name : String) : Option Element :=
  (elementsOf nodes).find? (·.name == name)

/-- The attribute of a node of which one is asked for; a leaf has none to ask for. -/
def attr (node : Node) (name : String) : Except Fault (Option String) :=
  match node with
  | .element _ attributes _ => .ok (attributes.lookup name)
  | .leaf kind _ => .error (.noMember kind.word "get")

end Node

namespace Element

/-- The element as a node. -/
def toNode (e : Element) : Node :=
  .element e.name e.attributes e.children

/-- The value of an attribute. -/
def attr? (e : Element) (name : String) : Option String :=
  e.attributes.lookup name

/-- Does the element have the attribute, with any value? -/
def hasAttr (e : Element) (name : String) : Bool :=
  (e.attr? name).isSome

/-- Does the element have the attribute with a value that is not empty? -/
def isSet (e : Element) (name : String) : Bool :=
  match e.attr? name with
  | some value => !value.isEmpty
  | none => false

/-- The text of an element that holds nothing but one text. -/
def soleText? (e : Element) : Option String :=
  Node.soleTextOf? e.children

/-- The children that are elements. -/
def childElements (e : Element) : List Element :=
  e.children.filterMap Node.element?

/-- The child elements with a name. -/
def childrenNamed (e : Element) (name : String) : List Element :=
  e.childElements.filter (·.name == name)

/-- The first child element with a name. -/
def child? (e : Element) (name : String) : Option Element :=
  e.childElements.find? (·.name == name)

/-- The elements below, in document order. -/
def descendants (e : Element) : List Element :=
  Node.elementsOf e.children

/-- The elements below with a name, in document order. -/
def allWithin (e : Element) (name : String) : List Element :=
  e.descendants.filter (·.name == name)

/-- The first element below with a name. -/
def within? (e : Element) (name : String) : Option Element :=
  e.descendants.find? (·.name == name)

/-- The elements below with a name in document order, each with its parent. -/
def allWithinUnder (e : Element) (name : String) : List (Element × Element) :=
  (Node.elementsUnderOf e e.children).filter (·.1.name == name)

/-- Is one of the children a leaf with this content? -/
def holdsLeaf (e : Element) (content : String) : Bool :=
  e.children.any fun node => node.content? == some content

end Element

/-- Does an attribute's value, if there is one, meet what is asked of it? No value is asked for by
`none`; the empty value is met by no value as well. -/
def meets (asked value : Option String) : Bool :=
  match value with
  | none => asked.isNone || asked == some ""
  | some v => asked == some v

end ReleaseReview.Markup
