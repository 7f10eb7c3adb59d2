import ReleaseReview.Markup.Node

/-!
# Places in a document

What stands next to an empty element is not in the element: it is whatever follows it in the
document, perhaps outside its parent. A `Placed` element knows the node that follows it, so that
`next?` can answer for empty elements too.
-/

namespace ReleaseReview.Markup

/-- An element and the first node that follows it in the document and is not inside it. -/
structure Placed extends Element where
  after : Option Node
  deriving Inhabited

instance : Coe Placed Element := ⟨Placed.toElement⟩

/-- The elements among the nodes, each in its place; `after` follows the last node. -/
def placeEach (after : Option Node) : List Node → List Placed
  | [] => []
  | .element name attributes children :: nodes =>
    ⟨⟨name, attributes, children⟩, nodes.head?.or after⟩ :: placeEach after nodes
  | _ :: nodes => placeEach after nodes

/-- The nodes, the elements each in its place, and of the leaves their kinds. -/
def placeNodes (after : Option Node) : List Node → List (Except LeafKind Placed)
  | [] => []
  | .element name attributes children :: nodes =>
    .ok ⟨⟨name, attributes, children⟩, nodes.head?.or after⟩ :: placeNodes after nodes
  | .leaf kind _ :: nodes => .error kind :: placeNodes after nodes

/-- The nodes of a document, the elements each in its place, and of the leaves their kinds. -/
def placed (nodes : List Node) : List (Except LeafKind Placed) :=
  placeNodes none nodes

mutual

/-- The elements of a tree in document order, each in its place; `after` follows the tree. -/
def placeAll (after : Option Node) : Node → List Placed
  | .element name attributes children =>
    ⟨⟨name, attributes, children⟩, after⟩ :: placeAllOf after children
  | _ => []

/-- The elements of a list of trees in document order, each in its place. -/
def placeAllOf (after : Option Node) : List Node → List Placed
  | [] => []
  | node :: nodes => placeAll (nodes.head?.or after) node ++ placeAllOf after nodes

end

namespace Placed

/-- An element that is a document by itself. -/
def alone (e : Element) : Placed :=
  ⟨e, none⟩

/-- The node that comes next in the document: the first child, or what follows an empty element. -/
def next? (p : Placed) : Option Node :=
  p.children.head?.or p.after

/-- The child elements with a name, in their places. -/
def placedChildren (p : Placed) (name : String) : List Placed :=
  (placeEach p.after p.children).filter (·.name == name)

/-- The elements below with a name in document order, in their places. -/
def placedWithin (p : Placed) (name : String) : List Placed :=
  (placeAllOf p.after p.children).filter (·.name == name)

end Placed

theorem map_toElement_placeEach (after : Option Node) (nodes : List Node) :
    (placeEach after nodes).map Placed.toElement = nodes.filterMap Node.element? := by
  induction nodes with
  | nil => rfl
  | cons node nodes ih =>
    cases node <;> simp [placeEach, Node.element?, List.filterMap_cons, ih]

mutual

theorem map_toElement_placeAll (after : Option Node) :
    (node : Node) → (placeAll after node).map Placed.toElement = node.elements
  | .element name attributes children => by
    simp [placeAll, Node.elements, map_toElement_placeAllOf after children]
  | .leaf _ _ => by simp [placeAll, Node.elements]

theorem map_toElement_placeAllOf (after : Option Node) :
    (nodes : List Node) → (placeAllOf after nodes).map Placed.toElement = Node.elementsOf nodes
  | [] => by simp [placeAllOf, Node.elementsOf]
  | node :: nodes => by
    simp [placeAllOf, Node.elementsOf, map_toElement_placeAll _ node,
      map_toElement_placeAllOf after nodes]

end

end ReleaseReview.Markup
