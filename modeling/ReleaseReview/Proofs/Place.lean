import ReleaseReview.Markup.Place

/-!
# What follows an element

Only an empty element lets through what follows it in the document: any other has its first child
next to it. `Placed.settled` forgets the rest, and `next?_settled` says that nothing is lost by it.
So the elements of a tree depend on what follows the tree in at most one place, the tree's last node
(`Node.last`), and only if that is an empty element. `settled_placeAll` says so for the elements
that are kept by some test, `settled_placeEach` for the children of an element.
-/

namespace ReleaseReview.Markup

mutual

/-- The last node of a tree in document order. -/
def Node.last : Node → Node
  | .element name attributes children => Node.lastOf (.element name attributes children) children
  | .leaf kind content => .leaf kind content

/-- The last node of a list of trees, or the node `before` them if there are none. -/
def Node.lastOf (before : Node) : List Node → Node
  | [] => before
  | node :: nodes => Node.lastOf node.last nodes

end

theorem Node.lastOf_cons (before node : Node) (nodes : List Node) :
    Node.lastOf before (node :: nodes) = Node.lastOf node.last nodes := by
  rw [Node.lastOf]

/-- The last node of a list of trees is that of its last tree. -/
theorem Node.lastOf_of_getLast? {node : Node} :
    ∀ {nodes : List Node} (before : Node), nodes.getLast? = some node →
      Node.lastOf before nodes = node.last
  | [], _, h => by simp at h
  | [n], before, h => by
    obtain rfl : n = node := by simpa using h
    rw [Node.lastOf_cons, Node.lastOf]
  | n :: m :: nodes, before, h => by
    rw [Node.lastOf_cons]
    exact Node.lastOf_of_getLast? n.last (by simpa [List.getLast?_cons_cons] using h)

namespace Placed

/-- The element in its place, without what follows it unless the element is empty. -/
def settled (p : Placed) : Placed :=
  { p with after := if p.children.isEmpty then p.after else none }

@[simp] theorem toElement_settled (p : Placed) : p.settled.toElement = p.toElement :=
  rfl

/-- What is next to an element can be told after settling it. -/
theorem next?_settled (p : Placed) : p.settled.next? = p.next? := by
  unfold next? settled
  cases p.children <;> simp

/-- Elements that are the same once settled have the same node next to them. -/
theorem next?_eq_of_settled {p q : Placed} (h : p.settled = q.settled) : p.next? = q.next? := by
  rw [← next?_settled p, h, next?_settled]

theorem toElement_eq_of_settled {p q : Placed} (h : p.settled = q.settled) :
    p.toElement = q.toElement := by
  rw [← toElement_settled p, h, toElement_settled]

/-- An element with children is as if it stood alone. -/
theorem settled_eq_alone {p : Placed} (h : p.children ≠ []) : p.settled = alone p.toElement := by
  simp [settled, alone, h]

theorem settled_of_children {e : Element} (h : e.children ≠ []) (a b : Option Node) :
    (⟨e, a⟩ : Placed).settled = (⟨e, b⟩ : Placed).settled := by
  rw [settled_eq_alone h, settled_eq_alone h]

theorem map_toElement_placedChildren (p : Placed) (name : String) :
    (p.placedChildren name).map toElement = p.childrenNamed name := by
  unfold placedChildren Element.childrenNamed Element.childElements
  rw [← map_toElement_placeEach p.after, List.filter_map]
  rfl

/-- Children that have children themselves are the same wherever they stand. -/
theorem map_settled_placedChildren {p : Placed} {name : String}
    (h : ∀ e ∈ p.childrenNamed name, e.children ≠ []) :
    (p.placedChildren name).map settled = (p.childrenNamed name).map alone := by
  rw [← map_toElement_placedChildren] at h ⊢
  rw [List.map_map]
  exact List.map_congr_left fun child hchild =>
    settled_eq_alone (h child.toElement (List.mem_map_of_mem hchild))

end Placed

open Placed

theorem placeAllOf_cons (after : Option Node) (node : Node) (nodes : List Node) :
    placeAllOf after (node :: nodes) =
      placeAll (nodes.head?.or after) node ++ placeAllOf after nodes := by
  rw [placeAllOf]

variable (keep : Element → Bool)

mutual

/-- The kept elements of a tree do not depend on what follows it, unless the last is an empty
element and kept. -/
theorem settled_placeAll (a b : Option Node) :
    (node : Node) → (∀ e, node.last.element? = some e → keep e = false) →
      ((placeAll a node).filter (keep ·.toElement)).map settled =
        ((placeAll b node).filter (keep ·.toElement)).map settled
  | .leaf _ _, _ => by simp [placeAll]
  | .element name attributes children, h => by
    rw [Node.last] at h
    have ih := settled_placeAllOf a b children _ h
    unfold placeAll
    by_cases hc : children = []
    · subst hc
      have hk := h ⟨name, attributes, []⟩ (by rw [Node.lastOf]; rfl)
      simp [placeAllOf, hk]
    · rw [List.filter_cons, List.filter_cons]
      split
      · rw [List.map_cons, List.map_cons, ih, settled_of_children hc]
      · exact ih

/-- The same for a list of trees. -/
theorem settled_placeAllOf (a b : Option Node) :
    (nodes : List Node) → (before : Node) →
      (∀ e, (Node.lastOf before nodes).element? = some e → keep e = false) →
      ((placeAllOf a nodes).filter (keep ·.toElement)).map settled =
        ((placeAllOf b nodes).filter (keep ·.toElement)).map settled
  | [], _, _ => by simp [placeAllOf]
  | [node], before, h => by
    rw [Node.lastOf_cons, Node.lastOf] at h
    simp only [placeAllOf, List.head?_nil, Option.none_or, List.append_nil]
    exact settled_placeAll a b node h
  | node :: next :: nodes, before, h => by
    rw [Node.lastOf_cons] at h
    have ih := settled_placeAllOf a b (next :: nodes) _ h
    rw [placeAllOf_cons a node, placeAllOf_cons b node, List.filter_append, List.filter_append,
      List.map_append, List.map_append, ih]
    rfl

end

/-- The kept children do not depend on what follows their parent, unless the last is an empty
element and kept. -/
theorem settled_placeEach (a b : Option Node) :
    ∀ nodes : List Node,
      (∀ name attributes, nodes.getLast? = some (.element name attributes []) →
        keep ⟨name, attributes, []⟩ = false) →
      ((placeEach a nodes).filter (keep ·.toElement)).map settled =
        ((placeEach b nodes).filter (keep ·.toElement)).map settled
  | [], _ => rfl
  | [.leaf _ _], _ => rfl
  | [.element name attributes children], h => by
    by_cases hc : children = []
    · subst hc
      simp [placeEach, h name attributes rfl]
    · simp only [placeEach, List.filter_cons]
      split
      · simp [settled_of_children (e := ⟨name, attributes, children⟩) hc _ b]
      · rfl
  | node :: next :: nodes, h => by
    have ih := settled_placeEach a b (next :: nodes) (by simpa [List.getLast?_cons_cons] using h)
    cases node with
    | leaf kind content => exact ih
    | element name attributes children =>
      rw [placeEach, placeEach, List.filter_cons, List.filter_cons]
      simp only [List.head?_cons, Option.some_or]
      split
      · rw [List.map_cons, List.map_cons, ih]
      · exact ih

end ReleaseReview.Markup
