import Mathlib.Data.List.Basic
import ReleaseReview.Markup.Place

/-!
# What is below an element

The elements below an element are those of its children, one child after the other
(`elementsOf_eq_flatMap`). Whatever is below something below an element is below the element too
(`descendants_subset`), and so is what is below the parent of such an element
(`descendants_subset_of_mem_allWithinUnder`). The node next to a child stands below the same parent,
if nothing follows the parent (`next?_of_mem_placeEach`). Where only children have a name
(`Element.Shallow`), to look for it at any depth and to look for it among the children is the same.
-/

namespace ReleaseReview.Markup

theorem Node.elementsOf_eq_flatMap (nodes : List Node) :
    Node.elementsOf nodes = nodes.flatMap Node.elements := by
  induction nodes with
  | nil => rw [Node.elementsOf, List.flatMap_nil]
  | cons node nodes ih => rw [Node.elementsOf, ih, List.flatMap_cons]

/-- An element among nodes is the first of its own elements. -/
theorem Node.mem_elementsOf {nodes : List Node} {node : Node} {e : Element} (hnode : node ∈ nodes)
    (he : node.element? = some e) : e ∈ Node.elementsOf nodes := by
  rw [Node.elementsOf_eq_flatMap]
  refine List.mem_flatMap.mpr ⟨node, hnode, ?_⟩
  cases node with
  | leaf kind content => cases he
  | element name attributes children =>
    cases he
    rw [Node.elements]
    exact List.mem_cons_self

mutual

theorem Node.descendants_subset_elements :
    (node : Node) → ∀ e ∈ node.elements, e.descendants ⊆ node.elements
  | .leaf _ _, e, he => by simp [Node.elements] at he
  | .element name attributes children, e, he => by
    rw [Node.elements, List.mem_cons] at he
    rw [Node.elements]
    rcases he with rfl | he
    · exact List.subset_cons_self _ _
    · exact List.Subset.trans (Node.descendants_subset_elementsOf children e he)
        (List.subset_cons_self _ _)

theorem Node.descendants_subset_elementsOf :
    (nodes : List Node) → ∀ e ∈ Node.elementsOf nodes, e.descendants ⊆ Node.elementsOf nodes
  | [], e, he => by simp [Node.elementsOf] at he
  | node :: nodes, e, he => by
    rw [Node.elementsOf, List.mem_append] at he
    rw [Node.elementsOf]
    rcases he with he | he
    · exact List.Subset.trans (Node.descendants_subset_elements node e he)
        (List.subset_append_left _ _)
    · exact List.Subset.trans (Node.descendants_subset_elementsOf nodes e he)
        (List.subset_append_right _ _)

end

/-- What is below something below an element is below the element. -/
theorem Element.descendants_subset {e part : Element} (h : part ∈ e.descendants) :
    part.descendants ⊆ e.descendants :=
  Node.descendants_subset_elementsOf e.children part h

/-! ## Parents -/

mutual

theorem Node.parent_of_mem_elementsUnder (parent : Element) :
    (node : Node) → ∀ found ∈ node.elementsUnder parent,
      found.2 = parent ∨ found.2 ∈ node.elements
  | .leaf _ _, found, h => by simp [Node.elementsUnder] at h
  | .element name attributes children, found, h => by
    rw [Node.elementsUnder, List.mem_cons] at h
    rw [Node.elements, List.mem_cons]
    rcases h with rfl | h
    · exact Or.inl rfl
    · exact Or.inr (Node.parent_of_mem_elementsUnderOf _ children found h)

theorem Node.parent_of_mem_elementsUnderOf (parent : Element) :
    (nodes : List Node) → ∀ found ∈ Node.elementsUnderOf parent nodes,
      found.2 = parent ∨ found.2 ∈ Node.elementsOf nodes
  | [], found, h => by simp [Node.elementsUnderOf] at h
  | node :: nodes, found, h => by
    rw [Node.elementsUnderOf, List.mem_append] at h
    rw [Node.elementsOf, List.mem_append]
    rcases h with h | h
    · exact (Node.parent_of_mem_elementsUnder parent node found h).imp_right Or.inl
    · exact (Node.parent_of_mem_elementsUnderOf parent nodes found h).imp_right Or.inr

end

/-- The parent of an element below another is that other or below it, so all that is below the
parent is below the other. -/
theorem Element.descendants_subset_of_mem_allWithinUnder {e : Element} {name : String}
    {found : Element × Element} (h : found ∈ e.allWithinUnder name) :
    found.2.descendants ⊆ e.descendants := by
  have hunder := (List.mem_filter.mp h).1
  rcases Node.parent_of_mem_elementsUnderOf e e.children found hunder with hself | hbelow
  · rw [hself]
    exact List.Subset.refl _
  · exact descendants_subset hbelow

theorem Element.mem_allWithin_of_within? {e found : Element} {name : String}
    (h : e.within? name = some found) : found ∈ e.allWithin name := by
  rw [within?, ← List.head?_filter] at h
  exact List.mem_of_mem_head? h

/-! ## Children in their places -/

/-- A child in its place is an element among the nodes. -/
theorem mem_elementsOf_of_mem_placeEach {after : Option Node} {nodes : List Node} {p : Placed}
    (h : p ∈ placeEach after nodes) : p.toElement ∈ Node.elementsOf nodes := by
  have hmap : p.toElement ∈ nodes.filterMap Node.element? := by
    rw [← map_toElement_placeEach after]
    exact List.mem_map_of_mem h
  obtain ⟨node, hnode, he⟩ := List.mem_filterMap.mp hmap
  exact Node.mem_elementsOf hnode he

/-- The node next to an element among nodes that nothing follows is one of them or below one. -/
theorem next?_of_mem_placeEach {next : Node} {e : Element} (he : next.element? = some e) :
    ∀ {nodes : List Node} {p : Placed}, p ∈ placeEach none nodes → p.next? = some next →
      e ∈ Node.elementsOf nodes
  | [], p, h, _ => by simp [placeEach] at h
  | .leaf kind content :: nodes, p, h, hnext => by
    rw [Node.elementsOf, List.mem_append]
    exact Or.inr (next?_of_mem_placeEach he h hnext)
  | .element name attributes children :: nodes, p, h, hnext => by
    rw [Node.elementsOf, Node.elements, List.mem_append, List.mem_cons]
    rw [placeEach, List.mem_cons] at h
    rcases h with rfl | h
    · unfold Placed.next? at hnext
      cases children with
      | cons child children =>
        obtain rfl : child = next := by simpa using hnext
        exact Or.inl (Or.inr (Node.mem_elementsOf List.mem_cons_self he))
      | nil =>
        have hhead : nodes.head? = some next := by simpa using hnext
        exact Or.inr (Node.mem_elementsOf (List.mem_of_mem_head? hhead) he)
    · exact Or.inr (next?_of_mem_placeEach he h hnext)

/-! ## Names that only children have -/

/-- Everything of this name below the element is a child of it: none stands below a child. -/
def Element.Shallow (e : Element) (name : String) : Prop :=
  ∀ child ∈ e.childElements, child.allWithin name = []

instance (e : Element) (name : String) : Decidable (e.Shallow name) :=
  inferInstanceAs (Decidable (∀ child ∈ e.childElements, child.allWithin name = []))

theorem filter_placeAllOf_eq_nil {e : Element} {name : String} (h : e.allWithin name = [])
    (after : Option Node) : (placeAllOf after e.children).filter (·.name == name) = [] := by
  have hmap := congrArg (List.filter (·.name == name)) (map_toElement_placeAllOf after e.children)
  rw [List.filter_map] at hmap
  exact List.map_eq_nil_iff.mp (hmap.trans h)

theorem filter_placeAllOf_eq_filter_placeEach {name : String} (after : Option Node) :
    ∀ nodes : List Node, (∀ e ∈ nodes.filterMap Node.element?, e.allWithin name = []) →
      (placeAllOf after nodes).filter (·.name == name) =
        (placeEach after nodes).filter (·.name == name)
  | [], _ => by rw [placeAllOf, placeEach]
  | .leaf kind content :: nodes, h => by
    simp only [placeAllOf, placeAll, List.nil_append, placeEach]
    exact filter_placeAllOf_eq_filter_placeEach after nodes h
  | .element elementName attributes children :: nodes, h => by
    obtain ⟨hfirst, hrest⟩ := List.forall_mem_cons.mp h
    rw [placeAllOf, placeAll, placeEach, List.cons_append, List.filter_cons, List.filter_cons,
      List.filter_append, filter_placeAllOf_eq_nil hfirst, List.nil_append,
      filter_placeAllOf_eq_filter_placeEach after nodes hrest]

/-- What is found below an element and what is found among its children is then the same. -/
theorem Placed.placedWithin_eq_placedChildren {p : Placed} {name : String} (h : p.Shallow name) :
    p.placedWithin name = p.placedChildren name :=
  filter_placeAllOf_eq_filter_placeEach p.after p.children h

/-- An element that begins with a child of a name has no other part of that name before it. -/
theorem Element.within?_of_head? {e : Element} {name : String}
    {attributes : List (String × String)} {children : List Node}
    (h : e.children.head? = some (.element name attributes children)) :
    e.within? name = some ⟨name, attributes, children⟩ := by
  obtain ⟨rest, hrest⟩ := List.head?_eq_some_iff.mp h
  rw [within?, descendants, hrest, Node.elementsOf, Node.elements, List.cons_append]
  exact List.find?_cons_of_pos (beq_self_eq_true name)

theorem Element.allWithin_eq_childrenNamed {e : Element} {name : String} (h : e.Shallow name) :
    e.allWithin name = e.childrenNamed name := by
  have hplaced := filter_placeAllOf_eq_filter_placeEach none e.children h
  have hmap := congrArg (List.map Placed.toElement) hplaced
  unfold Element.allWithin Element.childrenNamed Element.descendants Element.childElements
  rw [← map_toElement_placeAllOf none, ← map_toElement_placeEach none, List.filter_map,
    List.filter_map]
  exact hmap

end ReleaseReview.Markup
