import ReleaseReview.Check.Model
import ReleaseReview.Proofs.Success

/-!
# Going through the elements of a model

A check of a model goes through the elements above the root, passes over the root, and goes on with
the elements below it. `aboveRoot` and `belowRoot` are these elements, and `judgeElements_eq_ok`
says what the check notes: what it notes of each of them, in order.

The attributes of an element are the elements among the children of its `attributes`. A check asks
for them as `attributesIn`, which fails if there is anything else among the children
(`attributesIn_eq_ok`).
-/

namespace ReleaseReview

open Markup

/-! ## Attributes -/

theorem attributesIn_eq_ok {nodes : List Node} {attributes : List Element}
    (h : attributesIn nodes = .ok attributes) : attributes = nodes.filterMap Node.element? := by
  have hall := mapM_eq_ok_iff.mp h
  clear h
  induction hall with
  | nil => rfl
  | @cons node attr nodes attributes hnode _ ih =>
    split at hnode
    next element helement =>
      cases hnode
      rw [List.filterMap_cons_some helement, ih]
    next => cases hnode

/-- The attributes of an element. -/
def attributesOf (element : Element) : List Element :=
  (element.child? "attributes").toList.flatMap Element.childElements

theorem attributesOf_eq {element attributes : Element} {all : List Element}
    (hattributes : element.child? "attributes" = some attributes)
    (hall : attributesIn attributes.children = .ok all) : attributesOf element = all := by
  rw [attributesOf, hattributes, Option.toList_some, List.flatMap_singleton,
    attributesIn_eq_ok hall]
  rfl

/-! ## The root -/

/-- Is the element of the base type of a model's root? -/
def isRoot (element : Element) : Bool :=
  (baseType element).toOption == some (some rootType)

theorem isRoot_of_baseType {element : Element} {type : Option String}
    (h : baseType element = .ok type) : isRoot element = (type == some rootType) := by
  rw [isRoot, h]
  rfl

theorem baseType_of_isRoot {element : Element} (h : isRoot element = true) :
    baseType element = .ok (some rootType) := by
  cases htype : baseType element with
  | error fault =>
    rw [isRoot, htype] at h
    cases h
  | ok type =>
    rw [isRoot_of_baseType htype, beq_iff_eq] at h
    rw [h]

theorem not_first_root {rootFound : Bool} {element : Element} {type : Option String}
    (htype : baseType element = .ok type) (hroot : rootFound = true ∨ isRoot element = false) :
    (!rootFound && type == some rootType) = false := by
  rw [← isRoot_of_baseType htype]
  rcases hroot with rfl | hroot
  · rfl
  · rw [hroot, Bool.and_false]

/-- The elements before the first that is a root. -/
def aboveRoot (elements : List Element) : List Element :=
  elements.takeWhile (!isRoot ·)

/-- The elements after the first that is a root. -/
def belowRoot (elements : List Element) : List Element :=
  (elements.dropWhile (!isRoot ·)).tail

section

variable {element : Element} (elements : List Element)

theorem aboveRoot_cons_of_root (h : isRoot element = true) :
    aboveRoot (element :: elements) = [] := by
  simp [aboveRoot, h]

theorem belowRoot_cons_of_root (h : isRoot element = true) :
    belowRoot (element :: elements) = elements := by
  simp [belowRoot, h]

theorem aboveRoot_cons_of_not_root (h : isRoot element = false) :
    aboveRoot (element :: elements) = element :: aboveRoot elements := by
  simp [aboveRoot, h]

theorem belowRoot_cons_of_not_root (h : isRoot element = false) :
    belowRoot (element :: elements) = belowRoot elements := by
  simp [belowRoot, h]

end

variable {ν : Type} {judge : Bool → Element → Option String → Account ν Unit}

/-- The element was judged without a fault, and these notes were left. -/
def Judged (judge : Bool → Element → Option String → Account ν Unit) (rootFound : Bool)
    (element : Element) (notes : List ν) : Prop :=
  ∃ type, baseType element = .ok type ∧ (judge rootFound element type).result = .ok () ∧
    (judge rootFound element type).notes = notes

theorem Account.lift_ok_bind {ν α β : Type} (a : α) (rest : α → Account ν β) :
    ((liftM (Except.ok a : Except Fault α) : Account ν α) >>= rest) = rest a :=
  rfl

theorem Account.bind_eq_ok {ν α β : Type} {first : Account ν α} {rest : α → Account ν β} {b : β}
    (h : (first >>= rest).result = .ok b) : ∃ a, first.result = .ok a ∧ (rest a).result = .ok b ∧
      (first >>= rest).notes = first.notes ++ (rest a).notes := by
  rw [Account.result_bind] at h
  obtain ⟨a, hfirst, hrest⟩ := ReleaseReview.bind_eq_ok.mp h
  exact ⟨a, hfirst, hrest, Account.notes_bind_of_ok hfirst rest⟩

/-- The first root is passed over. -/
theorem judgeElements_cons_of_root {element : Element} {elements : List Element}
    (hroot : isRoot element = true) :
    judgeElements judge false (element :: elements) = judgeElements judge true elements := by
  rw [judgeElements, baseType_of_isRoot hroot]
  rfl

/-- Any other element is judged, and then those after it. -/
theorem judgeElements_cons_eq_ok {rootFound : Bool} {element : Element} {elements : List Element}
    (h : (judgeElements judge rootFound (element :: elements)).result = .ok ())
    (hroot : rootFound = true ∨ isRoot element = false) :
    ∃ part, Judged judge rootFound element part ∧
      (judgeElements judge rootFound elements).result = .ok () ∧
      (judgeElements judge rootFound (element :: elements)).notes =
        part ++ (judgeElements judge rootFound elements).notes := by
  obtain ⟨type, htype, h, hnotes⟩ := Account.bind_eq_ok h
  rw [not_first_root htype hroot, if_neg Bool.false_ne_true] at h hnotes
  obtain ⟨⟨⟩, hjudge, hrest, hnotes'⟩ := Account.bind_eq_ok h
  exact ⟨_, ⟨type, htype, hjudge, rfl⟩, hrest, hnotes.trans hnotes'⟩

/-- Once the root is found, every element is judged. -/
theorem judgeElements_true_eq_ok {elements : List Element}
    (h : (judgeElements judge true elements).result = .ok ()) :
    ∃ parts, (judgeElements judge true elements).notes = parts.flatten ∧
      List.Forall₂ (Judged judge true) elements parts := by
  induction elements with
  | nil => exact ⟨[], rfl, .nil⟩
  | cons element elements ih =>
    obtain ⟨part, hpart, hrest, hnotes⟩ := judgeElements_cons_eq_ok h (.inl rfl)
    obtain ⟨parts, hparts, hall⟩ := ih hrest
    exact ⟨part :: parts, by rw [hnotes, hparts, List.flatten_cons], .cons hpart hall⟩

/-- The elements above the root are judged, and then those below it. -/
theorem judgeElements_eq_ok {elements : List Element}
    (h : (judgeElements judge false elements).result = .ok ()) :
    ∃ above below, (judgeElements judge false elements).notes = above.flatten ++ below.flatten ∧
      List.Forall₂ (Judged judge false) (aboveRoot elements) above ∧
      List.Forall₂ (Judged judge true) (belowRoot elements) below := by
  induction elements with
  | nil => exact ⟨[], [], rfl, .nil, .nil⟩
  | cons element elements ih =>
    cases hroot : isRoot element with
    | true =>
      rw [judgeElements_cons_of_root hroot] at h ⊢
      rw [aboveRoot_cons_of_root elements hroot, belowRoot_cons_of_root elements hroot]
      obtain ⟨parts, hparts, hall⟩ := judgeElements_true_eq_ok h
      exact ⟨[], parts, hparts, .nil, hall⟩
    | false =>
      rw [aboveRoot_cons_of_not_root elements hroot, belowRoot_cons_of_not_root elements hroot]
      obtain ⟨part, hpart, hrest, hnotes⟩ := judgeElements_cons_eq_ok h (.inr hroot)
      obtain ⟨above, below, hparts, hallAbove, hallBelow⟩ := ih hrest
      refine ⟨part :: above, below, ?_, .cons hpart hallAbove, hallBelow⟩
      rw [hnotes, hparts, List.flatten_cons, List.append_assoc]

/-- A check of an object's own model. -/
theorem checkModel_of_model {check : Element → Except Fault Outcome} {object : Placed}
    {facts : Facts} {kind : Kind} {model : Element} (hkind : facts.kind = .ok kind)
    (hwrapper : kind ≠ .wrapper) (hmodel : model? object = some model)
    (howned : inheritsModel object = false) : checkModel check object facts = check model := by
  rw [checkModel, hkind, ok_bind, if_neg hwrapper, hmodel, howned]
  rfl

/-! ## Sample models -/

/-- The root of a model. -/
def rootElement : Element where
  name := "element"
  attributes := [("name", "App")]
  children := [.element "basetype" [] [.leaf .text "Application"], .element "attributes" [] []]

/-- An element with a name, a base type and attributes. -/
def spiedElement (name type : String) (attributes : List Element) : Element where
  name := "element"
  attributes := [("name", name)]
  children :=
    [.element "basetype" [] [.leaf .text type],
     .element "attributes" [] (attributes.map Element.toNode)]

/-- An object whose model is of a web application, with a root and then these elements. -/
def objectWithElements (elements : List Element) : Placed :=
  .alone ⟨"process", [("name", "Base A")],
    [.element "appdef" []
      (.element "apptypeinfo" [] [.element "id" [] [.leaf .text "HTMLLaunch"]] ::
        (rootElement :: elements).map Element.toNode)]⟩

end ReleaseReview
