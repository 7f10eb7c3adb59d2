import ReleaseReview.Proofs.ValuesInOrder

/-!
# Elements that are looked at

The checks for the data of customers and for that of an environment go through the same elements of
a model, and both mean to pass over its root. The first looks at all other elements. The second
waits for the root, and looks only at what comes after it: of a model without a root it looks at
nothing.

`environment_looked_at_below_root` says which elements each check looks at, and when the second
check comes to the same as if it looked at all elements but the root: if those above the root would
have given rise to nothing. That rests on the findings on an element being determined by the element
(`environmentElement_rightUnique`), so that the findings of the check leave no room for others.
-/

namespace ReleaseReview

open Markup Relator Text

/-! ## All elements but the root -/

/-- The elements of a model but for its root, which is the first of that base type. -/
def apartFromRoot (elements : List Element) : List Element :=
  elements.eraseP isRoot

theorem apartFromRoot_eq_append (elements : List Element) :
    apartFromRoot elements = aboveRoot elements ++ belowRoot elements := by
  induction elements with
  | nil => rfl
  | cons element elements ih =>
    cases hroot : isRoot element with
    | true =>
      rw [aboveRoot_cons_of_root elements hroot, belowRoot_cons_of_root elements hroot]
      exact List.eraseP_cons_of_pos hroot
    | false =>
      rw [aboveRoot_cons_of_not_root elements hroot, belowRoot_cons_of_not_root elements hroot,
        List.cons_append, ← ih]
      exact List.eraseP_cons_of_neg (by simp [hroot])

theorem belowRoot_eq_nil {elements : List Element}
    (h : ∀ element ∈ elements, isRoot element = false) : belowRoot elements = [] := by
  induction elements with
  | nil => rfl
  | cons element elements ih =>
    rw [List.forall_mem_cons] at h
    rw [belowRoot_cons_of_not_root elements h.1, ih h.2]

/-! ## An element has its findings -/

variable {isDate : DateReader}

/-- The attributes up to the first that says nothing are the same, however the list is split. -/
theorem telling_eq_of_append_eq {telling rest other rest' : List Element}
    (hsplit : telling ++ rest = other ++ rest')
    (htelling : ∀ attr ∈ telling, ∃ value, Tells isDate attr value)
    (hother : ∀ attr ∈ other, ∃ value, Tells isDate attr value)
    (hidle : ∀ attr ∈ rest.head?, Idle isDate attr)
    (hidle' : ∀ attr ∈ rest'.head?, Idle isDate attr) :
    telling = other := by
  induction telling generalizing other with
  | nil =>
    cases other with
    | nil => rfl
    | cons attr other =>
      obtain ⟨value, htells⟩ := hother attr List.mem_cons_self
      rw [List.nil_append] at hsplit
      exact absurd (hidle attr (by rw [hsplit]; rfl)) htells.not_idle
  | cons attr telling ih =>
    cases other with
    | nil =>
      obtain ⟨value, htells⟩ := htelling attr List.mem_cons_self
      rw [List.nil_append] at hsplit
      exact absurd (hidle' attr (by rw [← hsplit]; rfl)) htells.not_idle
    | cons attr' other =>
      rw [List.cons_append, List.cons_append] at hsplit
      obtain ⟨rfl, hrest⟩ := List.cons.inj hsplit
      rw [List.forall_mem_cons] at htelling hother
      rw [ih hrest htelling.2 hother.2]

theorem upToIdle_unique {alone : Element → Findings → Prop} (hunique : RightUnique alone)
    {attributes : List Element} {findings others : Findings}
    (h : UpToIdle isDate alone attributes findings)
    (h' : UpToIdle isDate alone attributes others) :
    findings = others := by
  obtain ⟨telling, rest, hsplit, htelling, hidle, ⟨parts, rfl, hparts⟩, -⟩ := h
  obtain ⟨telling', rest', hsplit', htelling', hidle', ⟨parts', rfl, hparts'⟩, -⟩ := h'
  obtain rfl := telling_eq_of_append_eq (hsplit.symm.trans hsplit') htelling htelling' hidle hidle'
  rw [hunique.forall₂ hparts hparts']

theorem type_eq_of_baseType {element : Element} {type other : String}
    (h : baseType element = .ok (some type)) (h' : baseType element = .ok (some other)) :
    type = other :=
  Option.some.inj (Except.ok.inj (h.symm.trans h'))

/-- What is found on an element is determined by the element. -/
theorem environmentElement_rightUnique : RightUnique (EnvironmentElement isDate) := by
  intro element findings others h h'
  cases h with
  | exempt htype hexempt =>
    cases h' with
    | exempt => rfl
    | judged htype' htechnology =>
      obtain rfl := type_eq_of_baseType htype htype'
      exact absurd htechnology (hexempt _)
  | judged htype htechnology hfindings =>
    cases h' with
    | exempt htype' hexempt =>
      obtain rfl := type_eq_of_baseType htype htype'
      exact absurd htechnology (hexempt _)
    | judged htype' htechnology' hfindings' =>
      obtain rfl := type_eq_of_baseType htype htype'
      obtain rfl := Handling.check.inj (htechnology.symm.trans htechnology')
      exact upToIdle_unique (alone_rightUnique _ _ _) hfindings hfindings'

/-! ## More elements -/

namespace Findings

/-- Nothing is found between some findings and others if what is found in all is no more than
those. -/
theorem eq_none_of_append_eq_append {a b c : Findings} (h : a ++ c = a ++ (b ++ c)) : b = none := by
  have herrors : a.errors ++ c.errors = a.errors ++ (b.errors ++ c.errors) := congrArg errors h
  have hwarnings : a.warnings ++ c.warnings = a.warnings ++ (b.warnings ++ c.warnings) :=
    congrArg warnings h
  obtain ⟨errors, warnings⟩ := b
  obtain rfl : errors = [] := List.self_eq_append_left.mp (List.append_cancel_left herrors)
  obtain rfl : warnings = [] := List.self_eq_append_left.mp (List.append_cancel_left hwarnings)
  rfl

end Findings

/-- The findings are also those on more elements before the others exactly if each of these by
itself gives rise to nothing. -/
theorem FoundByElement.append_iff {found : Element → Findings → Prop}
    (hunique : RightUnique found) {model : Element} {elements : List Element} {findings : Findings}
    (h : FoundByElement found model elements findings) (before : List Element) :
    FoundByElement found model (before ++ elements) findings ↔
      ∀ element ∈ before, found element .none := by
  obtain ⟨application, parts, happlication, rfl, hparts⟩ := h
  constructor
  · rintro ⟨application', all, happlication', hjoin, hall⟩
    obtain rfl := Except.ok.inj (happlication.symm.trans happlication')
    have hfirst := List.forall₂_take before.length hall
    have hlast := List.forall₂_drop before.length hall
    rw [List.take_left] at hfirst
    rw [List.drop_left] at hlast
    -- The last parts are those that are known, so nothing is left for the first.
    rw [← List.take_append_drop before.length all, hunique.forall₂ hlast hparts,
      Findings.join_append] at hjoin
    have hnone := Findings.forall_eq_none_of_join (Findings.eq_none_of_append_eq_append hjoin)
    intro element helement
    obtain ⟨part, hpart, hfound⟩ := exists_of_forall₂ hfirst.flip element helement
    rw [← hnone part hpart]
    exact hfound
  · intro hbefore
    refine ⟨application, before.map (fun _ => .none) ++ parts, happlication, ?_,
      List.rel_append ?_ hparts⟩
    · have hnone : Findings.join (before.map fun _ => Findings.none) = .none :=
        Findings.join_eq_none fun part hpart => (List.mem_map.mp hpart).choose_spec.2.symm
      rw [Findings.join_append, hnone]
      rfl
    · rw [List.forall₂_map_right_iff, List.forall₂_same]
      exact hbefore

/-! ## The two checks -/

section

variable {object : Placed} {facts : Facts} {kind : Kind} {model : Element} {outcome : Outcome}

/-- In the check for the data of an environment, what is found is what the elements below the root
give rise to, in order, after the finding on the type of the application. It is what all elements
but the root give rise to exactly if those above it give rise to nothing. Of a model without a root
no element is looked at. The check for the data of customers looks at all elements but the root. -/
theorem environment_looked_at_below_root (hkind : facts.kind = .ok kind)
    (hwrapper : kind ≠ .wrapper) (hmodel : model? object = some model)
    (howned : inheritsModel object = false)
    (h : checkEnvironmentData isDate object facts = .ok outcome) :
    FoundByElement (EnvironmentElement isDate) model (belowRoot (modelElements model))
      outcome.findings ∧
    (FoundByElement (EnvironmentElement isDate) model (apartFromRoot (modelElements model))
        outcome.findings ↔
      ∀ element ∈ aboveRoot (modelElements model), EnvironmentElement isDate element .none) ∧
    ((∀ element ∈ modelElements model, isRoot element = false) →
      FoundByElement (EnvironmentElement isDate) model [] outcome.findings) ∧
    (∀ other, checkCustomerData isDate object facts = .ok other →
      FoundByElement (CustomerElement isDate) model (apartFromRoot (modelElements model))
        other.findings) := by
  have hbelow := found_by_checkEnvironmentData hkind hwrapper hmodel howned h
  refine ⟨hbelow, ?_, fun hroot => ?_, fun other hother => ?_⟩
  · rw [apartFromRoot_eq_append]
    exact hbelow.append_iff environmentElement_rightUnique _
  · rwa [belowRoot_eq_nil hroot] at hbelow
  · rw [apartFromRoot_eq_append]
    exact found_by_checkCustomerData hkind hwrapper hmodel howned hother

end

/-- An object whose model is of a web application and has these elements. -/
def objectWithModel (elements : List Element) : Placed :=
  .alone ⟨"process", [("name", "Base A")],
    [.element "appdef" []
      (.element "apptypeinfo" [] [.element "id" [] [.leaf .text "HTMLLaunch"]] ::
        elements.map Element.toNode)]⟩

/-- The address of a page in a test environment, by which a field is found. -/
def linkAttribute : Element where
  name := "attribute"
  attributes := [("name", "pURL"), ("inuse", "True")]
  children := [.element "processvalue" [("value", "https://uat.example")] []]

/-- The field that is found by the address of its page. -/
def linkedField : Element :=
  spiedElement "Field - Search" "HTMLEdit" [linkAttribute]

/-- What the address gives rise to. -/
def linkFindings : Findings :=
  .error (quoteValue "HTML attribute value contains potential environment specific data"
    linkedField "HTMLEdit" linkAttribute "https://uat.example") (some "")

/-- A menu, which has no attributes. -/
def menuElement : Element :=
  spiedElement "Menu" "SAPMenu" []

/-- The menu is above the root and the field below it: the findings are those on both. -/
theorem link_below_root_is_reported :
    ∃ model outcome,
      model? (objectWithModel [menuElement, rootElement, linkedField]).toElement = some model ∧
      checkEnvironmentData Calendar.recognise
        (objectWithModel [menuElement, rootElement, linkedField])
        ⟨.ok .base, .ok false, .ok false⟩ = .ok outcome ∧
      FoundByElement (EnvironmentElement Calendar.recognise) model [menuElement, linkedField]
        outcome.findings ∧
      outcome.findings = linkFindings := by
  obtain ⟨outcome, hcheck, hfindings⟩ : ∃ outcome,
      checkEnvironmentData Calendar.recognise
        (objectWithModel [menuElement, rootElement, linkedField])
        ⟨.ok .base, .ok false, .ok false⟩ = .ok outcome ∧ outcome.findings = linkFindings :=
    ⟨_, rfl, by decide +kernel⟩
  refine ⟨_, outcome, rfl, hcheck, ?_, hfindings⟩
  refine (environment_looked_at_below_root rfl (by decide) rfl rfl hcheck).2.1.mpr ?_
  intro element helement
  obtain rfl := List.mem_singleton.mp helement
  exact .exempt rfl fun technology h => nomatch h

theorem tells_linkAttribute :
    Tells Calendar.recognise linkAttribute "https://uat.example" where
  holds := rfl
  ne_empty := by decide
  not_useless := by decide +kernel

/-- What is found on the field. -/
theorem environmentElement_linkedField :
    EnvironmentElement Calendar.recognise linkedField linkFindings := by
  have halone : EnvironmentFinding Calendar.recognise .html linkedField "HTMLEdit" linkAttribute
      linkFindings := .error tells_linkAttribute (by decide +kernel)
  have heach : EachAlone (EnvironmentFinding Calendar.recognise .html linkedField "HTMLEdit")
      [linkAttribute] linkFindings := ⟨[linkFindings], rfl, .cons halone .nil⟩
  refine .judged rfl rfl ⟨[linkAttribute], [], rfl, ?_, nofun, heach, ?_⟩
  · rw [List.forall_mem_singleton]
    exact ⟨_, tells_linkAttribute⟩
  · exact heach.append_iff (alone_rightUnique _ _ _) []

/-- In a model without a root the field goes unseen, though it is an error by itself. -/
theorem link_without_root_is_missed :
    ∃ model outcome, model? (objectWithModel [linkedField]).toElement = some model ∧
      checkEnvironmentData Calendar.recognise (objectWithModel [linkedField])
        ⟨.ok .base, .ok false, .ok false⟩ = .ok outcome ∧
      outcome.findings = .none ∧ apartFromRoot (modelElements model) = [linkedField] ∧
      EnvironmentElement Calendar.recognise linkedField linkFindings ∧
      ¬FoundByElement (EnvironmentElement Calendar.recognise) model
        (apartFromRoot (modelElements model)) outcome.findings := by
  obtain ⟨model, hmodel, happlication, helements⟩ :
      ∃ model, model? (objectWithModel [linkedField]).toElement = some model ∧
        applicationType model = .ok "HTML" ∧
        apartFromRoot (modelElements model) = [linkedField] := ⟨_, rfl, rfl, rfl⟩
  refine ⟨model, _, hmodel, rfl, rfl, helements, environmentElement_linkedField, fun hfound => ?_⟩
  rw [helements] at hfound
  have hnothing : FoundByElement (EnvironmentElement Calendar.recognise) model [] .none :=
    ⟨"HTML", [], happlication, rfl, .nil⟩
  have hnone := (hnothing.append_iff environmentElement_rightUnique [linkedField]).mp hfound
    linkedField (List.mem_singleton.mpr rfl)
  cases environmentElement_rightUnique environmentElement_linkedField hnone

end ReleaseReview
