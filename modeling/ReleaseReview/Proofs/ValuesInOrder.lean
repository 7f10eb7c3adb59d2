import ReleaseReview.Calendar.Recognise
import ReleaseReview.Check.CustomerData
import ReleaseReview.Check.EnvironmentData
import ReleaseReview.Proofs.ModelElements

/-!
# Values in order

The attributes of an element that may hold data are judged one after another. A value that says
something is judged by the words in it, and one that says nothing is no finding, but it also ends
the work on the element: the attributes after it are passed over, whatever their values
(`judgeValues_eq_ok`).

So what is found on an element is what each attribute gives rise to by itself, up to the first that
says nothing. `UpToIdle` says this, and when it comes to the same as if each attribute were judged
by itself: if those passed over would have given rise to nothing. `values_judged_up_to_idle` says it
of the checks for the data of customers and for that of an environment.

A date says nothing, and what is a date is for a `DateReader` to tell. Nothing here depends on which
one it is.
-/

namespace ReleaseReview

open Markup Relator Text

/-! ## Values by themselves -/

/-- The attribute has this value, and it says something. -/
structure Tells (isDate : DateReader) (attr : Element) (value : String) : Prop where
  holds : valueOf attr = .ok value
  ne_empty : value ≠ ""
  not_useless : isUseless isDate value = .ok false

/-- The attribute has a value that is empty or says nothing. -/
def Idle (isDate : DateReader) (attr : Element) : Prop :=
  ∃ value, valueOf attr = .ok value ∧ (value = "" ∨ isUseless isDate value = .ok true)

theorem isUseless_empty (isDate : DateReader) : isUseless isDate "" = .ok true := rfl

variable {isDate : DateReader}

theorem Tells.unique {attr : Element} {value other : String} (h : Tells isDate attr value)
    (h' : Tells isDate attr other) : value = other :=
  Except.ok.inj (h.holds.symm.trans h'.holds)

theorem Tells.not_idle {attr : Element} {value : String} (h : Tells isDate attr value) :
    ¬Idle isDate attr := by
  rintro ⟨other, hother, hidle⟩
  obtain rfl := Except.ok.inj (h.holds.symm.trans hother)
  rcases hidle with hempty | huseless
  · exact h.ne_empty hempty
  · cases h.not_useless.symm.trans huseless

/-- What an attribute gives rise to by itself. A value that says something is an error if it is
suspect, and else what it gives rise to otherwise; one that says nothing is no finding. -/
inductive Alone (isDate : DateReader) (suspect : String → Bool)
    (error otherwise : Element → String → Findings) (attr : Element) : Findings → Prop
  | error {value : String} (htells : Tells isDate attr value) (h : suspect value = true) :
    Alone isDate suspect error otherwise attr (error attr value)
  | otherwise {value : String} (htells : Tells isDate attr value) (h : suspect value = false) :
    Alone isDate suspect error otherwise attr (otherwise attr value)
  | nothing (hidle : Idle isDate attr) : Alone isDate suspect error otherwise attr .none

theorem alone_rightUnique (suspect : String → Bool)
    (error otherwise : Element → String → Findings) :
    RightUnique (Alone isDate suspect error otherwise) := by
  intro attr f g hf hg
  cases hf with
  | error htells h =>
    cases hg with
    | error htells' _ => rw [htells.unique htells']
    | otherwise htells' h' =>
      rw [htells.unique htells', h'] at h
      cases h
    | nothing hidle => exact absurd hidle htells.not_idle
  | otherwise htells h =>
    cases hg with
    | error htells' h' =>
      rw [htells.unique htells', h'] at h
      cases h
    | otherwise htells' _ => rw [htells.unique htells']
    | nothing hidle => exact absurd hidle htells.not_idle
  | nothing hidle =>
    cases hg with
    | error htells' _ => exact absurd hidle htells'.not_idle
    | otherwise htells' _ => exact absurd hidle htells'.not_idle
    | nothing _ => rfl

/-- What an attribute of the element gives rise to in the check for the data of customers. -/
def CustomerFinding (isDate : DateReader) (technology : Technology) (element : Element)
    (type : String) : Element → Findings → Prop :=
  Alone isDate mayBeCustomerData
    (fun attr value => .error (quoteValue
      (technology.name ++ " attribute value contains potential customer data") element type attr
      value) (some ""))
    (fun attr value => .warning (quoteValue
      (technology.name ++ " attribute value check") element type attr value) (some ""))

/-- What an attribute of the element gives rise to in the check for the data of an environment. -/
def EnvironmentFinding (isDate : DateReader) (technology : Technology) (element : Element)
    (type : String) : Element → Findings → Prop :=
  Alone isDate mayBeEnvironmentData
    (fun attr value => .error (quoteValue (environmentHeading technology) element type attr value)
      (some ""))
    (fun _ _ => .none)

/-! ## Up to the first that says nothing -/

/-- Each attribute gives rise to what it does by itself, and nothing else is found. -/
def EachAlone (alone : Element → Findings → Prop) (attributes : List Element)
    (findings : Findings) : Prop :=
  ∃ parts, findings = .join parts ∧ List.Forall₂ alone attributes parts

/-- The findings are those of the attributes that say something, up to the first that does not. They
are those of all attributes, each by itself, exactly if the rest would give rise to nothing. -/
def UpToIdle (isDate : DateReader) (alone : Element → Findings → Prop) (attributes : List Element)
    (findings : Findings) : Prop :=
  ∃ telling rest, attributes = telling ++ rest ∧
    (∀ attr ∈ telling, ∃ value, Tells isDate attr value) ∧
    (∀ attr ∈ rest.head?, Idle isDate attr) ∧ EachAlone alone telling findings ∧
    (EachAlone alone attributes findings ↔ ∀ attr ∈ rest, alone attr .none)

section

variable {ν : Type} {judge : Element → String → ν} {attr : Element} {value : String}

theorem judgeValues_cons_of_useless (hvalue : valueOf attr = .ok value)
    (huseless : isUseless isDate value = .ok true) (attributes : List Element) :
    judgeValues isDate judge (attr :: attributes) = ⟨[], .ok ()⟩ := by
  rw [judgeValues, hvalue, Account.lift_ok_bind, huseless, Account.lift_ok_bind]
  rfl

theorem judgeValues_cons_of_tells (htells : Tells isDate attr value) (attributes : List Element) :
    judgeValues isDate judge (attr :: attributes) = (do
      Account.note (judge attr value)
      judgeValues isDate judge attributes) := by
  rw [judgeValues, htells.holds, Account.lift_ok_bind, htells.not_useless, Account.lift_ok_bind]
  rfl

/-- The values that are judged are those up to the first that says nothing. -/
theorem judgeValues_eq_ok {attributes : List Element}
    (h : (judgeValues isDate judge attributes).result = .ok ()) :
    ∃ telling rest, attributes = telling ++ rest ∧ (∀ attr ∈ rest.head?, Idle isDate attr) ∧
      List.Forall₂ (fun attr note => ∃ value, Tells isDate attr value ∧ note = judge attr value)
        telling (judgeValues isDate judge attributes).notes := by
  induction attributes with
  | nil => exact ⟨[], [], rfl, nofun, .nil⟩
  | cons attr attributes ih =>
    obtain ⟨value, hvalue, h', -⟩ := Account.bind_eq_ok h
    obtain ⟨useless, huseless, -, -⟩ := Account.bind_eq_ok h'
    cases useless with
    | true =>
      rw [judgeValues_cons_of_useless hvalue huseless]
      refine ⟨[], attr :: attributes, rfl, ?_, .nil⟩
      rintro _ ⟨⟩
      exact ⟨value, hvalue, .inr huseless⟩
    | false =>
      have htells : Tells isDate attr value := by
        refine ⟨hvalue, ?_, huseless⟩
        rintro rfl
        cases (isUseless_empty isDate).symm.trans huseless
      rw [judgeValues_cons_of_tells htells] at h ⊢
      obtain ⟨telling, rest, hsplit, hidle, hall⟩ := ih h
      exact ⟨attr :: telling, rest, congrArg (attr :: ·) hsplit, hidle,
        .cons ⟨value, htells, rfl⟩ hall⟩

end

namespace Findings

theorem join_append (a b : List Findings) : join (a ++ b) = join a ++ join b := by
  rw [join, List.flatMap_append, List.flatMap_append]
  rfl

theorem join_flatten (parts : List (List Findings)) :
    join parts.flatten = join (parts.map join) := by
  induction parts with
  | nil => rfl
  | cons part parts ih => rw [List.flatten_cons, join_append, ih, List.map_cons, join_cons]

/-- Nothing is found after some findings if what is found in all is no more than those. -/
theorem eq_none_of_append_eq {a b : Findings} (h : a = a ++ b) : b = none := by
  have herrors : a.errors = a.errors ++ b.errors := congrArg errors h
  have hwarnings : a.warnings = a.warnings ++ b.warnings := congrArg warnings h
  obtain ⟨errors, warnings⟩ := b
  obtain rfl : errors = [] := List.self_eq_append_right.mp herrors
  obtain rfl : warnings = [] := List.self_eq_append_right.mp hwarnings
  rfl

theorem forall_eq_none_of_join {parts : List Findings} (h : join parts = none) :
    ∀ part ∈ parts, part = none := by
  have herrors : parts.flatMap errors = [] := congrArg errors h
  have hwarnings : parts.flatMap warnings = [] := congrArg warnings h
  rintro ⟨errors, warnings⟩ hpart
  obtain rfl : errors = [] := List.flatMap_eq_nil_iff.mp herrors _ hpart
  obtain rfl : warnings = [] := List.flatMap_eq_nil_iff.mp hwarnings _ hpart
  rfl

theorem join_eq_none {parts : List Findings} (h : ∀ part ∈ parts, part = none) :
    join parts = none := by
  induction parts with
  | nil => rfl
  | cons part parts ih =>
    rw [List.forall_mem_cons] at h
    rw [join_cons, h.1, ih h.2]
    rfl

end Findings

/-- More attributes add nothing exactly if each of them by itself gives rise to nothing. -/
theorem EachAlone.append_iff {alone : Element → Findings → Prop} (hunique : RightUnique alone)
    {telling : List Element} {findings : Findings} (h : EachAlone alone telling findings)
    (rest : List Element) :
    EachAlone alone (telling ++ rest) findings ↔ ∀ attr ∈ rest, alone attr .none := by
  obtain ⟨parts, rfl, hparts⟩ := h
  constructor
  · rintro ⟨all, hjoin, hall⟩
    have hfirst := List.forall₂_take telling.length hall
    have hlast := List.forall₂_drop telling.length hall
    rw [List.take_left] at hfirst
    rw [List.drop_left] at hlast
    -- An attribute gives rise to one thing only, so the first parts are those already joined, and
    -- nothing is left for the others.
    rw [← List.take_append_drop telling.length all, hunique.forall₂ hfirst hparts,
      Findings.join_append] at hjoin
    have hnone := Findings.forall_eq_none_of_join (Findings.eq_none_of_append_eq hjoin)
    intro attr hattr
    obtain ⟨part, hpart, halone⟩ := exists_of_forall₂ hlast.flip attr hattr
    rw [← hnone part hpart]
    exact halone
  · intro hrest
    refine ⟨parts ++ rest.map fun _ => .none, ?_, List.rel_append hparts ?_⟩
    · have hnone : Findings.join (rest.map fun _ => Findings.none) = .none :=
        Findings.join_eq_none fun part hpart => (List.mem_map.mp hpart).choose_spec.2.symm
      rw [Findings.join_append, hnone, Findings.append_none]
    · rw [List.forall₂_map_right_iff, List.forall₂_same]
      exact hrest

/-- If a value that says something is judged as it is by itself, the attributes are judged up to the
first that says nothing. -/
theorem upToIdle_judgeValues {ν : Type} {judge : Element → String → ν} (view : ν → Findings)
    {alone : Element → Findings → Prop} (hunique : RightUnique alone)
    (hjudge : ∀ attr value, Tells isDate attr value → alone attr (view (judge attr value)))
    {attributes : List Element} (h : (judgeValues isDate judge attributes).result = .ok ()) :
    UpToIdle isDate alone attributes
      (.join ((judgeValues isDate judge attributes).notes.map view)) := by
  obtain ⟨telling, rest, hsplit, hidle, hall⟩ := judgeValues_eq_ok h
  have halone : EachAlone alone telling
      (.join ((judgeValues isDate judge attributes).notes.map view)) := by
    refine ⟨_, rfl, List.forall₂_map_right_iff.mpr (hall.imp ?_)⟩
    rintro attr _ ⟨value, htells, rfl⟩
    exact hjudge attr value htells
  refine ⟨telling, rest, hsplit, fun attr hattr => ?_, hidle, halone, ?_⟩
  · obtain ⟨_, -, value, htells, -⟩ := exists_of_forall₂ hall.flip attr hattr
    exact ⟨value, htells⟩
  · have hiff := halone.append_iff hunique rest
    rwa [← hsplit] at hiff

/-! ## Elements -/

/-- What is found on an element in the check for the data of customers. -/
inductive CustomerElement (isDate : DateReader) (element : Element) : Findings → Prop
  | exempt {type : String} (htype : baseType element = .ok (some type))
      (hnone : customerTechnology? type = none) : CustomerElement isDate element .none
  /-- A button or a link of a web page is passed over. -/
  | clickable {type : String} {attributes : Element} (htype : baseType element = .ok (some type))
      (htechnology : customerTechnology? type = some .html)
      (hattributes : element.child? "attributes" = some attributes)
      (hclickable : isClickable attributes = .ok true) : CustomerElement isDate element .none
  | judged {type : String} {technology : Technology} {attributes : Element} {findings : Findings}
      (htype : baseType element = .ok (some type))
      (htechnology : customerTechnology? type = some technology)
      (hattributes : element.child? "attributes" = some attributes)
      (hclickable : technology = .html → isClickable attributes = .ok false)
      (hfindings : UpToIdle isDate (CustomerFinding isDate technology element type)
        (openAttributes (customerAttributes technology) (attributesOf element)) findings) :
    CustomerElement isDate element findings

/-- What is found on an element in the check for the data of an environment. -/
inductive EnvironmentElement (isDate : DateReader) (element : Element) : Findings → Prop
  | exempt {type : String} (htype : baseType element = .ok (some type))
      (hexempt : ∀ technology, environmentHandling type ≠ .check technology) :
    EnvironmentElement isDate element .none
  | judged {type : String} {technology : Technology} {findings : Findings}
      (htype : baseType element = .ok (some type))
      (htechnology : environmentHandling type = .check technology)
      (hfindings : UpToIdle isDate (EnvironmentFinding isDate technology element type)
        (fixedAttributes (environmentAttributes technology) (attributesOf element)) findings) :
    EnvironmentElement isDate element findings

section

variable {technology : Technology} {element attr : Element} {type value : String}

theorem customerFinding_judgeCustomerValue (htells : Tells isDate attr value) :
    CustomerFinding isDate technology element type attr
      (judgeCustomerValue technology element type attr value) := by
  unfold judgeCustomerValue
  split
  next hsuspect => exact .error htells hsuspect
  next hsuspect => exact .otherwise htells (Bool.not_eq_true _ ▸ hsuspect)

theorem environmentFinding_judgeEnvironmentValue (htells : Tells isDate attr value) :
    EnvironmentFinding isDate technology element type attr
      (judgeEnvironmentValue technology element type attr value).findings := by
  unfold judgeEnvironmentValue
  split
  next hsuspect => exact .error htells hsuspect
  next hsuspect => exact .otherwise htells (Bool.not_eq_true _ ▸ hsuspect)

/-- The attributes that may hold the data of a customer: none of a button or a link, and those of
the technology that are not fixed of anything else. -/
theorem customerCandidates_eq_ok {candidates : List Element}
    (h : customerCandidates technology element = .ok candidates) :
    ∃ attributes, element.child? "attributes" = some attributes ∧
      ((technology = .html ∧ isClickable attributes = .ok true ∧ candidates = []) ∨
        ((technology = .html → isClickable attributes = .ok false) ∧
          candidates = openAttributes (customerAttributes technology) (attributesOf element))) := by
  have hopen : ∀ {candidates}, (do
      let nodes := (← need "contents" (element.child? "attributes")).children
      return openAttributes (customerAttributes technology) (← attributesIn nodes)) =
        .ok candidates →
      ∃ attributes, element.child? "attributes" = some attributes ∧
        candidates = openAttributes (customerAttributes technology) (attributesOf element) := by
    intro candidates h
    obtain ⟨attributes, hattributes, h⟩ := bind_eq_ok.mp h
    obtain ⟨all, hall, h⟩ := bind_eq_ok.mp h
    rw [need_eq_ok_iff] at hattributes
    rw [attributesOf_eq hattributes hall]
    exact ⟨attributes, hattributes, (pure_eq_ok.mp h).symm⟩
  unfold customerCandidates at h
  by_cases hhtml : technology = .html
  · rw [if_pos hhtml] at h
    obtain ⟨attributes, hattributes, h⟩ := bind_eq_ok.mp h
    obtain ⟨clickable, hclickable, h⟩ := bind_eq_ok.mp h
    refine ⟨attributes, need_eq_ok_iff.mp hattributes, ?_⟩
    cases clickable with
    | true => exact .inl ⟨hhtml, hclickable, (pure_eq_ok.mp h).symm⟩
    | false =>
      obtain ⟨-, -, hcandidates⟩ := hopen h
      exact .inr ⟨fun _ => hclickable, hcandidates⟩
  · rw [if_neg hhtml] at h
    obtain ⟨attributes, hattributes, rfl⟩ := hopen h
    exact ⟨attributes, hattributes, .inr ⟨fun h => absurd h hhtml, rfl⟩⟩

theorem judgeCustomerElement_of_exempt (hnone : customerTechnology? type = none) :
    judgeCustomerElement isDate element (some type) = pure () := by
  rw [judgeCustomerElement, need_some, Account.lift_ok_bind, hnone]

theorem judgeCustomerElement_of_technology
    (htechnology : customerTechnology? type = some technology) :
    judgeCustomerElement isDate element (some type) = (do
      let attributes ← customerCandidates technology element
      judgeValues isDate (judgeCustomerValue technology element type) attributes) := by
  rw [judgeCustomerElement, need_some, Account.lift_ok_bind, htechnology]

theorem customerElement_of_judged {rootFound : Bool} {notes : List Findings}
    (h : Judged (fun _ => judgeCustomerElement isDate) rootFound element notes) :
    CustomerElement isDate element (.join notes) := by
  obtain ⟨stated, htype, hresult, hnotes⟩ := h
  obtain ⟨type, hstated, -, -⟩ := Account.bind_eq_ok hresult
  obtain rfl := need_eq_ok_iff.mp hstated
  subst hnotes
  beta_reduce at hresult ⊢
  cases htechnology : customerTechnology? type with
  | none =>
    rw [judgeCustomerElement_of_exempt htechnology]
    exact .exempt htype htechnology
  | some technology =>
    rw [judgeCustomerElement_of_technology htechnology] at hresult ⊢
    obtain ⟨candidates, hcandidates, hvalues, hnotes⟩ := Account.bind_eq_ok hresult
    obtain ⟨attributes, hattributes, hclickable | hopen⟩ := customerCandidates_eq_ok hcandidates
    · obtain ⟨rfl, hclickable, rfl⟩ := hclickable
      rw [hnotes]
      exact .clickable htype htechnology hattributes hclickable
    · obtain ⟨hclickable, rfl⟩ := hopen
      have hfindings := upToIdle_judgeValues id (alone_rightUnique _ _ _)
        (fun _ _ htells => customerFinding_judgeCustomerValue htells) hvalues
      rw [List.map_id] at hfindings
      rw [hnotes]
      exact .judged htype htechnology hattributes hclickable hfindings

/-- Nothing is looked at before the root has been found. -/
theorem notes_of_judged_false {notes : List Remark}
    (h : Judged (judgeEnvironmentElement isDate) false element notes) : notes = [] := by
  obtain ⟨stated, -, -, rfl⟩ := h
  rfl

theorem environmentElement_of_judged {notes : List Remark}
    (h : Judged (judgeEnvironmentElement isDate) true element notes) :
    EnvironmentElement isDate element (.join (notes.map Remark.findings)) := by
  obtain ⟨stated, htype, hresult, rfl⟩ := h
  cases stated with
  | none => cases hresult
  | some type =>
    cases hhandling : environmentHandling type with
    | pass =>
      have hnotes : judgeEnvironmentElement isDate true element (some type) = pure () := by
        simp [judgeEnvironmentElement, hhandling]
      rw [hnotes]
      exact .exempt htype fun technology h => nomatch hhandling.symm.trans h
    | unknown =>
      have hnotes : judgeEnvironmentElement isDate true element (some type) =
          Account.note ⟨.none, some (type ++ " is a basetype we haven't seen")⟩ := by
        simp [judgeEnvironmentElement, hhandling]
      rw [hnotes]
      exact .exempt htype fun technology h => nomatch hhandling.symm.trans h
    | check technology =>
      have hjudge : judgeEnvironmentElement isDate true element (some type) = (do
          let attributes ← need "contents" (element.child? "attributes")
          let candidates ← attributesIn attributes.children
          judgeValues isDate (judgeEnvironmentValue technology element type)
            (fixedAttributes (environmentAttributes technology) candidates)) := by
        simp [judgeEnvironmentElement, hhandling]
      rw [hjudge] at hresult ⊢
      obtain ⟨attributes, hattributes, hresult, hnotes⟩ := Account.bind_eq_ok hresult
      obtain ⟨candidates, hcandidates, hvalues, hnotes'⟩ := Account.bind_eq_ok hresult
      obtain rfl := attributesOf_eq (need_eq_ok_iff.mp hattributes) hcandidates
      have hfindings := upToIdle_judgeValues Remark.findings (alone_rightUnique _ _ _)
        (fun _ _ htells => environmentFinding_judgeEnvironmentValue htells) hvalues
      rw [hnotes, hnotes']
      exact .judged htype hhandling hfindings

end

/-! ## The two checks -/

/-- The findings are those on the type of the application, and then what is found on each of these
elements of its model. -/
def FoundByElement (found : Element → Findings → Prop) (model : Element) (elements : List Element)
    (findings : Findings) : Prop :=
  ∃ application parts, applicationType model = .ok application ∧
    findings = (judgeApplication application).findings ++ .join parts ∧
    List.Forall₂ found elements parts

section

variable {object : Placed} {facts : Facts} {kind : Kind} {model : Element} {outcome : Outcome}

theorem found_by_checkCustomerData (hkind : facts.kind = .ok kind) (hwrapper : kind ≠ .wrapper)
    (hmodel : model? object = some model) (howned : inheritsModel object = false)
    (h : checkCustomerData isDate object facts = .ok outcome) :
    FoundByElement (CustomerElement isDate) model
      (aboveRoot (modelElements model) ++ belowRoot (modelElements model)) outcome.findings := by
  rw [checkCustomerData, checkModel_of_model hkind hwrapper hmodel howned] at h
  obtain ⟨application, happlication, h⟩ := bind_eq_ok.mp h
  obtain ⟨findings, hfindings, h⟩ := bind_eq_ok.mp h
  obtain ⟨⟨⟩, hjudge, hjoin⟩ := bind_eq_ok.mp hfindings
  obtain ⟨above, below, hnotes, habove, hbelow⟩ := judgeElements_eq_ok hjudge
  refine ⟨application, (above ++ below).map .join, happlication, ?_, ?_⟩
  · rw [← Findings.join_flatten, List.flatten_append, ← hnotes, ← pure_eq_ok.mp h,
      ← pure_eq_ok.mp hjoin]
    rfl
  · rw [List.forall₂_map_right_iff]
    exact List.rel_append (habove.imp fun _ _ => customerElement_of_judged)
      (hbelow.imp fun _ _ => customerElement_of_judged)

theorem found_by_checkEnvironmentData (hkind : facts.kind = .ok kind) (hwrapper : kind ≠ .wrapper)
    (hmodel : model? object = some model) (howned : inheritsModel object = false)
    (h : checkEnvironmentData isDate object facts = .ok outcome) :
    FoundByElement (EnvironmentElement isDate) model (belowRoot (modelElements model))
      outcome.findings := by
  obtain ⟨ruling, hruling, h⟩ := bind_eq_ok.mp h
  obtain rfl := pure_eq_ok.mp h
  have hremarks : environmentRemarks isDate object facts = (do
      let application ← applicationType model
      Account.note (remarkApplication application)
      judgeElements (judgeEnvironmentElement isDate) false (modelElements model)
      return (judgeApplication application).ruling) := by
    rw [environmentRemarks, hkind, Account.lift_ok_bind, if_neg hwrapper, hmodel, howned]
    rfl
  rw [hremarks] at hruling ⊢
  obtain ⟨application, happlication, hruling, hnotes⟩ := Account.bind_eq_ok hruling
  obtain ⟨⟨⟩, -, hruling, hnotes'⟩ := Account.bind_eq_ok hruling
  obtain ⟨⟨⟩, hjudge, -, hnotes''⟩ := Account.bind_eq_ok hruling
  obtain ⟨above, below, hparts, habove, hbelow⟩ := judgeElements_eq_ok hjudge
  refine ⟨application, below.map fun notes => .join (notes.map Remark.findings), happlication, ?_,
    List.forall₂_map_right_iff.mpr (hbelow.imp fun _ _ => environmentElement_of_judged)⟩
  -- The elements above the root are gone through as well, but leave no remarks.
  have hnone : above.flatten = [] := by
    rw [List.flatten_eq_nil_iff]
    intro notes hmem
    obtain ⟨element, -, hjudged⟩ := exists_of_forall₂ habove notes hmem
    exact notes_of_judged_false hjudged
  rw [hnotes, hnotes', hnotes'', hparts, hnone]
  change Findings.join ((remarkApplication application :: (below.flatten ++ [])).map
    Remark.findings) = _
  rw [List.append_nil, List.map_cons, Findings.join_cons, List.map_flatten, Findings.join_flatten,
    List.map_map]
  rfl

/-- In both checks the values of an element are judged in order, up to the first that says nothing.
-/
theorem values_judged_up_to_idle (hkind : facts.kind = .ok kind) (hwrapper : kind ≠ .wrapper)
    (hmodel : model? object = some model) (howned : inheritsModel object = false) :
    (∀ outcome, checkCustomerData isDate object facts = .ok outcome →
      FoundByElement (CustomerElement isDate) model
        (aboveRoot (modelElements model) ++ belowRoot (modelElements model)) outcome.findings) ∧
    (∀ outcome, checkEnvironmentData isDate object facts = .ok outcome →
      FoundByElement (EnvironmentElement isDate) model (belowRoot (modelElements model))
        outcome.findings) := by
  constructor
  · intro outcome h
    exact found_by_checkCustomerData hkind hwrapper hmodel howned h
  · intro outcome h
    exact found_by_checkEnvironmentData hkind hwrapper hmodel howned h

end

/-- An attribute that is not in use, with a value. -/
def unusedAttribute (name value : String) : Element where
  name := "attribute"
  attributes := [("name", name)]
  children := [.element "processvalue" [("value", value)] []]

/-- The value of a field of a web page, a password. -/
def passwordAttribute : Element := unusedAttribute "Value" "password123"

/-- What the password gives rise to. -/
def passwordError (field : Element) : Findings :=
  .error (quoteValue "HTML attribute value contains potential customer data" field "HTMLEdit"
    passwordAttribute "password123") (some "")

/-- The field with an empty title after its password. -/
def titledLast : Element :=
  spiedElement "Field - Login" "HTMLEdit" [passwordAttribute, unusedAttribute "Title" ""]

/-- The field with an empty title before its password. -/
def titledFirst : Element :=
  spiedElement "Field - Login" "HTMLEdit" [unusedAttribute "Title" "", passwordAttribute]

/-- A password before an empty title is reported. -/
theorem password_before_title_is_reported :
    ∃ model outcome, model? (objectWithElements [titledLast]).toElement = some model ∧
      checkCustomerData Calendar.recognise (objectWithElements [titledLast])
        ⟨.ok .base, .ok false, .ok false⟩ = .ok outcome ∧
      FoundByElement (CustomerElement Calendar.recognise) model [titledLast] outcome.findings ∧
      outcome.findings = passwordError titledLast := by
  obtain ⟨outcome, hcheck, hfindings⟩ : ∃ outcome,
      checkCustomerData Calendar.recognise (objectWithElements [titledLast])
        ⟨.ok .base, .ok false, .ok false⟩ = .ok outcome ∧
      outcome.findings = passwordError titledLast := ⟨_, rfl, by decide +kernel⟩
  refine ⟨_, outcome, rfl, hcheck, ?_, hfindings⟩
  exact (values_judged_up_to_idle rfl (by decide) rfl rfl).1 outcome hcheck

theorem tells_passwordAttribute : Tells Calendar.recognise passwordAttribute "password123" where
  holds := rfl
  ne_empty := by decide
  not_useless := by decide +kernel

/-- Behind an empty title the password goes unseen, though by itself it is an error. -/
theorem password_behind_title_is_missed :
    ∃ outcome,
      checkCustomerData Calendar.recognise (objectWithElements [titledFirst])
        ⟨.ok .base, .ok false, .ok false⟩ = .ok outcome ∧
      outcome.findings = .none ∧
      passwordAttribute ∈ openAttributes (customerAttributes .html) (attributesOf titledFirst) ∧
      CustomerFinding Calendar.recognise .html titledFirst "HTMLEdit" passwordAttribute
        (passwordError titledFirst) ∧
      ¬EachAlone (CustomerFinding Calendar.recognise .html titledFirst "HTMLEdit")
        (openAttributes (customerAttributes .html) (attributesOf titledFirst)) .none := by
  have hpassword : CustomerFinding Calendar.recognise .html titledFirst "HTMLEdit" passwordAttribute
      (passwordError titledFirst) := .error tells_passwordAttribute (by decide +kernel)
  have hmem : passwordAttribute ∈
      openAttributes (customerAttributes .html) (attributesOf titledFirst) :=
    List.mem_of_getElem? (i := 1) rfl
  refine ⟨_, rfl, rfl, hmem, hpassword, ?_⟩
  rintro ⟨parts, hjoin, hall⟩
  obtain ⟨part, hpart, halone⟩ := exists_of_forall₂ hall.flip _ hmem
  obtain rfl := Findings.forall_eq_none_of_join hjoin.symm part hpart
  cases alone_rightUnique _ _ _ hpassword halone

end ReleaseReview
