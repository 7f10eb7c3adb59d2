import ReleaseReview.Check.EnvironmentData
import ReleaseReview.Proofs.RecommendedAttributes

/-!
# Attributes that should not be used

Each technology has a list of attributes by which an element should not be found. The errors of the
check are one for each element that is found by some of its list, and it names them
(`errors_judgeTechnology`): unlike the warnings they do not go by other elements.

Which list that is goes by the words in the base type of the element. The check for the data of an
environment goes by the same words, but asks for them in another order. If exactly one of the
`Marker`s stands in a base type, the second check goes by it, and so does the first unless the base
type also has the beginning of the word window in it: then it takes any element but one of SAP for a
window of the desktop (`unwanted_by_base_type`).
-/

namespace ReleaseReview

open Markup Text

/-! ## Names of attributes -/

/-- Does the first node of the attribute hold a value? -/
def holdsValue (attr : Element) : Bool :=
  (attr.children.head?.bind Node.element?).any (·.isSet "value")

/-- The name of an attribute in use, if it is one of these, has no comparison of its own and, where
it is an address, holds a value. -/
def misusedName? (unwanted : List String) (attr : Element) : Option String :=
  (attr.attr? "name").filter fun name =>
    unwanted.contains name && !attr.isSet "comparisontype" && (!isAddress name || holdsValue attr)

/-- The names of the attributes by which an element is found and should not be. -/
def misusedNames (unwanted : List String) (element : Element) : List String :=
  ((attributesOf element).filter (·.isSet "inuse")).filterMap (misusedName? unwanted)

theorem holdsValue_eq {attr : Element} {holder : Node} {nodes : List Node} {value : Option String}
    (hchildren : attr.children = holder :: nodes) (hvalue : holder.attr "value" = .ok value) :
    holdsValue attr = value.any (!·.isEmpty) := by
  rw [holdsValue, hchildren]
  cases holder with
  | leaf kind content => cases hvalue
  | element name attributes children =>
    obtain rfl := Except.ok.inj hvalue
    cases hlookup : attributes.lookup "value" <;>
      simp [Node.element?, Element.isSet, Element.attr?, hlookup]

theorem misused?_eq_ok {unwanted : List String} {attr : Element} {name : Option String}
    (h : misused? unwanted attr = .ok name) : name = misusedName? unwanted attr := by
  unfold misused? at h
  unfold misusedName?
  cases hname : attr.attr? "name" with
  | none =>
    rw [hname] at h
    exact (Except.ok.inj h).symm
  | some stated =>
    rw [hname] at h
    dsimp only at h
    have hallowed : (unwanted.contains stated && !attr.isSet "comparisontype") =
        !(!unwanted.contains stated || attr.isSet "comparisontype") := by
      rw [Bool.not_or, Bool.not_not]
    rw [Option.filter_some, hallowed]
    split at h
    next h' =>
      rw [h']
      exact (Except.ok.inj h).symm
    next h' =>
      rw [Bool.eq_false_iff.mpr h', Bool.not_false, Bool.true_and]
      split at h
      next haddress =>
        -- An address counts only with a value, which is that of its first node.
        rw [haddress, Bool.not_true, Bool.false_or]
        split at h
        next => cases h
        next holder nodes hchildren =>
          obtain ⟨value, hvalue, h⟩ := bind_eq_ok.mp h
          rw [holdsValue_eq hchildren hvalue]
          cases value with
          | none => exact (Except.ok.inj h).symm
          | some value =>
            obtain rfl := Except.ok.inj h
            rw [Option.any_some]
            cases value.isEmpty <;> rfl
      next haddress =>
        rw [Bool.eq_false_iff.mpr haddress]
        exact (Except.ok.inj h).symm

/-- The names are those of the attributes that should not be used, in order. -/
theorem names_of_examineUsed {unwanted recommended names : List String} {attributes : List Element}
    (h : (examineUsed unwanted recommended attributes).2 = .ok names) :
    names = attributes.filterMap (misusedName? unwanted) := by
  induction attributes generalizing recommended names with
  | nil => exact (Except.ok.inj h).symm
  | cons attr attributes ih =>
    rw [examineUsed] at h
    split at h
    next => cases h
    next name hname =>
      obtain ⟨rest, hrest, rfl⟩ := map_eq_ok h
      rw [List.filterMap_cons, ← misused?_eq_ok hname, ← ih hrest]
      cases name <;> rfl

/-! ## Errors -/

/-- The errors on an element that is held against a list of attributes: one, if it is found by some
of them. -/
def errorsAgainst (unwanted : List String) (element : Element) (type : String) : List Finding :=
  (judgeMisused element type (misusedNames unwanted element)).errors

/-- The errors on an element by the list of its technology. -/
def errorsOn (item : Examined) : List Finding :=
  errorsAgainst item.mode.unwanted item.element item.type

theorem errors_judgeMissed (element : Element) (type : String) (names : List String) :
    (judgeMissed element type names).errors = [] := by
  unfold judgeMissed
  split <;> rfl

theorem errors_examineElement {type : String} {unwanted recommended : List String}
    {element : Element} {findings : Findings}
    (h : (examineElement type unwanted recommended element).2 = .ok findings) :
    findings.errors = errorsAgainst unwanted element type := by
  unfold examineElement at h
  split at h
  next => cases h
  next used hused =>
    obtain ⟨names, hnames, rfl⟩ := map_eq_ok h
    rw [Findings.errors_append, errors_judgeMissed, List.append_nil, names_of_examineUsed hnames,
      attributesInUse_eq_ok hused]
    rfl

/-- The errors are those on the element, if there are rules for it, and then those on the others,
whatever recommended attributes it leaves. -/
theorem errors_judgeTechnology_cons {missed : Missed} {rootFound : Bool} {element : Element}
    {elements : List Element} {findings : Findings}
    (h : judgeTechnology missed rootFound (element :: elements) = .ok findings)
    (hroot : rootFound = true ∨ isRoot element = false) :
    ∃ missed' rest, judgeTechnology missed' rootFound elements = .ok rest ∧
      findings.errors =
        ([element].filterMap (examined? rootFound)).flatMap errorsOn ++ rest.errors := by
  obtain ⟨hnone, h⟩ | ⟨item, left, first, rest, hsome, hfirst, hrest, rfl⟩ :=
    judgeTechnology_cons_eq_ok h hroot
  · rw [List.filterMap_cons_none hnone]
    exact ⟨missed, findings, h, rfl⟩
  · have herrors := errors_examineElement (congrArg Prod.snd hfirst)
    rw [List.filterMap_cons_some hsome, Findings.errors_append, herrors]
    exact ⟨_, rest, hrest, by simp [errorsOn]⟩

theorem errors_judgeTechnology_true {missed : Missed} {elements : List Element}
    {findings : Findings} (h : judgeTechnology missed true elements = .ok findings) :
    findings.errors = (elements.filterMap (examined? true)).flatMap errorsOn := by
  induction elements generalizing missed findings with
  | nil =>
    cases h
    rfl
  | cons element elements ih =>
    obtain ⟨missed', rest, hrest, herrors⟩ := errors_judgeTechnology_cons h (.inl rfl)
    rw [herrors, ih hrest, ← List.flatMap_append, ← List.filterMap_append, List.singleton_append]

/-- The errors are those on the elements that are examined, in order. -/
theorem errors_judgeTechnology {missed : Missed} {elements : List Element} {findings : Findings}
    (h : judgeTechnology missed false elements = .ok findings) :
    findings.errors = (examined elements).flatMap errorsOn := by
  induction elements generalizing missed findings with
  | nil =>
    cases h
    rfl
  | cons element elements ih =>
    cases hroot : isRoot element with
    | true =>
      rw [judgeTechnology_cons_of_root hroot] at h
      rw [examined_cons_of_root elements hroot]
      exact errors_judgeTechnology_true h
    | false =>
      obtain ⟨missed', rest, hrest, herrors⟩ := errors_judgeTechnology_cons h (.inr hroot)
      rw [herrors, ih hrest, examined_cons_of_not_root elements hroot, List.flatMap_append]

/-- What the check comes to: the findings on the type of the application, on its settings and on the
elements of the model, in this order. -/
theorem checkTechnology_eq_ok {object : Placed} {facts : Facts} {kind : Kind} {model : Element}
    {outcome : Outcome} (hkind : facts.kind = .ok kind) (hwrapper : kind ≠ .wrapper)
    (hmodel : model? object = some model) (howned : inheritsModel object = false)
    (h : checkTechnology object facts = .ok outcome) :
    ∃ application settings attributes, applicationType model = .ok application ∧
      judgeSettings model application = .ok settings ∧
      judgeTechnology .all false (modelElements model) = .ok attributes ∧
      outcome.findings = (judgeApplication application).findings ++ settings ++ attributes := by
  rw [checkTechnology, checkModel_of_model hkind hwrapper hmodel howned] at h
  obtain ⟨application, happlication, h⟩ := bind_eq_ok.mp h
  obtain ⟨settings, hsettings, h⟩ := bind_eq_ok.mp h
  obtain ⟨attributes, hattributes, h⟩ := bind_eq_ok.mp h
  exact ⟨application, settings, attributes, happlication, hsettings, hattributes,
    congrArg Outcome.findings (pure_eq_ok.mp h).symm⟩

/-! ## Words in base types -/

/-- The technologies that are named in base types. -/
inductive Marker where
  | sap
  | uiAutomation
  | html
  | activeAccessibility
  | java
  deriving DecidableEq, Repr

namespace Marker

/-- The word that stands for the technology. -/
def word : Marker → String
  | .sap => "SAP"
  | .uiAutomation => "UIA"
  | .html => "HTML"
  | .activeAccessibility => "AA"
  | .java => "Java"

/-- The technology by whose list an element is judged; there is none for SAP. -/
def mode? : Marker → Option SpyMode
  | .sap => none
  | .uiAutomation => some .uiAutomation
  | .html => some .html
  | .activeAccessibility => some .activeAccessibility
  | .java => some .java

/-- The attributes that an element of the technology must not use; SAP elements are passed over. -/
def unwanted? : Marker → Option (List String)
  | .sap => none
  | .uiAutomation => some ["uX", "uY", "uWidth", "uHeight", "uProcessId"]
  | .html => some ["X", "Y", "Width", "Height", "ScreenBounds", "pURL", "Link"]
  | .activeAccessibility =>
    some ["paHeight", "paWidth", "paY", "paX", "ScreenBounds", "aHeight", "aWidth", "aY", "aX",
      "pHeight", "pWidth", "pY", "pX", "pCtrlID", "Height", "Width", "Y", "X", "CtrlID"]
  | .java => some ["X", "Y", "Width", "Height", "ScreenBounds"]

/-- How an element is handled in the check for the data of an environment. -/
def handling : Marker → Handling
  | .sap => .pass
  | .uiAutomation => .pass
  | .html => .check .html
  | .activeAccessibility => .check .activeAccessibility
  | .java => .check .java

end Marker

/-- The base type names this technology and no other. -/
def NamesOnly (marker : Marker) (type : String) : Prop :=
  ∀ other : Marker, occurs other.word type = true ↔ other = marker

/-- Is the base type taken for that of a window? -/
def namesWindow (type : String) : Bool :=
  occurs "Win" type

namespace NamesOnly

variable {marker : Marker} {type : String}

theorem occurs_word (h : NamesOnly marker type) (other : Marker) :
    occurs other.word type = decide (other = marker) := by
  rw [Bool.eq_iff_iff, decide_eq_true_iff]
  exact h other

theorem occurs_each (h : NamesOnly marker type) :
    occurs "SAP" type = decide (Marker.sap = marker) ∧
    occurs "UIA" type = decide (Marker.uiAutomation = marker) ∧
    occurs "HTML" type = decide (Marker.html = marker) ∧
    occurs "AA" type = decide (Marker.activeAccessibility = marker) ∧
    occurs "Java" type = decide (Marker.java = marker) :=
  ⟨h.occurs_word .sap, h.occurs_word .uiAutomation, h.occurs_word .html,
    h.occurs_word .activeAccessibility, h.occurs_word .java⟩

/-- The check for the data of an environment goes by the technology that is named. -/
theorem environmentHandling_eq (h : NamesOnly marker type) :
    environmentHandling type = marker.handling := by
  obtain ⟨hsap, huia, hhtml, haa, hjava⟩ := h.occurs_each
  rw [environmentHandling, hsap, huia, hhtml, haa, hjava]
  cases marker <;> rfl

/-- An element after the root is judged by the technology that is named, but as a window if its base
type is taken for that of one. -/
theorem mode_eq (h : NamesOnly marker type) :
    (if occurs "SAP" type then none else SpyMode.ofType? type) =
      if namesWindow type then marker.mode?.map fun _ => SpyMode.windows else marker.mode? := by
  obtain ⟨hsap, huia, hhtml, haa, hjava⟩ := h.occurs_each
  rw [SpyMode.ofType?, namesWindow, hsap, huia, hhtml, haa, hjava]
  cases occurs "Win" type <;> cases marker <;> rfl

/-- The list that an element after the root is held against is that of the technology that is named
exactly if the base type is not taken for that of a window, or nothing is held against it. -/
theorem unwanted_eq_iff (h : NamesOnly marker type) :
    (if occurs "SAP" type then none else SpyMode.ofType? type).map SpyMode.unwanted =
        marker.unwanted? ↔ namesWindow type = false ∨ marker = .sap := by
  rw [h.mode_eq]
  cases namesWindow type <;> cases marker <;> decide

end NamesOnly

/-- An element after the root, as it is examined. -/
theorem examined?_true {element : Element} {type : String}
    (htype : baseType element = .ok (some type)) :
    examined? true element =
      (if occurs "SAP" type then none else SpyMode.ofType? type).map
        fun mode => ⟨element, type, mode⟩ := by
  rw [examined?, htype]
  dsimp only
  rw [Bool.true_and]
  split <;> rfl

/-! ## The check -/

/-- The errors are those on the type of the application and on its settings, and then those on each
element that is examined, by the list of the technology that it is examined in. After the root, an
element whose base type names one technology only is examined in that one, and as a window if the
base type is taken for that of one; so it is held against the list of the technology that is named
exactly if that is not so, or it is an SAP element, which is passed over. The check for the data of
an environment goes by the technology that is named in any case. -/
theorem unwanted_by_base_type {object : Placed} {facts : Facts} {kind : Kind} {model : Element}
    {outcome : Outcome} (hkind : facts.kind = .ok kind) (hwrapper : kind ≠ .wrapper)
    (hmodel : model? object = some model) (howned : inheritsModel object = false)
    (h : checkTechnology object facts = .ok outcome) :
    (∃ application settings, applicationType model = .ok application ∧
      judgeSettings model application = .ok settings ∧
      outcome.findings.errors = (judgeApplication application).findings.errors ++
        settings.errors ++ (examined (modelElements model)).flatMap errorsOn) ∧
    ∀ element ∈ belowRoot (modelElements model), ∀ type marker,
      baseType element = .ok (some type) → NamesOnly marker type →
      examined? true element =
        (if namesWindow type then marker.mode?.map fun _ => SpyMode.windows
          else marker.mode?).map (fun mode => ⟨element, type, mode⟩) ∧
      ((examined? true element).map (·.mode.unwanted) = marker.unwanted? ↔
        namesWindow type = false ∨ marker = .sap) ∧
      environmentHandling type = marker.handling := by
  constructor
  · obtain ⟨application, settings, attributes, happlication, hsettings, hattributes, hfindings⟩ :=
      checkTechnology_eq_ok hkind hwrapper hmodel howned h
    refine ⟨application, settings, happlication, hsettings, ?_⟩
    rw [hfindings, Findings.errors_append, Findings.errors_append,
      errors_judgeTechnology hattributes]
  · intro element _ type marker htype honly
    refine ⟨?_, ?_, honly.environmentHandling_eq⟩
    · rw [examined?_true htype, honly.mode_eq]
    · rw [examined?_true htype, Option.map_map, ← honly.unwanted_eq_iff]
      rfl

/-- An element of UI Automation that is found by its place on the screen. -/
def placedElement (type : String) : Element :=
  spiedElement "Field - Total" type [⟨"attribute", [("name", "uX"), ("inuse", "True")], []⟩]

/-- A field is held against the attributes of UI Automation, and its place on the screen is an
error. -/
theorem place_of_field_is_reported :
    NamesOnly .uiAutomation "UIAEdit" ∧
    ∃ outcome, checkTechnology (objectWithElements [placedElement "UIAEdit"])
        ⟨.ok .base, .ok false, .ok false⟩ = .ok outcome ∧
      examined? true (placedElement "UIAEdit") =
        some ⟨placedElement "UIAEdit", "UIAEdit", .uiAutomation⟩ ∧
      outcome.findings.errors =
        [⟨some ("Attribute(s) should not be used for element type 'UIAEdit'\n" ++
          "Attributes: 'uX'"), some "Field - Total"⟩] := by
  have honly : NamesOnly .uiAutomation "UIAEdit" := by
    intro other
    cases other <;> decide +kernel
  obtain ⟨outcome, hcheck, herrors⟩ : ∃ outcome,
      checkTechnology (objectWithElements [placedElement "UIAEdit"])
        ⟨.ok .base, .ok false, .ok false⟩ = .ok outcome ∧
      outcome.findings.errors =
        [⟨some ("Attribute(s) should not be used for element type 'UIAEdit'\n" ++
          "Attributes: 'uX'"), some "Field - Total"⟩] := ⟨_, rfl, by decide +kernel⟩
  refine ⟨honly, outcome, hcheck, ?_, herrors⟩
  have hexamined := (unwanted_by_base_type rfl (by decide) rfl rfl hcheck).2
    (placedElement "UIAEdit") (List.mem_singleton.mpr rfl) "UIAEdit" .uiAutomation rfl honly
  have hwindow : namesWindow "UIAEdit" = false := by decide +kernel
  rw [hexamined.1, hwindow]
  rfl

/-- A window of UI Automation is held against the attributes of windows of the desktop, so that its
place on the screen goes unseen. -/
theorem place_of_window_is_missed :
    NamesOnly .uiAutomation "UIAWindow" ∧
    environmentHandling "UIAWindow" = .pass ∧
    misusedNames SpyMode.uiAutomation.unwanted (placedElement "UIAWindow") = ["uX"] ∧
    (examined? true (placedElement "UIAWindow")).map (·.mode.unwanted) =
      some SpyMode.windows.unwanted ∧
    ∃ outcome, checkTechnology (objectWithElements [placedElement "UIAWindow"])
        ⟨.ok .base, .ok false, .ok false⟩ = .ok outcome ∧ outcome.findings.errors = [] := by
  refine ⟨?_, by decide +kernel, by decide +kernel, by decide +kernel, _, rfl, by decide +kernel⟩
  intro other
  cases other <;> decide +kernel

end ReleaseReview
