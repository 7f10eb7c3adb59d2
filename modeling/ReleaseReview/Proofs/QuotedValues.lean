import ReleaseReview.Proofs.CustomerWords
import ReleaseReview.Proofs.ForcedResult
import ReleaseReview.Proofs.ValuesInOrder

/-!
# Values that errors quote

Two considerations are about the values by which a model's elements are found. One looks for words
that go with the data of customers, the other for words that go with the data of an environment. An
error of theirs quotes a value in which such a word stands, or says that there is no model or that
the type of the application is not known (`ValueError`).

`quoted_words_by_title` says which words these are by the title that a page shows. The title that
asks about customer data goes with the words of environments, and the one that asks about
environments goes with the words of customers.
-/

namespace ReleaseReview

open Markup Text

/-! ## Notes of an account -/

namespace Account

variable {ν α β : Type} {P : ν → Prop}

/-- Each note of the account is of some kind. -/
def EachNote (P : ν → Prop) (account : Account ν α) : Prop :=
  ∀ n ∈ account.notes, P n

namespace EachNote

theorem of (result : Except Fault α) : EachNote P (Account.of result) :=
  fun _ h => nomatch h

theorem pure (a : α) : EachNote P (Pure.pure a : Account ν α) :=
  of (.ok a)

theorem note {n : ν} (h : P n) : EachNote P (Account.note n) := by
  intro m hm
  obtain rfl := List.mem_singleton.mp hm
  exact h

theorem bind {first : Account ν α} {rest : α → Account ν β} (hfirst : EachNote P first)
    (hrest : ∀ a, first.result = .ok a → EachNote P (rest a)) : EachNote P (first >>= rest) := by
  cases hresult : first.result with
  | ok a =>
    rw [EachNote, notes_bind_of_ok hresult, List.forall_mem_append]
    exact ⟨hfirst, hrest a hresult⟩
  | error fault =>
    rw [EachNote, notes_bind_of_error hresult]
    exact hfirst

/-- Work that leaves no notes, and then more of it. -/
theorem after {x : Except Fault α} {rest : α → Account ν β}
    (hrest : ∀ a, x = .ok a → EachNote P (rest a)) :
    EachNote P ((liftM x : Account ν α) >>= rest) :=
  bind (of x) hrest

theorem ite {p : Prop} [Decidable p] {x y : Account ν α} (hx : p → EachNote P x)
    (hy : ¬p → EachNote P y) : EachNote P (if p then x else y) := by
  split
  · exact hx ‹p›
  · exact hy ‹¬p›

end EachNote

end Account

open Account (EachNote)

variable {ν : Type} {P : ν → Prop} {isDate : DateReader}

/-- A note on a value is on one that the attribute has. -/
theorem eachNote_judgeValues {judge : Element → String → ν} {attributes : List Element}
    (h : ∀ attr ∈ attributes, ∀ value, valueOf attr = .ok value → P (judge attr value)) :
    EachNote P (judgeValues isDate judge attributes) := by
  induction attributes with
  | nil => exact .pure ()
  | cons attr attributes ih =>
    rw [List.forall_mem_cons] at h
    refine .after fun value hvalue => .after fun useless _ => .ite (fun _ => .pure ()) fun _ => ?_
    exact .bind (.note (h.1 value hvalue)) fun _ _ => ih h.2

/-- A note on an element is on one of those gone through, with its base type. -/
theorem eachNote_judgeElements {judge : Bool → Element → Option String → Account ν Unit}
    {elements : List Element}
    (h : ∀ element ∈ elements, ∀ type, baseType element = .ok type → ∀ rootFound,
      EachNote P (judge rootFound element type)) (rootFound : Bool) :
    EachNote P (judgeElements judge rootFound elements) := by
  induction elements generalizing rootFound with
  | nil => exact .pure ()
  | cons element elements ih =>
    rw [List.forall_mem_cons] at h
    refine .after fun type htype => .ite (fun _ => ih h.2 true) fun _ => ?_
    exact .bind (h.1 type htype rootFound) fun _ _ => ih h.2 rootFound

/-! ## Errors on values -/

/-- An error on the values of an object's model that goes by these words. -/
inductive ValueError (words : List String) (object : Element) : Finding → Prop
  | noModel (hnone : model? object = none) :
    ValueError words object
      ⟨"Base Object that does not have an App Model nor does it inherit one.", some ""⟩
  | unknownApplication {model : Element} {type : String} (hmodel : model? object = some model)
      (htype : applicationType model = .ok type) (hunknown : type ∉ applicationTypes) :
    ValueError words object ⟨"Unknown application type", some type⟩
  /-- The value of an attribute is quoted, and one of the words stands in it in lower case. -/
  | quoted {model element attr : Element} {heading type value : String}
      (hmodel : model? object = some model) (helement : element ∈ modelElements model)
      (htype : baseType element = .ok (some type)) (hattr : attr ∈ attributesOf element)
      (hvalue : valueOf attr = .ok value) (hword : anyOccurs words (lower value) = true) :
    ValueError words object ⟨quoteValue heading element type attr value, some ""⟩

/-- All errors are errors on values that go by these words. -/
def Findings.GoBy (words : List String) (object : Element) (findings : Findings) : Prop :=
  ∀ error ∈ findings.errors, ValueError words object error

variable {words : List String} {object : Element}

namespace Findings

theorem goBy_none : (none : Findings).GoBy words object :=
  fun _ h => nomatch h

theorem goBy_error {name : String} {location : Option String}
    (h : ValueError words object ⟨name, location⟩) : (error name location).GoBy words object := by
  intro e he
  obtain rfl := List.mem_singleton.mp he
  exact h

theorem goBy_join {parts : List Findings} (h : ∀ part ∈ parts, part.GoBy words object) :
    (join parts).GoBy words object := by
  intro e he
  obtain ⟨part, hpart, he⟩ := List.mem_flatMap.mp he
  exact h part hpart e he

theorem goBy_append {a b : Findings} (ha : a.GoBy words object) (hb : b.GoBy words object) :
    (a ++ b).GoBy words object :=
  List.forall_mem_append.mpr ⟨ha, hb⟩

end Findings

theorem goBy_judgeApplication {model : Element} {type : String}
    (hmodel : model? object = some model) (htype : applicationType model = .ok type) :
    (judgeApplication type).findings.GoBy words object := by
  unfold judgeApplication
  split
  next => exact Findings.goBy_none
  next hunknown =>
    exact Findings.goBy_error (.unknownApplication hmodel htype (by simpa using hunknown))

theorem mem_attributesOf {element attributes attr : Element} {candidates : List Element}
    (hattributes : element.child? "attributes" = some attributes)
    (hcandidates : attributesIn attributes.children = .ok candidates) (hattr : attr ∈ candidates) :
    attr ∈ attributesOf element := by
  rw [attributesOf_eq hattributes hcandidates]
  exact hattr

/-! ## The two checks -/

section

variable {model element attr : Element} {type value : String}

theorem goBy_judgeEnvironmentValue (technology : Technology) (hmodel : model? object = some model)
    (helement : element ∈ modelElements model) (htype : baseType element = .ok (some type))
    (hattr : attr ∈ attributesOf element) (hvalue : valueOf attr = .ok value) :
    (judgeEnvironmentValue technology element type attr value).findings.GoBy environmentWords
      object := by
  unfold judgeEnvironmentValue
  split
  next hword =>
    exact Findings.goBy_error (.quoted hmodel helement htype hattr hvalue hword)
  next => exact Findings.goBy_none

theorem eachNote_judgeEnvironmentElement (hmodel : model? object = some model)
    (helement : element ∈ modelElements model) {type : Option String}
    (htype : baseType element = .ok type) (rootFound : Bool) :
    EachNote (fun remark => remark.findings.GoBy environmentWords object)
      (judgeEnvironmentElement isDate rootFound element type) := by
  unfold judgeEnvironmentElement
  refine .ite (fun _ => .pure ()) fun _ => ?_
  cases type with
  | none => exact .of _
  | some type =>
    dsimp only
    split
    · exact .pure ()
    · exact .note Findings.goBy_none
    · refine .after fun attributes hattributes => .after fun candidates hcandidates => ?_
      refine eachNote_judgeValues fun attr hattr value hvalue => ?_
      exact goBy_judgeEnvironmentValue _ hmodel helement htype
        (mem_attributesOf (need_eq_ok_iff.mp hattributes) hcandidates
          (List.mem_of_mem_filter hattr)) hvalue

theorem eachNote_environmentRemarks (isDate : DateReader) (object : Placed) (facts : Facts) :
    EachNote (fun remark => remark.findings.GoBy environmentWords object.toElement)
      (environmentRemarks isDate object facts) := by
  unfold environmentRemarks
  refine .after fun kind _ => .ite (fun _ => .pure _) fun _ => ?_
  cases hmodel : model? object.toElement with
  | none => exact .bind (.note (Findings.goBy_error (.noModel hmodel))) fun _ _ => .pure _
  | some model =>
    refine .ite (fun _ => .pure _) fun _ => .after fun application happlication => ?_
    refine .bind (.note (goBy_judgeApplication hmodel happlication)) fun _ _ => ?_
    refine .bind (eachNote_judgeElements (fun element helement type htype rootFound => ?_) _)
      fun _ _ => .pure _
    exact eachNote_judgeEnvironmentElement hmodel helement htype rootFound

/-- Errors on environment data go by the words of environments. -/
theorem goBy_checkEnvironmentData (isDate : DateReader) (object : Placed) (facts : Facts) :
    Yields (fun outcome => outcome.findings.GoBy environmentWords object.toElement)
      (checkEnvironmentData isDate object facts) := by
  refine .after fun ruling => .pure (Findings.goBy_join fun part hpart => ?_)
  obtain ⟨remark, hremark, rfl⟩ := List.mem_map.mp hpart
  exact eachNote_environmentRemarks isDate object facts remark hremark

/-- A value that may hold the data of a customer has one of the words in it. -/
theorem anyOccurs_of_mayBeCustomerData (h : mayBeCustomerData value = true) :
    anyOccurs customerWords (lower value) = true := by
  obtain ⟨word, hword, rest, hrest, -⟩ := (mayBeCustomerData_iff value).mp h
  obtain ⟨i, hi, -⟩ := firstAt_of_afterFirst? hrest
  refine List.any_eq_true.mpr ⟨word, hword, occursIn_iff.mpr ?_⟩
  exact List.IsInfix.trans hi.1.isInfix (List.drop_suffix i _).isInfix

theorem goBy_judgeCustomerValue (technology : Technology) (hmodel : model? object = some model)
    (helement : element ∈ modelElements model) (htype : baseType element = .ok (some type))
    (hattr : attr ∈ attributesOf element) (hvalue : valueOf attr = .ok value) :
    (judgeCustomerValue technology element type attr value).GoBy customerWords object := by
  unfold judgeCustomerValue
  split
  next hword =>
    exact Findings.goBy_error (.quoted hmodel helement htype hattr hvalue
      (anyOccurs_of_mayBeCustomerData hword))
  next => exact fun _ h => nomatch h

theorem mem_attributesOf_of_customerCandidates (technology : Technology) (element : Element) :
    Yields (fun attributes => ∀ attr ∈ attributes, attr ∈ attributesOf element)
      (customerCandidates technology element) := by
  intro candidates hcandidates attr hattr
  obtain ⟨-, -, ⟨-, -, rfl⟩ | ⟨-, rfl⟩⟩ := customerCandidates_eq_ok hcandidates
  · cases hattr
  · exact List.mem_of_mem_filter hattr

theorem eachNote_judgeCustomerElement (hmodel : model? object = some model)
    (helement : element ∈ modelElements model) {type : Option String}
    (htype : baseType element = .ok type) :
    EachNote (Findings.GoBy customerWords object) (judgeCustomerElement isDate element type) := by
  refine .after fun stated hstated => ?_
  rw [need_eq_ok_iff.mp hstated] at htype
  split
  · exact .pure ()
  · refine .after fun attributes hattributes => ?_
    refine eachNote_judgeValues fun attr hattr value hvalue => ?_
    exact goBy_judgeCustomerValue _ hmodel helement htype
      (mem_attributesOf_of_customerCandidates _ element attributes hattributes attr hattr) hvalue

theorem goBy_gathered {α : Type} {account : Account Findings α}
    (h : EachNote (Findings.GoBy words object) account) :
    Yields (Findings.GoBy words object) (gathered account) :=
  .after fun _ => .pure (Findings.goBy_join h)

/-- Errors on customer data go by the words of customers. -/
theorem goBy_checkCustomerData (isDate : DateReader) (object : Placed) (facts : Facts) :
    Yields (fun outcome => outcome.findings.GoBy customerWords object.toElement)
      (checkCustomerData isDate object facts) := by
  refine .after fun kind => .ite (fun _ => .pure Findings.goBy_none) fun _ => ?_
  cases hmodel : model? object.toElement with
  | none => exact .pure (Findings.goBy_error (.noModel hmodel))
  | some model =>
    refine .ite (fun _ => .pure Findings.goBy_none) fun _ => ?_
    have hnotes : EachNote (Findings.GoBy customerWords object.toElement)
        (judgeElements (fun _ => judgeCustomerElement isDate) false (modelElements model)) :=
      eachNote_judgeElements (fun element helement type htype _ =>
        eachNote_judgeCustomerElement hmodel helement htype) _
    refine .bind_ok fun application happlication => ?_
    refine .bind (goBy_gathered hnotes) fun findings h => ?_
    exact .pure (Findings.goBy_append (goBy_judgeApplication hmodel happlication) h)

end

/-! ## The entries -/

theorem findings_record (c : Consideration) (outcome : Outcome) :
    (c.sheet.record outcome).findings = outcome.findings := by
  unfold Sheet.record
  cases outcome.ruling <;> rfl

theorem findings_of_assess {c : Consideration} {object : Placed} {facts : Facts} {sheet : Sheet}
    (h : c.assess isDate object facts = .ok sheet) :
    ∃ outcome, c.check isDate object facts = .ok outcome ∧ sheet.findings = outcome.findings := by
  obtain ⟨outcome, hcheck, h⟩ := bind_eq_ok.mp h
  obtain ⟨grade, -, h⟩ := bind_eq_ok.mp h
  rw [← pure_eq_ok.mp h]
  exact ⟨outcome, hcheck, findings_record c outcome⟩

/-- The findings of an entry are those of its check, unless a result is forced: then there are none.
-/
theorem findings_of_enters {configuration : Json} {object : Placed}
    {assigned : Consideration × Json} {entry : Entry}
    (h : Enters isDate configuration object assigned entry) :
    entry.findings = .none ∨
      ∃ outcome, assigned.1.check isDate object (.ofJson configuration) = .ok outcome ∧
        entry.findings = outcome.findings := by
  obtain ⟨sheet, hsheet, rfl⟩ := h
  obtain ⟨result, -, h⟩ := bind_eq_ok.mp hsheet
  obtain ⟨scale, -, h⟩ := bind_eq_ok.mp h
  split at h
  · exact Or.inr (findings_of_assess h)
  · obtain ⟨factor, -, h⟩ := bind_eq_ok.mp h
    obtain ⟨grade, -, h⟩ := bind_eq_ok.mp h
    rw [← pure_eq_ok.mp h]
    exact Or.inl rfl

theorem sheetUnder_of_unforced {configuration record : Json} {object : Placed} {c : Consideration}
    (hresult : record.member "Force Result" = .ok (.text ""))
    (hscale : record.member "Score Scale" = .ok (.text "")) :
    sheetUnder isDate configuration object c record =
      c.assess isDate object (.ofJson configuration) := by
  rw [sheetUnder, hresult, ok_bind, hscale, ok_bind]
  rfl

theorem goBy_of_enters {c : Consideration} {configuration record : Json} {object : Placed}
    {entry : Entry}
    (hcheck : ∀ facts, Yields (fun outcome => outcome.findings.GoBy words object.toElement)
      (c.check isDate object facts)) (h : Enters isDate configuration object (c, record) entry) :
    entry.findings.GoBy words object.toElement := by
  rcases findings_of_enters h with hnone | ⟨outcome, houtcome, hfindings⟩
  · rw [hnone]
    exact Findings.goBy_none
  · rw [hfindings]
    exact hcheck _ outcome houtcome

/-- Under the title that asks about customer data, errors go by the words of environments, and under
the title that asks about environments they go by the words of customers. -/
theorem quoted_words_by_title {processCandidates onProcesses : List Registered}
    {configuration : Json} {active : List Consideration} {object : Placed} {page : Page}
    (hactive : activeConsiderations processCandidates configuration = .ok (active, onProcesses))
    (hpage : objectPage isDate configuration active object = .ok page)
    (hblack : ¬Blacklists configuration object) :
    ∃ entries : List Entry, page.entries = entries.map Entry.toJson ∧
      ∀ entry ∈ entries, ∀ error ∈ entry.findings.errors,
        (entry.title = "No attribute values contain Customer data?" →
          ValueError environmentWords object error) ∧
        (entry.title = "No values contain any environment specific data?" →
          ValueError customerWords object error) := by
  obtain ⟨records, items, hrecords, hitems, rfl⟩ := records_of_activeConsiderations hactive
  obtain ⟨kind, entries, hentries, hall⟩ := entries_of_objectPage hblack hrecords hitems hpage
  refine ⟨entries, hentries, fun entry hentry error herror => ?_⟩
  obtain ⟨⟨c, record⟩, -, henters⟩ := exists_of_forall₂ hall entry hentry
  rw [title_of_enters henters]
  constructor
  · intro htitle
    obtain rfl : c = .environmentData := title_injective htitle
    exact goBy_of_enters (goBy_checkEnvironmentData isDate object) henters error herror
  · intro htitle
    obtain rfl : c = .customerData := title_injective htitle
    exact goBy_of_enters (goBy_checkCustomerData isDate object) henters error herror

/-- The address by which a field of a web page is found. -/
def addressAttribute : Element where
  name := "attribute"
  attributes := [("name", "pURL"), ("inuse", "True")]
  children := [.element "processvalue" [("value", "https://test.example")] []]

/-- A field of a web page. -/
def addressedField : Element where
  name := "element"
  attributes := [("name", "Field - Search")]
  children :=
    [.element "basetype" [] [.leaf .text "HTMLEdit"],
     .element "attributes" [] [.element addressAttribute.name addressAttribute.attributes
      addressAttribute.children]]

/-- An object whose model has a root and a field of a web page. -/
def addressedObject : Placed :=
  .alone ⟨"process", [("name", "Base A")],
    [.element "appdef" []
      [.element "apptypeinfo" [] [.element "id" [] [.leaf .text "HTMLLaunch"]],
       .element rootElement.name rootElement.attributes rootElement.children,
       .element addressedField.name addressedField.attributes addressedField.children]]⟩

/-- A configuration whose one record asks about customer data. -/
def customerConfiguration : Json :=
  plainConfiguration [objectRecord "No attribute values contain Customer data?" true "" ""]

theorem activeConsiderations_customerConfiguration :
    activeConsiderations [] customerConfiguration = .ok ([.environmentData], []) :=
  activeConsiderations_singleton rfl rfl

theorem exists_addressedPage :
    ∃ page, objectPage Calendar.recognise customerConfiguration [.environmentData]
      addressedObject = .ok page :=
  exists_of_toBool (by decide +kernel)

/-- What is quoted to the question about customer data goes by the words of environments. -/
theorem customer_title_goes_by_environment_words :
    ∃ page, objectPage Calendar.recognise customerConfiguration [.environmentData]
        addressedObject = .ok page ∧
      ∃ entries : List Entry, page.entries = entries.map Entry.toJson ∧
      ∀ entry ∈ entries, entry.title = "No attribute values contain Customer data?" →
        ∀ error ∈ entry.findings.errors, ValueError environmentWords addressedObject error := by
  obtain ⟨page, hpage⟩ := exists_addressedPage
  obtain ⟨entries, hentries, hall⟩ := quoted_words_by_title
    activeConsiderations_customerConfiguration hpage (not_blacklists_plainConfiguration _ _)
  exact ⟨page, hpage, entries, hentries, fun entry hentry htitle error herror =>
    (hall entry hentry error herror).1 htitle⟩

/-- The error that quotes the address. -/
def addressError : Finding :=
  ⟨quoteValue (environmentHeading .html) addressedField "HTMLEdit" addressAttribute
    "https://test.example", some ""⟩

theorem not_valueError_addressError : ¬ValueError customerWords addressedObject addressError := by
  have helements : ∀ model, model? addressedObject.toElement = some model →
      modelElements model = [rootElement, addressedField] := by
    rintro model ⟨rfl⟩
    rfl
  generalize herror : addressError = error
  rintro (hnone | ⟨hmodel, -, -⟩ | ⟨hmodel, helement, -, hattr, hvalue, hword⟩)
  · cases hnone
  · have hname : addressError.name ≠ some "Unknown application type" := by decide +kernel
    exact hname (congrArg Finding.name herror)
  · rw [helements _ hmodel] at helement
    rcases List.mem_pair.mp helement with rfl | rfl
    · cases hattr
    · obtain rfl : _ = addressAttribute := List.mem_singleton.mp hattr
      cases hvalue
      exact absurd hword (by decide +kernel)

/-- The address is quoted to the question about customer data, though no word of customers stands
in it. -/
theorem address_is_quoted_as_customer_data :
    activeConsiderations [] customerConfiguration = .ok ([.environmentData], []) ∧
    (∃ page entry, objectPage Calendar.recognise customerConfiguration [.environmentData]
        addressedObject = .ok page ∧
      page.entries = [Entry.toJson entry] ∧
      entry.title = "No attribute values contain Customer data?" ∧
      entry.findings.errors = [addressError]) ∧
    anyOccurs customerWords (lower "https://test.example") = false ∧
    ¬ValueError customerWords addressedObject addressError := by
  refine ⟨activeConsiderations_customerConfiguration, ?_, by decide +kernel,
    not_valueError_addressError⟩
  obtain ⟨page, hpage⟩ := exists_addressedPage
  have hintro : introduce addressedObject = .ok ⟨"Base A", [], .base, false⟩ := rfl
  obtain ⟨entries, hentries, hall⟩ :=
    entries_of_introduce hintro (not_blacklists_plainConfiguration _ _) rfl rfl hpage
  rw [assignments_singleton rfl, List.forall₂_cons_left_iff] at hall
  obtain ⟨entry, rest, henters, hrest, rfl⟩ := hall
  obtain rfl := List.forall₂_nil_left_iff.mp hrest
  refine ⟨page, entry, hpage, hentries, title_of_enters henters, ?_⟩
  obtain ⟨sheet, hsheet, rfl⟩ := henters
  rw [sheetUnder_of_unforced rfl rfl] at hsheet
  obtain ⟨outcome, houtcome, hfindings⟩ : ∃ outcome,
      checkEnvironmentData Calendar.recognise addressedObject
          (.ofJson (withKind customerConfiguration .base)) = .ok outcome ∧
        sheet.findings = outcome.findings := findings_of_assess hsheet
  have herrors : ((checkEnvironmentData Calendar.recognise addressedObject
      (.ofJson (withKind customerConfiguration .base))).toOption.map
        fun outcome => outcome.findings.errors) = some [addressError] := by
    decide +kernel
  rw [houtcome] at herrors
  rw [Entry.ofSheet, hfindings]
  exact Option.some.inj herrors

end ReleaseReview
