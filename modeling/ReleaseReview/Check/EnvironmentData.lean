import ReleaseReview.Check.Value

/-!
# Environment data in the application model

Values by which an element is found should hold nothing that belongs to one environment only. A
value with a word that goes with such data is an error. Elements are looked at once the model's
root has been found. What the check has to say it also says aloud as it goes, so its work is an
`Account` of remarks.
-/

namespace ReleaseReview

open Markup Text

/-- A remark: what it finds, and what it says aloud. -/
structure Remark where
  findings : Findings
  said : Option String

/-- The attributes that may hold the data of an environment. -/
def environmentAttributes : Technology → List String
  | .windows => ["AncestorsText", "pWindowText", "WindowText"]
  | .html => ["pURL"]
  | .activeAccessibility => ["Name", "pName", "WindowText", "AncestorText"]
  | .java => ["Name", "Description", "JavaText"]

/-- What to do with an element of some base type. -/
inductive Handling where
  /-- Such elements hold no data of an environment. -/
  | pass
  | check (technology : Technology)
  /-- The base type is not known. -/
  | unknown
  deriving DecidableEq, Repr

/-- How elements of a base type are handled. -/
def environmentHandling (type : String) : Handling :=
  if occurs "SAP" type || occurs "UIA" type then .pass
  else if occurs "HTML" type then .check .html
  else if occurs "AA" type then .check .activeAccessibility
  else if occurs "Java" type then .check .java
  else if occurs "Win" type then .check .windows
  else if isWin32Type type then .check .windows
  else .unknown

/-- The heading of an error in a technology. -/
def environmentHeading (technology : Technology) : String :=
  match technology with
  | .activeAccessibility => "AA attribute value contains potential customer data"
  | other => other.name ++ " attribute value contains potential environment specific data"

/-- What a value that says something gives rise to. Errors in Windows are not said aloud. -/
def judgeEnvironmentValue (technology : Technology) (element : Element) (type : String)
    (attr : Element) (value : String) : Remark :=
  if mayBeEnvironmentData value then
    let error := quoteValue (environmentHeading technology) element type attr value
    ⟨.error error (some ""), if technology = .windows then none else some error⟩
  else ⟨.none, none⟩

/-- What the values of an element give rise to. -/
def judgeEnvironmentElement (isDate : DateReader) (rootFound : Bool) (element : Element)
    (type : Option String) : Account Remark Unit := do
  if !rootFound then return
  match type with
  | none => Account.of (.error (.notSearchable "NoneType"))
  | some type =>
    match environmentHandling type with
    | .pass => return
    | .unknown => Account.note ⟨.none, some (type ++ " is a basetype we haven't seen")⟩
    | .check technology =>
      let attributes ← need "contents" (element.child? "attributes")
      let candidates ← attributesIn attributes.children
      judgeValues isDate (judgeEnvironmentValue technology element type)
        (fixedAttributes (environmentAttributes technology) candidates)

/-- The remark on an application's type. -/
def remarkApplication (type : String) : Remark where
  findings := (judgeApplication type).findings
  said := if applicationTypes.contains type then none else some "Unknown application type"

/-- The remarks on an object, and the ruling if there is one. -/
def environmentRemarks (isDate : DateReader) (object : Placed) (facts : Facts) :
    Account Remark (Option Ruling) := do
  if (← facts.kind) = .wrapper then return some .notApplicable
  match model? object with
  | none =>
    Account.note ⟨noModel, none⟩
    return none
  | some model =>
    if inheritsModel object then return some .notApplicable
    let application ← applicationType model
    Account.note (remarkApplication application)
    judgeElements (judgeEnvironmentElement isDate) false (modelElements model)
    return (judgeApplication application).ruling

/-- Do no values of the application model hold the data of an environment? -/
def checkEnvironmentData (isDate : DateReader) : Check := fun object facts => do
  let account := environmentRemarks isDate object facts
  let ruling ← account.result
  return ⟨.join (account.notes.map Remark.findings), ruling⟩

end ReleaseReview
