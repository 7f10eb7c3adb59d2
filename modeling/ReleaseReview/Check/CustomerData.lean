import ReleaseReview.Check.Value

/-!
# Customer data in the application model

Values that are not fixed may hold the data of a customer. A value with a word that goes with such
data is an error, and any other value that says something is a warning.
-/

namespace ReleaseReview

open Markup Text

/-- The attributes that may hold the data of a customer. -/
def customerAttributes : Technology → List String
  | .windows => ["WindowText"]
  | .html => ["Title", "Value"]
  | .activeAccessibility => ["Name", "pName", "WindowText", "Value", "Description"]
  | .java => ["Name", "Description", "JavaText"]

/-- The technology by whose rules an element's values are checked. Buttons hold no such data, nor do
elements spied in SAP or UIA, windows and unknown elements. -/
def customerTechnology? (type : String) : Option Technology :=
  if occurs "button" (lower type) then none
  else if occurs "SAP" type || occurs "UIA" type then none
  else if occurs "HTML" type then some .html
  else if occurs "AA" type then some .activeAccessibility
  else if occurs "Java" type then some .java
  else if occurs "Win" type then none
  else if isWin32Type type then some .windows
  else none

/-- The value of the first attribute with a name, if there is such an attribute. -/
def statedValue? (attributes : Element) (name : String) : Except Fault (Option String) :=
  match (attributes.childrenNamed "attribute").find? (fun a => a.attr? "name" == some name) with
  | none => .ok none
  | some attr => do
    let holder ← need "get" (attr.within? "processvalue")
    return holder.attr? "value"

/-- Do the attributes of a web element say that it is a button or a link? -/
def isClickable (attributes : Element) : Except Fault Bool := do
  if (← statedValue? attributes "InputType") == some "button" then return true
  let tag ← statedValue? attributes "TagName"
  return tag == some "A" || tag == some "BUTTON"

/-- The attributes of an element that may hold the data of a customer. -/
def customerCandidates (technology : Technology) (element : Element) :
    Except Fault (List Element) := do
  let attributes := element.child? "attributes"
  if technology = .html then
    if ← isClickable (← need "find" attributes) then return []
  let nodes := (← need "contents" attributes).children
  return openAttributes (customerAttributes technology) (← attributesIn nodes)

/-- What a value that says something gives rise to. -/
def judgeCustomerValue (technology : Technology) (element : Element) (type : String)
    (attr : Element) (value : String) : Findings :=
  if mayBeCustomerData value then
    .error (quoteValue (technology.name ++ " attribute value contains potential customer data")
      element type attr value) (some "")
  else
    .warning (quoteValue (technology.name ++ " attribute value check") element type attr value)
      (some "")

/-- What the values of an element give rise to. -/
def judgeCustomerElement (isDate : DateReader) (element : Element) (type : Option String) :
    Account Findings Unit := do
  let type ← need "lower" type
  match customerTechnology? type with
  | none => return
  | some technology =>
    let attributes ← customerCandidates technology element
    judgeValues isDate (judgeCustomerValue technology element type) attributes

/-- Do no values of the application model hold the data of a customer? -/
def checkCustomerData (isDate : DateReader) : Check := checkModel fun model => do
  let application ← applicationType model
  let findings ← gathered
    (judgeElements (fun _ => judgeCustomerElement isDate) false (modelElements model))
  return (judgeApplication application).add findings

end ReleaseReview
