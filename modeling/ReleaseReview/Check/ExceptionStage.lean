import ReleaseReview.Check.Basic

/-!
# Exception stages

A stage that raises an exception should give it a detail of some length and one of the usual types.
One that passes on the current exception needs neither.
-/

namespace ReleaseReview

open Markup Text

/-- The exceptions of an object in document order, each with its stage. -/
def exceptions (object : Element) : List (Element × Element) :=
  object.allWithinUnder "exception"

/-- Does the exception pass on the current one? -/
def passesOn (exception : Element) : Bool :=
  exception.isSet "usecurrent"

/-! ## Missing details -/

/-- The name of the page with an id, wherever it is in the object. -/
def pageNamed (object : Placed) (id : Option String) : Except Fault (Option String) := do
  let page ← need "next_element"
    ((object.placedWithin "subsheet").find? fun page => meets id (page.attr? "subsheetid"))
  pageName page

/-- An exception without a detail. -/
def judgeDetail (object : Placed) (exception stage : Element) : Except Fault Findings := do
  if exception.isSet "detail" || passesOn exception then return .none
  let page ← pageNamed object (← pageId stage)
  return ⟨[⟨stage.attr? "name", page⟩], []⟩

/-- Do all exceptions have a detail? -/
def checkExceptionDetails : Check := fun object _ => do
  return .found (← review (exceptions object) fun (exception, stage) =>
    judgeDetail object exception stage)

/-! ## Types and lengths of details -/

/-- A shorter detail is too short. -/
def minDetailLength : Nat := 10

/-- A shorter detail may be too short. -/
def shortDetailLength : Nat := 25

/-- What is said of a detail shorter than some length. -/
def shortDetail (stage : Element) (least : Nat) (detail : String) : String :=
  "Exception '" ++ shown (stage.attr? "name") ++ "' has less than " ++ counted least ++
    " characters (" ++ counted detail.length ++ ") - " ++ detail

/-- The length of an exception's detail. -/
def judgeDetailLength (object : Placed) (exception stage : Element) : Except Fault Findings :=
  match exception.attr? "detail" with
  | none => .error (.noLength "NoneType")
  | some detail => do
    if detail.length < minDetailLength then
      return .error (shortDetail stage minDetailLength detail) (← pageOf object stage)
    if detail.length < shortDetailLength then
      return .warning (shortDetail stage shortDetailLength detail) (← pageOf object stage)
    return .none

/-- A business exception in an object that is no wrapper. -/
def judgeBusinessException (object : Placed) (facts : Facts) (exception stage : Element) :
    Except Fault Findings := do
  if (← facts.kind) = .wrapper then return .none
  match exception.attr? "type" with
  | none => .error (.notSearchable "NoneType")
  | some type =>
    if !occurs "Business" type then return .none
    let page ← pageOf object stage
    return .error ("Business Exception in a Base Object: '" ++ shown (stage.attr? "name") ++ "'")
      page

/-- The type and the detail of an exception. -/
def judgeTypeDetail (object : Placed) (facts : Facts) (exception stage : Element) :
    Except Fault Findings := do
  if passesOn exception then return .none
  let business ← judgeBusinessException object facts exception stage
  return business ++ (← judgeDetailLength object exception stage)

/-- Do exceptions give an appropriate type and detail? -/
def checkTypeDetail : Check := fun object facts => do
  return .found (← review (exceptions object) fun (exception, stage) =>
    judgeTypeDetail object facts exception stage)

/-! ## The usual types -/

/-- The usual types of exception, in lower case. -/
def exceptionTypes : List String :=
  ["system exception", "business exception"]

/-- The type of an exception. -/
def judgeExceptionType (object : Placed) (exception stage : Element) : Except Fault Findings := do
  if passesOn exception then return .none
  let name := shown (stage.attr? "name")
  let type := (exception.attr? "type").getD ""
  if type.isEmpty then
    return .error ("'" ++ name ++ "' has no Exception Type") (← pageOf object stage)
  if anyOccurs exceptionTypes (lower type) then return .none
  return .error ("'" ++ name ++ "' has Exception Type of '" ++ type ++ "'") (← pageOf object stage)

/-- Do exceptions have one of the usual types? -/
def checkExceptionType : Check := fun object _ => do
  return .found (← review (exceptions object) fun (exception, stage) =>
    judgeExceptionType object exception stage)

end ReleaseReview
