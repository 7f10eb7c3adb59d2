import ReleaseReview.Check.Basic

/-!
# Documentation of Actions

Every Action should have a description, every input and output a description of its own, and every
start of an Action its conditions. The kind of the object only decides where missing conditions are
filed: as errors of a base object, as warnings of a wrapper, nowhere for surface automation.
-/

namespace ReleaseReview

open Markup

/-- Words in the names of Actions that need no documentation. -/
def undocumentedWords : List String :=
  ["attach", "initialise", "clean up", "detach"]

/-- An Action without a description. -/
def judgeDescription (info : Element) : Except Fault Findings := do
  let description ← need "string" (info.within? "narrative")
  if description.soleText?.isSome then return .none
  let name := info.attr? "name"
  if ← nameNotBlacklisted undocumentedWords name then
    return .error "Missing Action Description" name
  return .none

/-- The parameters under an element of a stage. -/
def parametersOf (stage : Element) (list : String) : List Element :=
  match stage.within? list with
  | some parameters => parameters.childElements
  | none => []

/-- A parameter of a stage without a description. -/
def judgeParameter (pages : PageIndex) (heading : String) (stage parameter : Element) :
    Except Fault Findings := do
  if parameter.isSet "narrative" then return .none
  let page := pages.nameOf (← pageId stage)
  return .error (heading ++ shown (parameter.attr? "name")) page

/-- The parameters of one kind in the stages. -/
def judgeParameters (pages : PageIndex) (list heading : String) (stages : List Placed) :
    Except Fault Findings :=
  review stages fun stage =>
    review (parametersOf stage list) (judgeParameter pages heading stage)

/-- The index of the pages, and what the descriptions, the inputs and the outputs give rise to. -/
def judgeNarratives (object : Placed) : Except Fault (PageIndex × Findings) := do
  let pages ← PageIndex.of object
  let infos := (object.allWithin "stage").filter fun s => s.attr? "type" == some "SubSheetInfo"
  let descriptions ← review infos judgeDescription
  let inputs ← judgeParameters pages "inputs" "Missing input param description: "
    (stagesOf object "Start")
  let outputs ← judgeParameters pages "outputs" "Missing output param description: "
    (stagesOf object "End")
  return (pages, descriptions ++ inputs ++ outputs)

/-- Which of an Action's conditions are missing, in words; nothing if none is. -/
def missingConditions? (start : Element) : Option String :=
  match (start.within? "preconditions").isSome, (start.within? "postconditions").isSome with
  | true, true => none
  | true, false => some "No Postcondition"
  | false, true => some "No Precondition"
  | false, false => some "No Precondition or Postcondition"

/-- Missing conditions, filed by the kind of the object. -/
def fileConditions (kind : Kind) (missing : String) (page : Option String) : Findings :=
  match kind with
  | .wrapper => .warning (missing ++ " in Wrapper") page
  | .base => .error missing page
  | _ => .none

/-- The conditions of an Action. The start of the initial page is on no page and needs none. -/
def judgeConditions (facts : Facts) (pages : PageIndex) (start : Element) :
    Except Fault Findings := do
  match start.within? "subsheetid" with
  | none => return .none
  | some id =>
    let page := pages.nameOf id.soleText?
    if ← nameNotBlacklisted undocumentedWords page then
      match missingConditions? start with
      | none => return .none
      | some missing => return fileConditions (← facts.kind) missing page
    else return .none

/-- Are the object's Actions documented? -/
def checkDocumentation : Check := fun object facts => do
  let (pages, narratives) ← judgeNarratives object
  let conditions ← review (stagesOf object "Start") fun start => judgeConditions facts pages start
  return .found (narratives ++ conditions)

end ReleaseReview
