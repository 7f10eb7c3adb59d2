import ReleaseReview.Check.Basic

/-!
# Attaching to the application

An object needs an Action that attaches to the application, and every other Action of a base object
should start with a reference to it, and then wait until the application is there. Actions that
start or end the work on an application are exempt.
-/

namespace ReleaseReview

open Markup Text

/-- Words in the names of Actions that need not start with an attach. -/
def unattachedWords : List String :=
  ["launch", "close", "terminate", "attach", "initialise", "clean up", "detach", "send key"]

/-- The direct pages of an object, in their places. -/
def pagesOf (object : Placed) : List Placed :=
  object.placedChildren "subsheet"

/-! ## An Action that attaches -/

/-- Is there an Action with "attach" in its name? The pages are looked at in order up to the first
that has it. -/
def hasAttach (object : Placed) : Except Fault Bool :=
  (pagesOf object).anyM fun page => do return occurs "attach" (← lowered (← pageName page))

/-- Does the object have an Action that attaches? -/
def checkHasAttach : Check := fun object facts => do
  if (← facts.kind) = .wrapper then return .notApplicable
  if ← hasAttach object then return .found .none
  return .found (.error "Unable to find and an Attach page within the Object" (some "N/A"))

/-! ## Actions that start with an attach -/

/-- The stages that refer to a page, however deep. -/
def pageReferences (object : Element) : List Element :=
  (object.allWithin "stage").filter fun s => s.attr? "type" == some "SubSheet"

/-- Is a reference with this id one to an attach? -/
def attachesAt (references : List Element) (id : Option String) : Except Fault Bool :=
  references.anyM fun reference => do
    if reference.attr? "stageid" == id then
      return occurs "attach" (← lowered (reference.attr? "name"))
    else return false

/-- Does one of the page's starts lead to an attach? A start belongs to the page whose id is the
text of the node next to it. -/
def beginsWithAttach (starts : List Placed) (references : List Element) (page : Element) :
    Except Fault Bool :=
  starts.anyM fun start => do
    let next ← need "string" start.next?
    if next.soleText? == page.attr? "subsheetid" then
      let link ← need "string" (start.within? "onsuccess")
      attachesAt references link.soleText?
    else return false

/-- The findings on those Actions of an object that are not exempt. -/
def reviewActions (object : Placed) (judge : Placed → Option String → Except Fault Findings) :
    Except Fault Findings :=
  review (pagesOf object) fun page => do
    let name ← pageName page
    if ← nameNotBlacklisted unattachedWords name then judge page name else return .none

/-- What the beginning of an Action gives rise to. -/
def judgeAttach (object page : Placed) (name : Option String) : Except Fault Findings := do
  if ← beginsWithAttach (stagesOf object "Start") (pageReferences object) page then return .none
  return .error "Action doesn't start with Attach stage" name

/-- Do all Actions start with a reference to an attach? -/
def checkUseAttach : Check := fun object facts => do
  if (← facts.kind) = .wrapper then return .notApplicable
  return .found (← reviewActions object (judgeAttach object))

/-! ## Actions that wait after the attach -/

/-- The condition that a choice of a wait tests. -/
def conditionOf (choice : Node) : Except Fault String :=
  match choice.element? with
  | none => .error (.noMember choice.kind "condition")
  | some choice => do
    let condition ← need "id" (choice.within? "condition")
    let id ← need "string" (condition.within? "id")
    lowered id.soleText?

/-- Does one of the choices test that something is there? -/
def testsPresence (choices : List Node) : Except Fault Bool :=
  choices.anyM fun choice => do
    let condition ← conditionOf choice
    return occurs "exists" condition || occurs "loaded" condition

/-- What the wait after an attach gives rise to. -/
def judgeFirstWait (wait : Element) (action : Option String) : Except Fault Findings := do
  let choices ← need "contents" (wait.within? "choices")
  if choices.children.isEmpty then
    return .error "Wait stage following Attach has no conditions" action
  if ← testsPresence choices.children then return .none
  return .error "Wait stage following Attach, but no 'Check Exists'" action

/-- What the start of an Action gives rise to. -/
def judgeStart (object start : Element) (action : Option String) : Except Fault Findings := do
  let first ← need "get" (successor? start object)
  if first.attr? "type" == some "SubSheet" then
    let second ← need "get" (successor? first object)
    if second.attr? "type" == some "WaitStart" then judgeFirstWait second action
    else return .error "Attach page not followed by a Wait stage" action
  else return .error "Action doesnt start with Attach" action

/-- Is the stage on the page with an id? -/
def isOnPage (stage : Element) (id : Option String) : Bool :=
  match stage.within? "subsheetid" with
  | some page => page.soleText? == id
  | none => false

/-- The starts on the page with an id. -/
def startsOn (object : Placed) (id : Option String) : List Placed :=
  (stagesOf object "Start").filter fun start => isOnPage start.toElement id

/-- What the starts of an Action give rise to. -/
def judgeStarts (object page : Placed) (name : Option String) : Except Fault Findings :=
  review (startsOn object (page.attr? "subsheetid")) fun start => judgeStart object start name

/-- Does each Action start with an attach and a wait? -/
def checkStartWait : Check := fun object facts => do
  if (← facts.kind) = .wrapper then return .notApplicable
  return .found (← reviewActions object (judgeStarts object))

end ReleaseReview
