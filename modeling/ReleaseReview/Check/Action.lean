import ReleaseReview.Check.Basic

/-!
# Calls and size of Actions

A base object should not call other objects' Actions; other objects may, but should not sleep. And
no Action should have too many stages.
-/

namespace ReleaseReview

open Markup

/-! ## Calls -/

/-- The page of a stage whose page id stands right after its start. -/
def pageRightAfter? (pages : PageIndex) (stage : Placed) :
    Except Fault (Option (Option String)) := do
  let next ← need "name" stage.next?
  return if next.name? = some "subsheetid" then some (pages.nameOf next.soleText?) else none

/-- A call of an Action from a page of an object. -/
def judgeCall (kind : Kind) (call : Element) (page : Option String) : Except Fault Findings := do
  let name := shown (call.attr? "name")
  if kind = .base then return .error ("Action '" ++ name ++ "' called in Object") page
  let resource ← need "get" (call.within? "resource")
  if resource.attr? "action" = some "Sleep" then
    return .warning ("Sleep Action '" ++ name ++ "' called in Object") page
  return .none

/-- A call from a page: its findings, or nothing if it is not on a page. -/
def judgeCallOnPage (kind : Kind) (pages : PageIndex) (call : Placed) :
    Except Fault (Option Findings) := do
  match ← pageRightAfter? pages call with
  | none => return none
  | some page => return some (← judgeCall kind call page)

/-- Does no Action call another object's Action? Applies to base objects, and to other objects that
call none. -/
def checkActionCalled : Check := fun object facts => do
  let pages ← PageIndex.of object
  let kind ← facts.kind
  let calls ← (stagesOf object "Action").mapM (judgeCallOnPage kind pages)
  let onPages := calls.filterMap id
  let exempt := kind = .wrapper ∨ (kind ≠ .base ∧ !onPages.isEmpty)
  return ⟨.join onPages, if exempt then some .notApplicable else none⟩

/-! ## Size -/

/-- Types of stages that do not add to an Action's size. -/
def lightTypes : List String :=
  ["SubSheetInfo", "ProcessInfo", "Note", "Data", "Collection", "Block", "Anchor", "WaitEnd",
   "Start"]

/-- More stages than this are too many. -/
def maxActionSize : Nat := 20

/-- More stages than this may be too many. -/
def largeActionSize : Nat := 12

/-- Does the stage add to the size of the page with this id? -/
def addsTo (id : Option String) (stage : Element) : Bool :=
  !(lightTypes.map some).contains (stage.attr? "type") &&
    match stage.within? "subsheetid" with
    | some page => id == page.soleText?
    | none => false

/-- What the size of an Action gives rise to. -/
def judgeActionSize (size : Nat) (action : Option String) : Findings :=
  let message := fun limit =>
    "Action has more than " ++ counted limit ++ " stages (" ++ counted size ++ ")"
  if maxActionSize < size then .error (message maxActionSize) action
  else if largeActionSize < size then .warning (message largeActionSize) action
  else .none

/-- Are no Actions too large? -/
def checkActionSize : Check := fun object _ => do
  let pages ← PageIndex.of object
  let all := object.childrenNamed "stage"
  return .found (.join (pages.map fun (id, name) => judgeActionSize (all.countP (addsTo id)) name))

end ReleaseReview
