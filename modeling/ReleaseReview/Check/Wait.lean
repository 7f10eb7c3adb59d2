import ReleaseReview.Check.Basic

/-!
# Waits

A wait ends when one of its conditions holds or when its time is up. The time should come from a
data item of the initial page, and there should be a condition.
-/

namespace ReleaseReview

open Markup Text

/-- The stages of one type, however deep. -/
def allStagesOf (object : Element) (type : String) : List Element :=
  (object.allWithin "stage").filter fun s => s.attr? "type" == some type

/-! ## Timeouts -/

/-- The names of the data items on the initial page, whose stages hold no page id. -/
def globalItems (object : Element) : List (Option String) :=
  ((allStagesOf object "Data").filter fun s => (s.within? "subsheetid").isNone).map (·.attr? "name")

/-- Does the wait take its time from one of the items? -/
def judgeTimeout (object : Placed) (items : List (Option String)) (wait : Element) :
    Except Fault Findings := do
  let timeout ← need "string" (wait.within? "timeout")
  let time := timeout.soleText?
  if ← items.anyM fun item => nameIn item time then return .none
  let page ← pageOf object wait
  return .error ("Wait stage '" ++ shown (wait.attr? "name") ++ "' has timeout value: " ++
    shown time) page

/-- Do the waits take their time from data items of the initial page? -/
def checkGlobalTimeout : Check := fun object _ => do
  let items := globalItems object
  if items.isEmpty then
    return ⟨.error "No global timeout Data items" (some "Initialise"), some .failed⟩
  return .found (← review (allStagesOf object "WaitStart") (judgeTimeout object items))

/-! ## Conditions -/

/-- A wait without a condition. -/
def judgeArbitrary (object : Placed) (wait : Element) : Except Fault Findings :=
  match wait.within? "choices" with
  | none => .error (.noLength "NoneType")
  | some choices => do
    if !choices.children.isEmpty then return .none
    let page ← pageOf object wait
    return .error ("Wait stage has no condition: '" ++ shown (wait.attr? "name") ++ "'") page

/-- Do the waits have conditions? This does not matter where surface automation is used. -/
def checkNotArbitrary : Check := fun object facts => do
  if ← facts.surfaceUsed then return .notApplicable
  if (← facts.kind) = .wrapper then return .notApplicable
  let waits := stagesOf object "WaitStart"
  if waits.isEmpty then return .notApplicable
  return .found (← review waits fun wait => judgeArbitrary object wait)

end ReleaseReview
