import ReleaseReview.Check.Basic

/-!
# Waiting after a navigation

After a navigation the object should wait until the application has followed, unless the navigation
is the last thing that its Action does, pauses by itself, or only selects something.
-/

namespace ReleaseReview

open Markup Text

/-- Words in the names of Actions whose navigations need no wait. -/
def unawaitedWords : List String :=
  ["attach", "detach", "terminate", "close"]

/-- The type of the first stage after a stage that is not an anchor; at most `fuel` stages are
followed. -/
def afterAnchors (object : Element) : Nat → Element → Except Fault (Option String)
  | 0, _ => .error .endless
  | fuel + 1, stage => do
    let link ← need "string" (stage.within? "onsuccess")
    let next ← need "get" (stageWithId? object link.soleText?)
    let type := next.attr? "type"
    if type = some "Anchor" then afterAnchors object fuel next else return type

/-- The number of anchors among an object's stages. -/
def anchorCount (object : Placed) : Nat :=
  (stagesOf object "Anchor").length

/-- Base types of elements that a navigation may select without a wait. -/
def selectableTypes : List String :=
  ["HTMLCombo", "HTMLRadioButton"]

/-- What a step of a navigation tells. -/
inductive StepReading where
  /-- The step works on no element. -/
  | idle
  /-- The step selects something. -/
  | selects
  /-- The step works on an element and does not select it. -/
  | works
  /-- The element is not in the object's own model. -/
  | unknown
  deriving DecidableEq, Repr

/-- The element with an id: what holds the first `id` with this text. -/
def elementWithId? (object : Element) (id : String) : Option Element :=
  ((object.allWithinUnder "id").find? fun found => found.1.soleText? == some id).map Prod.snd

/-- What a step tells. -/
def readStep (object step : Element) : Except Fault StepReading := do
  let target ← need "get" (step.within? "element")
  match target.attr? "id" with
  | none => return .idle
  | some id =>
    if id.isEmpty then return .idle
    match elementWithId? object id with
    | none => return .unknown
    | some element =>
      let datatype ← need "string" (element.within? "datatype")
      if datatype.soleText? = some "flag" then return .selects
      match element.within? "basetype" with
      | none => .error (.notSearchable "NoneType")
      | some type => return if selectableTypes.any type.holdsLeaf then .selects else .works

/-- What the steps of a navigation give rise to. `error` is the error so far. -/
def judgeSteps (object navigation : Element) (action : Option String) :
    String → List Element → Except Fault Findings
  | error, [] => .ok (.error error action)
  | error, step :: steps => do
    let name := shown (navigation.attr? "name")
    match ← readStep object step with
    | .idle => judgeSteps object navigation action error steps
    | .selects => return .none
    | .works =>
      judgeSteps object navigation action
        ("Navigate stage not followed by a Wait stage: '" ++ name ++ "'") steps
    | .unknown =>
      return .warning ("Navigate '" ++ name ++ "' not followed by a Wait or End, but App Model " ++
        "is inherited so can't determine if a Wait is necessary") action

/-- What a navigation gives rise to. -/
def judgeNavigation (object : Placed) (pages : PageIndex) (navigation : Element) :
    Except Fault Findings := do
  let action := pages.nameOf (← pageId navigation)
  if (navigation.within? "onsuccess").isNone then
    return .error "Navigate stage isn't connected to another stage" action
  if !(← nameNotBlacklisted unawaitedWords action) then return .none
  let type ← afterAnchors object (anchorCount object + 1) navigation
  if type = some "WaitStart" ∨ type = some "End" ∨ navigation.hasAttr "interval" then return .none
  judgeSteps object navigation action "" (navigation.childrenNamed "step")

/-- Are navigations followed by a wait? -/
def checkNavigate : Check := fun object facts => do
  if (← facts.kind) ≠ .base then return .notApplicable
  let navigations := stagesOf object "Navigate"
  if navigations.isEmpty then return .notApplicable
  let pages ← PageIndex.of object
  return .found (← review navigations fun navigation => judgeNavigation object pages navigation)

end ReleaseReview
