import ReleaseReview.Check.Navigate

/-!
# Waits that time out

When the time of a wait is up, the object should raise an exception or end. On the way there may be
anchors, and one calculation. The stages are told by lists of ids: a link leads to a stage of a
type if the id of one stands in it.
-/

namespace ReleaseReview

open Markup Text

/-- The ids of the stages that a timeout may lead to. -/
structure TimeoutIds where
  exceptions : List (Option String)
  ends : List (Option String)
  calculations : List (Option String)

/-- The ids of an object's stages. -/
def TimeoutIds.of (object : Placed) : TimeoutIds :=
  let ids := fun type => (stagesOf object type).map fun stage => stage.attr? "stageid"
  ⟨ids "Exception", ids "End", ids "Calculation"⟩

/-- Does one of the ids stand in a link? -/
def leadsTo (ids : List (Option String)) (link : Option String) : Except Fault Bool :=
  ids.anyM fun id => nameIn id link

/-- The type of the stage that a link ends at. `calculated` tells whether a calculation was met; at
most `fuel` links are followed. -/
def timeoutTarget (object : Element) (ids : TimeoutIds) :
    Nat → Bool → Option Element → Except Fault (Option String)
  | 0, _, _ => .error .endless
  | fuel + 1, calculated, link => do
    let target := (← need "string" link).soleText?
    if ← leadsTo ids.exceptions target then return some "Exception"
    if ← leadsTo ids.ends target then return some "End"
    let calculation ← leadsTo ids.calculations target
    if calculation && calculated then return some "Calculation"
    let stage ← need "get" (stageWithId? object target)
    let type := stage.attr? "type"
    if type = some "Anchor" ∨ type = some "Calculation" then
      timeoutTarget object ids fuel (calculated || calculation) (stage.within? "onsuccess")
    else return type

/-- How many links a timeout can lead along, if its anchors do not go round in a circle. -/
def timeoutFuel (object : Placed) : Nat :=
  2 * anchorCount object + 2

/-- What the end of a wait gives rise to. -/
def judgeWaitEnd (object : Placed) (ids : TimeoutIds) (waitEnd : Element) :
    Except Fault Findings := do
  let name := shown (waitEnd.attr? "name")
  match waitEnd.within? "onsuccess" with
  | none => return .error ("'" ++ name ++ "' timeout has no connection") (← pageOf object waitEnd)
  | some link =>
    let type ← timeoutTarget object ids (timeoutFuel object) false (some link)
    if type = some "End" ∨ type = some "Exception" then return .none
    return .error ("'" ++ name ++ "' timed out to a " ++ shown type ++ " stage")
      (← pageOf object waitEnd)

/-- Do waits time out to an exception? -/
def checkWaitTimeout : Check := fun object facts => do
  if (← facts.kind) = .wrapper then return .notApplicable
  let ids := TimeoutIds.of object
  return .found (← review (stagesOf object "WaitEnd") fun waitEnd =>
    judgeWaitEnd object ids waitEnd)

end ReleaseReview
