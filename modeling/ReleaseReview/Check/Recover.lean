import ReleaseReview.Check.Basic

/-!
# Recovering from exceptions

To recover from an exception is for the process. Each page that does so is noted once, however many
stages of it do.
-/

namespace ReleaseReview

open Markup Text

/-- Words in the names of Actions that may recover. -/
def recoveringWords : List String :=
  ["attach", "detach"]

/-- A page of an object that recovers. -/
def judgeRecovery (kind : Kind) (page : Option String) : Except Fault Findings := do
  if kind = .wrapper then
    return .warning "Exception handling (Recover stage) in a wrapper Object" page
  if anyOccurs recoveringWords (← lowered page) then return .none
  return .error "Exception handling (Recover stage) in base Object" page

/-- The findings on stages that recover; `seen` are the ids of pages already noted. -/
def judgeRecoveries (object : Placed) (kind : Kind) :
    List (Option String) → List Placed → Except Fault Findings
  | _, [] => .ok .none
  | seen, stage :: stages => do
    let pages ← PageIndex.of object
    let id ← pageId stage
    if seen.contains id then judgeRecoveries object kind seen stages
    else
      let findings ← judgeRecovery kind (pages.nameOf id)
      return findings ++ (← judgeRecoveries object kind (seen ++ [id]) stages)

/-- Does the object not recover from exceptions? What a wrapper does is not graded. -/
def checkRecover : Check := fun object facts => do
  let kind ← facts.kind
  let findings ← judgeRecoveries object kind [] (stagesOf object "Recover")
  return ⟨findings, if kind = .wrapper then some .notApplicable else none⟩

end ReleaseReview
