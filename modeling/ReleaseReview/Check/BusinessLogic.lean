import ReleaseReview.Check.Expression

/-!
# Business logic in an object

Decisions that belong to the business are for the process to make. A base object should make none at
all, but for those that attaching needs; any other object only decisions that look at flags or count
loops.
-/

namespace ReleaseReview

open Markup Text

/-- Words in the names of Actions of a base object that may make decisions. -/
def decidingWords : List String :=
  ["attach", "detach", "launch", "terminate"]

/-- Words in the names of decisions that count loops. -/
def loopWords : List String :=
  ["retry", "retries", "loop", "count"]

/-- The expression of a decision. -/
def expressionOf (decision : Element) : Except Fault (Option String) := do
  let expression ← need "get" (decision.within? "decision")
  return expression.attr? "expression"

/-! ## Base objects -/

/-- A choice of a base object. -/
def judgeBaseChoice (object : Placed) (choice : Element) : Except Fault Findings := do
  let page ← pageOf object choice
  return .error ("Choice stage '" ++ shown (choice.attr? "name") ++ "' in a base Object") page

/-- A decision of a base object. -/
def judgeBaseDecision (object : Placed) (decision : Element) : Except Fault Findings := do
  let page ← pageOf object decision
  if anyOccurs decidingWords (← lowered page) then return .none
  let expression ← expressionOf decision
  return .error ("Decision stage '" ++ shown (decision.attr? "name") ++
    "' in a base Object\nExpression: '" ++ shown expression ++ "'") page

/-! ## Other objects -/

/-- The branches of a choice, up to the first that does not look at flags. -/
def judgeBranches (object : Placed) (pages : PageIndex) (choice : Element) :
    List Node → Except Fault Findings
  | [] => .ok .none
  | branch :: branches => do
    let expression ← branch.attr "expression"
    let page := pages.nameOf (← pageId choice)
    if ← looksAtFlags object expression then judgeBranches object pages choice branches
    else
      return .warning ("\nChoice stage '" ++ shown (choice.attr? "name") ++
        "' has decision not based on a flag Data item. This could suggest Process logic in a " ++
        "Business Object.\nExpression '" ++ shown expression) page

/-- A choice of another object. -/
def judgeChoice (object : Placed) (pages : PageIndex) (choice : Element) : Except Fault Findings :=
  match choice.within? "choices" with
  | none => .error (.notIterable "NoneType")
  | some choices => judgeBranches object pages choice choices.children

/-- A decision of another object. -/
def judgeDecision (object : Placed) (pages : PageIndex) (decision : Element) :
    Except Fault Findings := do
  let name := decision.attr? "name"
  if anyOccurs loopWords (← lowered name) then return .none
  let expression ← expressionOf decision
  let page := pages.nameOf (← pageId decision)
  if ← looksAtFlags object expression then return .none
  if page.isNone then .error (.notJoined "NoneType")
  else
    return .warning ("\nDecision could potentially indicate Business logic appropriate for the " ++
      "Process level. \nDecision name: '" ++ shown name ++ "' \nExpression: '" ++
      shown expression ++ "'") page

/-- A review of stages that needs the object's pages if there is any stage. -/
def reviewOnPages (object : Placed) (stages : List Placed)
    (judge : PageIndex → Element → Except Fault Findings) : Except Fault Findings := do
  if stages.isEmpty then return .none
  let pages ← PageIndex.of object
  review stages fun stage => judge pages stage

/-- Is there no business logic in the object? -/
def checkBusinessLogic : Check := fun object facts => do
  let decisions := stagesOf object "Decision"
  let choices := stagesOf object "ChoiceStart"
  if (← facts.kind) = .base then
    let first ← review choices fun choice => judgeBaseChoice object choice
    let second ← review decisions fun decision => judgeBaseDecision object decision
    return .found (first ++ second)
  else
    let first ← reviewOnPages object choices (judgeChoice object)
    let second ← reviewOnPages object decisions (judgeDecision object)
    return .found (first ++ second)

end ReleaseReview
