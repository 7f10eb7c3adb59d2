import ReleaseReview.Account
import ReleaseReview.Grade
import ReleaseReview.Json.Access
import ReleaseReview.Object.Kind

/-!
# Checks

A check looks at an object in the light of a few facts from the configuration and comes to an
`Outcome`. The facts are what the configuration says about the object's kind and about the project;
each is looked up where a check needs it, so that a fact that is missing is a fault only there.
-/

namespace ReleaseReview

open Markup Text

/-- What a configuration says that checks depend on. -/
structure Facts where
  /-- The kind of the object. -/
  kind : Except Fault Kind
  /-- Does the project automate through the screen's surface? -/
  surfaceUsed : Except Fault Bool
  /-- Has the project been delivered to production? -/
  inProduction : Except Fault Bool

namespace Facts

/-- The facts that a configuration gives. -/
def ofJson (configuration : Json) : Facts where
  kind := do return Kind.ofJson (← configuration.member "object type")
  surfaceUsed := do
    let project ← configuration.member "additional info"
    return (← project.member "Surface Automation Used?").isText "TRUE"
  inProduction := do
    let project ← configuration.member "additional info"
    return (← project.member "Delivery Stage").isText "Production"

end Facts

/-- A check of an object. -/
abbrev Check := Placed → Facts → Except Fault Outcome

/-- The findings of a review of each item, in order. -/
def review {α : Type} (items : List α) (findings : α → Except Fault Findings) :
    Except Fault Findings := do
  return .join (← items.mapM findings)

@[simp] theorem review_nil {α : Type} (findings : α → Except Fault Findings) :
    review [] findings = .ok .none := rfl

/-- A fault at the first item is the fault of the review. -/
theorem review_cons_error {α : Type} {findings : α → Except Fault Findings} {a : α} {f : Fault}
    (items : List α) (h : findings a = .error f) : review (a :: items) findings = .error f := by
  simp [review, h, bind, Except.bind]

/-- A review of more items puts the findings of the first before those of the others. -/
theorem review_cons_ok {α : Type} {findings : α → Except Fault Findings} {a : α} {found : Findings}
    (items : List α) (h : findings a = .ok found) :
    review (a :: items) findings = (review items findings).map (found ++ ·) := by
  simp only [review, List.mapM_cons, h, bind, Except.bind, pure, Except.pure]
  cases items.mapM findings <;> rfl

/-- The findings left as the notes of an account, if it came to an end. -/
def gathered {α : Type} (account : Account Findings α) : Except Fault Findings := do
  let _ ← account.result
  return .join account.notes

/-- Does one name stand in the other? Both have to be there, the second first. -/
def nameIn (word name : Option String) : Except Fault Bool :=
  match name with
  | none => .error (.notSearchable "NoneType")
  | some name =>
    match word with
    | none => .error (.notSought "NoneType")
    | some word => .ok (occurs word name)

/-- The name in lower case, which has to be there. -/
def lowered (name : Option String) : Except Fault String := do
  return lower (← need "lower" name)

/-- The name of the page that a stage is on. -/
def pageOf (object : Placed) (stage : Element) : Except Fault (Option String) := do
  let pages ← PageIndex.of object
  return pages.nameOf (← pageId stage)

/-- A count in words. -/
def counted (n : Nat) : String :=
  Number.intText n

end ReleaseReview
