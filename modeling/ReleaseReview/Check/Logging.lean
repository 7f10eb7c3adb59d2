import ReleaseReview.Check.Basic

/-!
# Logging

A stage logs always, only its errors, or never. The check asks about production only, where the
policy allows every one of these modes.
-/

namespace ReleaseReview

open Markup

/-- When a stage logs. -/
inductive LoggingMode where
  | disabled
  | errorsOnly
  | enabled
  deriving DecidableEq, Repr

/-- The modes in ascending order of what is logged. -/
def LoggingMode.level : LoggingMode → Nat
  | .disabled => 1
  | .errorsOnly => 2
  | .enabled => 3

/-- When a stage logs. -/
def loggingMode (stage : Element) : LoggingMode :=
  match stage.within? "loginhibit" with
  | none => .enabled
  | some inhibit => if inhibit.isSet "onsuccess" then .errorsOnly else .disabled

/-- Does the logging follow the policy? Only asked in production. -/
def checkLogging : Check := fun object facts => do
  if !(← facts.inProduction) then return .notApplicable
  let _ ← PageIndex.of object
  return .found .none

end ReleaseReview
