import ReleaseReview.Check.Model

/-!
# Exposure of the object

An object that works an application cannot run in the background.
-/

namespace ReleaseReview

open Markup

/-- Does the object work an application, through a model of its own or an inherited one? -/
def worksApplication (object : Element) : Except Fault Bool := do
  let model ← need "apptypeinfo" (model? object)
  return (model.within? "apptypeinfo").isSome || inheritsModel object

/-- Is the object's exposure valid? -/
def checkExposure : Check := fun object _ => do
  if (← worksApplication object) && object.attr? "runmode" == some "Background" then
    return .found (.error "Application Model exists for Object with Exposure set to Background"
      (some "N/A"))
  return .found .none

end ReleaseReview
