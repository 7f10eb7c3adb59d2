import ReleaseReview.Check.Action
import ReleaseReview.Check.Attach
import ReleaseReview.Check.BusinessLogic
import ReleaseReview.Check.CustomerData
import ReleaseReview.Check.Documentation
import ReleaseReview.Check.EnvironmentData
import ReleaseReview.Check.ExceptionStage
import ReleaseReview.Check.Exposure
import ReleaseReview.Check.Focus
import ReleaseReview.Check.Image
import ReleaseReview.Check.Logging
import ReleaseReview.Check.Recover
import ReleaseReview.Check.Reuse
import ReleaseReview.Check.Technology
import ReleaseReview.Check.Timeout
import ReleaseReview.Check.Title
import ReleaseReview.Check.TreeShape
import ReleaseReview.Check.Wait

/-!
# Considerations

A consideration is a question that a review asks about an object. It has a title, by which a
configuration names it, a check that finds what speaks against the object, and a rubric by which the
findings are graded. Two of the checks go by what is a date.
-/

namespace ReleaseReview

/-- The questions that a review can ask about an object. -/
inductive Consideration where
  | startWait
  | documentation
  | reuse
  | useAttach
  | elementNames
  | treeShape
  | typeDetail
  | exceptionDetails
  | exceptionType
  | focus
  | globalTimeout
  | images
  | logging
  | navigate
  | actionCalled
  | actionSize
  | hasAttach
  | exposure
  | businessLogic
  | recover
  | technology
  | customerData
  | environmentData
  | notArbitrary
  | waitTimeout
  deriving DecidableEq, Repr

namespace Consideration

/-- All considerations. -/
def all : List Consideration :=
  [.startWait, .documentation, .reuse, .useAttach, .elementNames, .treeShape, .typeDetail,
   .exceptionDetails, .exceptionType, .focus, .globalTimeout, .images, .logging, .navigate,
   .actionCalled, .actionSize, .hasAttach, .exposure, .businessLogic, .recover, .technology,
   .customerData, .environmentData, .notArbitrary, .waitTimeout]

/-- The question in words. -/
def title : Consideration → String
  | .startWait =>
    "Does each Action start with a Wait stage to verify the application is in the correct state?"
  | .documentation =>
    "Are Action descriptions, Pre-Conditions, Post Conditions, Input params & Output params " ++
      "documented to create a meaningful BOD?"
  | .reuse => "Are the Actions re-useable?"
  | .useAttach => "Do all Actions start with an Attach page reference?"
  | .elementNames => "Do the element names follow BP best practice or local naming convention?"
  | .treeShape => "Are the elements logically broken down by screen or each part of the screen?"
  | .typeDetail => "Do Exceptions provide appropriate Type and Detail?"
  | .exceptionDetails => "Do all Exception stages have an exception detail?"
  | .exceptionType => "Do Exception Types follow Best Practice?"
  | .focus => "Is Focus ensured when required? For using Globals and Image Recognition?"
  | .globalTimeout =>
    "Do Global Data items enable a quick change to timeout values when application behaviour " ++
      "dictates?"
  | .images => "Are Target Images definitions efficient?"
  | .logging => "Does logging adhere to local Security Policy?"
  | .navigate =>
    "Are Navigation stages between application screens followed by a Wait stage to verify success?"
  | .actionCalled => "No Actions call other published Actions?"
  | .actionSize => "Checked there are no overly complex pages that could be broken up?"
  | .hasAttach =>
    "Does the Business Object have an 'Attach' Action that reads the connected status before " ++
      "Attaching?"
  | .exposure => "Are the Business Object exposures valid?"
  | .businessLogic =>
    "Is there no Business Logic in any Actions that should be at the Process level?"
  | .recover => "Objects do not try to recover exceptions (should be Process logic)?"
  | .technology => "All technology specific attributes have been checked / unchecked?"
  | .customerData => "No values contain any environment specific data?"
  | .environmentData => "No attribute values contain Customer data?"
  | .notArbitrary =>
    "Do Wait stages have conditions (i.e. not arbitrary)? Do not include arbitrary Waits if " ++
      "used for Surface Automation purposes only."
  | .waitTimeout => "Do Wait stages timeout to an exception?"

/-- The full score. -/
def maxScore : Consideration → Nat
  | .documentation | .treeShape | .typeDetail | .globalTimeout => 5
  | .exposure => 4
  | _ => 10

/-- The hurdles above which the verdict is no longer Frequently, and no longer Infrequently. -/
def hurdles : Consideration → Nat × Nat
  | .elementNames | .customerData | .environmentData | .technology => (3, 5)
  | .documentation | .navigate => (3, 6)
  | .exposure | .hasAttach | .treeShape => (0, 0)
  | .useAttach | .images | .focus => (2, 3)
  | .startWait | .globalTimeout | .notArbitrary | .actionCalled | .exceptionDetails | .typeDetail =>
    (1, 4)
  | .waitTimeout => (3, 7)
  | .reuse | .actionSize => (2, 4)
  | .businessLogic | .logging => (4, 7)
  | .exceptionType => (1, 3)
  | .recover => (1, 2)

/-- How the findings are graded. -/
def rubric (c : Consideration) : Rubric :=
  { Rubric.strict with
    title := c.title
    maxScore := .int c.maxScore
    frequentHurdle := c.hurdles.1
    infrequentHurdle := c.hurdles.2
    counting := if c = .businessLogic then .errorsOrWarnings else .errors }

/-- What speaks against an object. -/
def check (isDate : DateReader) : Consideration → Check
  | .startWait => checkStartWait
  | .documentation => checkDocumentation
  | .reuse => checkReuse
  | .useAttach => checkUseAttach
  | .elementNames => checkElementNames
  | .treeShape => checkTreeShape
  | .typeDetail => checkTypeDetail
  | .exceptionDetails => checkExceptionDetails
  | .exceptionType => checkExceptionType
  | .focus => checkFocus
  | .globalTimeout => checkGlobalTimeout
  | .images => checkImages
  | .logging => checkLogging
  | .navigate => checkNavigate
  | .actionCalled => checkActionCalled
  | .actionSize => checkActionSize
  | .hasAttach => checkHasAttach
  | .exposure => checkExposure
  | .businessLogic => checkBusinessLogic
  | .recover => checkRecover
  | .technology => checkTechnology
  | .customerData => checkCustomerData isDate
  | .environmentData => checkEnvironmentData isDate
  | .notArbitrary => checkNotArbitrary
  | .waitTimeout => checkWaitTimeout

/-- A new sheet for the consideration. -/
def sheet (c : Consideration) : Sheet :=
  .new c.rubric

/-- The sheet of the consideration after a check of an object, graded. -/
def assess (isDate : DateReader) (c : Consideration) (object : Markup.Placed) (facts : Facts) :
    Except Fault Sheet := do
  let outcome ← c.check isDate object facts
  (c.sheet.record outcome).evaluate

theorem mem_all (c : Consideration) : c ∈ all := by
  cases c <;> simp [all]

end Consideration

end ReleaseReview
