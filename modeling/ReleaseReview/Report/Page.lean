import ReleaseReview.Grade

/-!
# Pages of a report

A report has a page for every object and every process, and one for the settings. The entries of an
object's page are the graded considerations; those of the settings page are what the configuration
gives. An entry copies the grade of its sheet when it is made.
-/

namespace ReleaseReview

/-- A graded consideration on a page. -/
structure Entry where
  title : String
  findings : Findings
  score : Number
  maxScore : Number
  verdict : Verdict

namespace Entry

/-- The entry for a sheet as it stands. -/
def ofSheet (s : Sheet) : Entry :=
  ⟨s.rubric.title, s.findings, s.grade.score, s.grade.maxScore, s.grade.verdict⟩

/-- The entry as it stands in a report. -/
def toJson (e : Entry) : Json :=
  .object
    [("Consideration Name", .text e.title),
     ("Errors", .arr (e.findings.errors.map Finding.errorJson)),
     ("Warnings", .arr (e.findings.warnings.map Finding.warningJson)),
     ("Score", .num e.score),
     ("Max Score", .num e.maxScore),
     ("Result", e.verdict.toJson)]

end Entry

/-- What a page is about. -/
inductive PageType where
  | object
  | process
  | settings
  deriving DecidableEq, Repr

/-- What the type of page is called. -/
def PageType.name : PageType → String
  | .object => "Object"
  | .process => "Process"
  | .settings => "Settings"

/-- A page of a report. -/
structure Page where
  name : Option String
  type : PageType
  objectType : Option String
  actions : List (Option String)
  entries : List Json

/-- The page as it stands in a report. -/
def Page.toJson (p : Page) : Json :=
  .object
    [("Report Page Name", .text? p.name),
     ("Page Type", .text p.type.name),
     ("Object Type", .text? p.objectType),
     ("Object Actions", .arr (p.actions.map .text?)),
     ("Report Considerations", .arr p.entries)]

end ReleaseReview
