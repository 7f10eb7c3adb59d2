import ReleaseReview.Fault
import ReleaseReview.Finding

/-!
# Grades

A consideration is graded by the number of its errors. A `Rubric` gives the hurdles between the
four bands: above the highest hurdle the verdict is No and the score nothing, then come
Infrequently and Frequently with a scaled score, and at or below the pass hurdle the verdict is Yes
and the score full. No errors at all are always a Yes. One rubric also counts warnings, once there
are more than three and more than the errors.

A `Sheet` is a consideration while it is being graded. A ruling on it sets the grade by hand, and
from then on evaluating changes nothing, unless it is told both a scale and a verdict.
-/

namespace ReleaseReview

/-- The verdict on a consideration. -/
inductive Verdict where
  | no
  | infrequently
  | frequently
  | yes
  | notApplicable
  /-- A verdict given from outside, in its own words. -/
  | stated (verdict : Json)
  deriving Inhabited

/-- The verdict as it stands in a report. -/
def Verdict.toJson : Verdict → Json
  | .no => .text "No"
  | .infrequently => .text "Infrequently"
  | .frequently => .text "Frequently"
  | .yes => .text "Yes"
  | .notApplicable => .text "Not Applicable"
  | .stated verdict => verdict

/-- What a rubric counts. -/
inductive Counting where
  | errors
  | errorsOrWarnings
  deriving DecidableEq, Repr

/-- How a consideration is graded. -/
structure Rubric where
  title : String
  maxScore : Number
  passHurdle : Int
  frequentHurdle : Int
  infrequentHurdle : Int
  frequentScale : Number
  infrequentScale : Number
  counting : Counting

/-- A full score times a scale. -/
def scaled (maxScore scale : Number) : Except Fault Number :=
  match maxScore.mul? scale with
  | some score => .ok score
  | none => .error .integerTooLarge

namespace Rubric

/-- The rubric that fails a consideration on its first error. -/
def strict : Rubric where
  title := "Override - Title from Report"
  maxScore := 10
  passHurdle := 0
  frequentHurdle := 0
  infrequentHurdle := 0
  frequentScale := .float 0.7
  infrequentScale := .float 0.3
  counting := .errors

/-- The score and the verdict for a number of issues. -/
def band (r : Rubric) (maxScore : Number) (issues : Int) : Except Fault (Number × Verdict) := do
  if r.infrequentHurdle < issues then return (0, .no)
  else if r.frequentHurdle < issues then return (← scaled maxScore r.infrequentScale, .infrequently)
  else if r.passHurdle < issues then return (← scaled maxScore r.frequentScale, .frequently)
  else return (maxScore, .yes)

/-- The number of issues to grade by; nothing if there is nothing to hold against the object. -/
def issues? (r : Rubric) (errors warnings : Nat) : Option Nat :=
  match r.counting with
  | .errors => if errors = 0 then none else some errors
  | .errorsOrWarnings =>
    if errors = 0 ∧ warnings = 0 then none
    else if warnings ≤ errors ∨ warnings ≤ 3 then some errors
    else some warnings

/-- The score and the verdict for these many errors and warnings. -/
def outcome (r : Rubric) (maxScore : Number) (errors warnings : Nat) :
    Except Fault (Number × Verdict) :=
  match r.issues? errors warnings with
  | none => .ok (maxScore, .yes)
  | some n => r.band maxScore n

end Rubric

/-- A grade set by hand; `maxScore` replaces the full score if it is given. -/
structure Ruling where
  verdict : Verdict
  score : Number
  maxScore : Option Number

namespace Ruling

/-- The consideration does not apply. -/
def notApplicable : Ruling := ⟨.notApplicable, 0, some 0⟩

/-- The consideration is failed outright. -/
def failed : Ruling := ⟨.no, 0, none⟩

/-- The consideration is failed, and not counted in the full score either. -/
def uncounted : Ruling := ⟨.no, 0, some 0⟩

end Ruling

/-- A score out of a full score, with its verdict. -/
structure Grade where
  score : Number
  maxScore : Number
  verdict : Verdict
  /-- Was the grade set by a ruling? -/
  forced : Bool
  deriving Inhabited

namespace Grade

/-- The grade before anything was found. -/
def full (maxScore : Number) : Grade :=
  ⟨maxScore, maxScore, .yes, false⟩

/-- The grade after a ruling. -/
def rule (g : Grade) (ruling : Ruling) : Grade where
  score := ruling.score
  maxScore := ruling.maxScore.getD g.maxScore
  verdict := ruling.verdict
  forced := true

/-- The grade by the rubric, unless a ruling has set it. -/
def evaluate (g : Grade) (r : Rubric) (errors warnings : Nat) : Except Fault Grade := do
  if g.forced then return g
  else
    let (score, verdict) ← r.outcome g.maxScore errors warnings
    return { g with score, verdict }

/-- The grade with a scale and a verdict stated from outside. -/
def state (g : Grade) (scale : Number) (verdict : Json) : Except Fault Grade := do
  return { g with score := ← scaled g.maxScore scale, verdict := .stated verdict }

/-- The grade by a scale and a verdict if both count for something, otherwise by the rubric. -/
def evaluateWith (g : Grade) (r : Rubric) (errors warnings : Nat) (scale : Option Number)
    (verdict : Json) : Except Fault Grade :=
  match scale with
  | some s =>
    if s.isNonzero && verdict.isTrue then g.state s verdict else g.evaluate r errors warnings
  | none => g.evaluate r errors warnings

end Grade

/-- What a check of an object comes to: its findings, and a ruling if it makes one. -/
structure Outcome where
  findings : Findings
  ruling : Option Ruling

namespace Outcome

/-- Findings and no ruling. -/
def found (findings : Findings) : Outcome := ⟨findings, none⟩

/-- The check does not apply, and found nothing. -/
def notApplicable : Outcome := ⟨.none, some .notApplicable⟩

end Outcome

/-- A consideration while it is being graded. -/
structure Sheet where
  rubric : Rubric
  grade : Grade
  findings : Findings

namespace Sheet

/-- A new sheet. -/
def new (r : Rubric) : Sheet :=
  ⟨r, .full r.maxScore, .none⟩

/-- The sheet with more findings. -/
def add (s : Sheet) (more : Findings) : Sheet :=
  { s with findings := s.findings ++ more }

/-- The sheet with new, empty lists of findings. -/
def clear (s : Sheet) : Sheet :=
  { s with findings := .none }

/-- The sheet after a ruling. -/
def rule (s : Sheet) (ruling : Ruling) : Sheet :=
  { s with grade := s.grade.rule ruling }

/-- The sheet graded by its findings. -/
def evaluate (s : Sheet) : Except Fault Sheet := do
  let grade ←
    s.grade.evaluate s.rubric s.findings.errors.length s.findings.warnings.length
  return { s with grade }

/-- The sheet graded by a scale and a verdict if both count for something, else by its findings. -/
def evaluateWith (s : Sheet) (scale : Option Number) (verdict : Json) : Except Fault Sheet := do
  let grade ← s.grade.evaluateWith s.rubric s.findings.errors.length s.findings.warnings.length
    scale verdict
  return { s with grade }

/-- The sheet with the outcome of a check on it. -/
def record (s : Sheet) (o : Outcome) : Sheet :=
  let s := s.add o.findings
  match o.ruling with
  | some ruling => s.rule ruling
  | none => s

end Sheet

end ReleaseReview
