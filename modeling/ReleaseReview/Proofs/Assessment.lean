import ReleaseReview.Calendar.Recognise
import ReleaseReview.Proofs.Outcome

/-!
# What assessments come to

An assessment is a check and then a grade by what the check came to. `Consideration.Awards` lists
the scores, full scores and verdicts that a consideration can award. `assessment_of_check` says that
whenever the check comes to an end, the assessment awards one of these, that nothing that was found
not to apply has errors, and what a Yes means.
-/

namespace ReleaseReview

open Markup

namespace Consideration

/-- The scores, full scores and verdicts that a consideration awards in the light of some facts. -/
inductive Awards (c : Consideration) (facts : Facts) : Number → Number → Verdict → Prop
  | yes : Awards c facts (.int c.maxScore) (.int c.maxScore) .yes
  | frequently :
    Awards c facts (.float (Float.ofInt c.maxScore * 0.7)) (.int c.maxScore) .frequently
  | infrequently :
    Awards c facts (.float (Float.ofInt c.maxScore * 0.3)) (.int c.maxScore) .infrequently
  | no : Awards c facts 0 (.int c.maxScore) .no
  | notApplicable : Awards c facts 0 0 .notApplicable
  | uncounted (hc : c = .reuse) (hkind : facts.kind = .ok .wrapper) : Awards c facts 0 0 .no

variable (c : Consideration) (facts : Facts)

/-! ## Rubrics -/

theorem maxScore_le : c.maxScore ≤ 10 := by
  cases c <;> decide

/-- No full score is too large to be scaled. -/
theorem scaled_maxScore (scale : Float) :
    scaled (.int c.maxScore) (.float scale) = .ok (.float (Float.ofInt c.maxScore * scale)) := by
  have hlimit : (c.maxScore : Int).natAbs < Number.floatLimit := by
    have hten : 10 < Number.floatLimit := by decide +kernel
    exact Nat.lt_of_le_of_lt c.maxScore_le hten
  simp only [scaled, Number.mul?, Number.toFloat?, if_pos hlimit]
  rfl

/-- A number of issues is in a band, which applies, and only no issue at all is a Yes. -/
theorem band_rubric (issues : Nat) :
    ∃ score verdict, c.rubric.band (.int c.maxScore) issues = .ok (score, verdict) ∧
      c.Awards facts score (.int c.maxScore) verdict ∧ verdict ≠ .notApplicable ∧
      (verdict = .yes ↔ issues = 0) := by
  unfold Rubric.band
  split
  next h =>
    refine ⟨_, _, rfl, .no, nofun, nofun, ?_⟩
    rintro rfl
    exact absurd h (by simp [rubric])
  next =>
    split
    next h =>
      have hscaled := c.scaled_maxScore 0.3
      refine ⟨_, _, bind_eq_ok.mpr ⟨_, hscaled, rfl⟩, .infrequently, nofun, nofun, ?_⟩
      rintro rfl
      exact absurd h (by simp [rubric])
    next =>
      split
      next h =>
        have hscaled := c.scaled_maxScore 0.7
        refine ⟨_, _, bind_eq_ok.mpr ⟨_, hscaled, rfl⟩, .frequently, nofun, nofun, ?_⟩
        rintro rfl
        exact absurd h (by simp [rubric, Rubric.strict])
      next h =>
        refine ⟨_, _, rfl, .yes, nofun, fun _ => ?_, fun _ => rfl⟩
        simpa [rubric, Rubric.strict] using h

/-- The number of issues that findings count for. -/
def issues (errors warnings : Nat) : Nat :=
  (c.rubric.issues? errors warnings).getD 0

/-- Nothing to hold against an object is as good as no issue. -/
theorem outcome_rubric (errors warnings : Nat) :
    c.rubric.outcome (.int c.maxScore) errors warnings =
      c.rubric.band (.int c.maxScore) (c.issues errors warnings) := by
  unfold Rubric.outcome issues
  cases c.rubric.issues? errors warnings with
  | none => simp [Rubric.band, rubric, Rubric.strict]; rfl
  | some n => rfl

theorem issues_of_ne {c : Consideration} (h : c ≠ .businessLogic) (errors warnings : Nat) :
    c.issues errors warnings = errors := by
  simp only [issues, Rubric.issues?, rubric, if_neg h]
  split
  next hnone => exact hnone.symm
  next => rfl

/-- Warnings are issues of business logic once there are more than three of them. -/
theorem issues_businessLogic_eq_zero_iff (errors warnings : Nat) :
    businessLogic.issues errors warnings = 0 ↔ errors = 0 ∧ warnings ≤ 3 := by
  simp only [issues, Rubric.issues?, rubric, if_true]
  split
  next h => simp [h]
  next =>
    split
    next h => simp only [Option.getD_some]; omega
    next h => simp only [Option.getD_some]; omega

theorem issues_eq_zero_iff (errors warnings : Nat) :
    c.issues errors warnings = 0 ↔ errors = 0 ∧ (c = .businessLogic → warnings ≤ 3) := by
  by_cases hc : c = .businessLogic
  · subst hc
    rw [issues_businessLogic_eq_zero_iff, forall_prop_of_true rfl]
  · rw [issues_of_ne hc, iff_self_and]
    exact fun _ h => absurd h hc

/-! ## Sheets -/

/-- A ruling is the grade. -/
theorem evaluate_record_of_ruling (findings : Findings) (ruling : Ruling) :
    (c.sheet.record ⟨findings, some ruling⟩).evaluate =
      .ok ⟨c.rubric, (Grade.full (.int c.maxScore)).rule ruling, findings⟩ :=
  rfl

/-- Without a ruling, the grade is by the band of the issues. -/
theorem evaluate_record_of_found (findings : Findings) {score : Number} {verdict : Verdict}
    (h : c.rubric.band (.int c.maxScore)
      (c.issues findings.errors.length findings.warnings.length) = .ok (score, verdict)) :
    (c.sheet.record ⟨findings, none⟩).evaluate =
      .ok ⟨c.rubric, ⟨score, .int c.maxScore, verdict, false⟩, findings⟩ := by
  rw [← outcome_rubric] at h
  have hgrade : (Grade.full (.int c.maxScore)).evaluate c.rubric findings.errors.length
      findings.warnings.length = .ok ⟨score, .int c.maxScore, verdict, false⟩ := by
    simp only [Grade.evaluate, Grade.full, h]
    rfl
  exact bind_eq_ok.mpr ⟨_, hgrade, rfl⟩

/-- Warnings only count for business logic. -/
theorem grade_evaluate_record_of_ne {c : Consideration} (h : c ≠ .businessLogic)
    (errors warnings others : List Finding) (ruling : Option Ruling) :
    (c.sheet.record ⟨⟨errors, warnings⟩, ruling⟩).evaluate.map Sheet.grade =
      (c.sheet.record ⟨⟨errors, others⟩, ruling⟩).evaluate.map Sheet.grade := by
  cases ruling with
  | some ruling => rfl
  | none =>
    obtain ⟨score, verdict, hband, -⟩ := c.band_rubric ⟨.ok .base, .ok true, .ok true⟩ errors.length
    rw [evaluate_record_of_found c ⟨errors, warnings⟩ (by rw [issues_of_ne h]; exact hband),
      evaluate_record_of_found c ⟨errors, others⟩ (by rw [issues_of_ne h]; exact hband)]
    rfl

end Consideration

/-- Whenever a check comes to an end, so does the assessment, with the findings of the check. It
awards what a consideration can award. What does not apply has no errors. Without a ruling, the
verdict is a Yes if there are no errors, and no more than three warnings where warnings count.
Where they do not, other warnings would have given the same grade. -/
theorem assessment_of_check (isDate : DateReader) (c : Consideration) (object : Placed)
    (facts : Facts) {outcome : Outcome} (h : c.check isDate object facts = .ok outcome) :
    ∃ sheet, c.assess isDate object facts = .ok sheet ∧ sheet.findings = outcome.findings ∧
      sheet.grade.forced = outcome.ruling.isSome ∧
      c.Awards facts sheet.grade.score sheet.grade.maxScore sheet.grade.verdict ∧
      (sheet.grade.verdict = .notApplicable → sheet.findings.errors = []) ∧
      (sheet.grade.forced = false → (sheet.grade.verdict = .yes ↔
        sheet.findings.errors = [] ∧
          (c = .businessLogic → sheet.findings.warnings.length ≤ 3))) ∧
      (c ≠ .businessLogic → ∀ warnings : List Finding,
        (c.sheet.record ⟨⟨sheet.findings.errors, warnings⟩, outcome.ruling⟩).evaluate.map
          Sheet.grade = .ok sheet.grade) := by
  have hassess : c.assess isDate object facts = (c.sheet.record outcome).evaluate := by
    rw [Consideration.assess, h, ok_bind]
  have hwarnings : ∀ sheet, (c.sheet.record outcome).evaluate = .ok sheet →
      c ≠ .businessLogic → ∀ warnings : List Finding,
        (c.sheet.record ⟨⟨outcome.findings.errors, warnings⟩, outcome.ruling⟩).evaluate.map
          Sheet.grade = .ok sheet.grade := by
    intro sheet hsheet hc warnings
    rw [Consideration.grade_evaluate_record_of_ne hc _ _ outcome.findings.warnings]
    exact congrArg (Except.map Sheet.grade) hsheet
  rcases usual_or_uncounted object facts isDate c outcome h with husual | ⟨hc, hkind, rfl⟩
  · cases husual with
    | found findings =>
      obtain ⟨score, verdict, hband, haward, happlies, hyes⟩ := c.band_rubric facts
        (c.issues findings.errors.length findings.warnings.length)
      have hsheet := c.evaluate_record_of_found findings hband
      refine ⟨_, hassess.trans hsheet, rfl, rfl, haward, fun hna => absurd hna happlies,
        fun _ => ?_, hwarnings _ hsheet⟩
      rw [hyes, c.issues_eq_zero_iff, List.length_eq_zero_iff]
    | notApplicable findings herrors =>
      have hsheet := c.evaluate_record_of_ruling findings .notApplicable
      exact ⟨_, hassess.trans hsheet, rfl, rfl, .notApplicable, fun _ => herrors, nofun,
        hwarnings _ hsheet⟩
    | failed findings =>
      have hsheet := c.evaluate_record_of_ruling findings .failed
      exact ⟨_, hassess.trans hsheet, rfl, rfl, .no, nofun, nofun, hwarnings _ hsheet⟩
  · have hsheet := c.evaluate_record_of_ruling .none .uncounted
    exact ⟨_, hassess.trans hsheet, rfl, rfl, .uncounted hc hkind, nofun, nofun,
      hwarnings _ hsheet⟩

/-- An object with four decisions that do not look at flags. -/
def decidingObject : Placed :=
  let decision : Node := .element "stage" [("type", "Decision"), ("name", "Paid?")]
    [.element "subsheetid" [] [.leaf .text "1"], .element "decision" [("expression", "1 > 0")] []]
  .alone ⟨"process", [],
    .element "subsheet" [("subsheetid", "1")] [.element "name" [] [.leaf .text "Pay"]] ::
      List.replicate 4 decision⟩

/-- Four warnings about business logic are one too many for a Yes, though there is no error. -/
theorem four_warnings_are_no_yes :
    ∃ sheet, Consideration.businessLogic.assess Calendar.recognise decidingObject
        ⟨.ok .wrapper, .ok false, .ok false⟩ = .ok sheet ∧
      sheet.findings.errors = [] ∧ sheet.findings.warnings.length = 4 ∧
      sheet.grade.verdict ≠ .yes := by
  obtain ⟨outcome, hcheck, hruling, herrors, hwarnings⟩ :
      ∃ outcome, Consideration.businessLogic.check Calendar.recognise decidingObject
        ⟨.ok .wrapper, .ok false, .ok false⟩ = .ok outcome ∧ outcome.ruling.isSome = false ∧
        outcome.findings.errors = [] ∧ outcome.findings.warnings.length = 4 :=
    ⟨_, rfl, rfl, rfl, rfl⟩
  obtain ⟨sheet, hassess, hfindings, hforced, -, -, hyes, -⟩ := assessment_of_check _ _ _ _ hcheck
  rw [hruling] at hforced
  rw [← hfindings] at herrors hwarnings
  refine ⟨sheet, hassess, herrors, hwarnings, fun h => ?_⟩
  have hthree := ((hyes hforced).mp h).2 rfl
  omega

end ReleaseReview
