import ReleaseReview.Proofs.Rulings

/-!
# Verdicts by hurdles

The hurdles of a rubric bound four bands (`Rubric.InBand`). Nothing says that the hurdles are in
order, so bands may overlap, and a band may be empty. Still every number of issues is in some band
(`exists_inBand`), a larger number is in one that is at least as low (`InBand.lower`), and a rubric
gives the verdict of the lowest band that there is (`band_eq`). The number of issues itself grows
with the errors, and with the warnings where they count (`issueCount_mono`). So more findings never
give a better verdict, which is `grade_by_hurdles`, together with what a grade depends on.
-/

namespace ReleaseReview

/-! ## The order of verdicts -/

namespace Verdict

/-- The place of a verdict among those that a rubric gives, the worst first. -/
def place? : Verdict → Option Nat
  | .no => some 0
  | .infrequently => some 1
  | .frequently => some 2
  | .yes => some 3
  | .notApplicable | .stated _ => none

/-- Is one verdict at most as good as another, both being verdicts that a rubric gives? -/
def atMost (v w : Verdict) : Bool :=
  match v.place?, w.place? with
  | some a, some b => a ≤ b
  | _, _ => false

theorem atMost_iff {v w : Verdict} :
    v.atMost w = true ↔ ∃ a b, v.place? = some a ∧ w.place? = some b ∧ a ≤ b := by
  unfold atMost
  cases v.place? <;> cases w.place? <;> simp

theorem atMost_trans {u v w : Verdict} (huv : u.atMost v = true) (hvw : v.atMost w = true) :
    u.atMost w = true := by
  obtain ⟨a, b, ha, hb, hab⟩ := atMost_iff.mp huv
  obtain ⟨b', c, hb', hc, hbc⟩ := atMost_iff.mp hvw
  obtain rfl : b = b' := Option.some.inj (hb.symm.trans hb')
  exact atMost_iff.mpr ⟨a, c, ha, hc, Nat.le_trans hab hbc⟩

end Verdict

/-! ## Bands -/

namespace Rubric

variable (r : Rubric)

/-- The bands that a number of issues is in, as the hurdles bound them. -/
inductive InBand (issues : Int) : Verdict → Prop
  | no (above : r.infrequentHurdle < issues) : InBand issues .no
  | infrequently (above : r.frequentHurdle < issues) (upTo : issues ≤ r.infrequentHurdle) :
    InBand issues .infrequently
  | frequently (above : r.passHurdle < issues) (upTo : issues ≤ r.frequentHurdle) :
    InBand issues .frequently
  | yes (upTo : issues ≤ r.passHurdle) : InBand issues .yes

/-- The lowest band that a number of issues is in. -/
structure Lowest (issues : Int) (verdict : Verdict) : Prop where
  inBand : r.InBand issues verdict
  atMost : ∀ other, r.InBand issues other → verdict.atMost other = true

variable {r}

theorem InBand.atMost_yes {issues : Int} {verdict : Verdict} (h : r.InBand issues verdict) :
    verdict.atMost .yes = true := by
  cases h <;> rfl

/-- A number above the hurdle for Frequently is in one of the two bands below. -/
theorem exists_inBand_of_frequentHurdle_lt {issues : Int} (h : r.frequentHurdle < issues) :
    ∃ verdict, r.InBand issues verdict ∧ verdict.atMost .infrequently = true := by
  rcases Int.lt_or_le r.infrequentHurdle issues with hno | hin
  · exact ⟨.no, .no hno, rfl⟩
  · exact ⟨.infrequently, .infrequently h hin, rfl⟩

/-- A number above the hurdle for a pass is in one of the three bands below. -/
theorem exists_inBand_of_passHurdle_lt {issues : Int} (h : r.passHurdle < issues) :
    ∃ verdict, r.InBand issues verdict ∧ verdict.atMost .frequently = true := by
  rcases Int.lt_or_le r.frequentHurdle issues with hlow | hin
  · obtain ⟨verdict, hband, hle⟩ := exists_inBand_of_frequentHurdle_lt hlow
    exact ⟨verdict, hband, Verdict.atMost_trans hle rfl⟩
  · exact ⟨.frequently, .frequently h hin, rfl⟩

variable (r) in
/-- The bands cover every number, in whatever order the hurdles are. -/
theorem exists_inBand (issues : Int) : ∃ verdict, r.InBand issues verdict := by
  rcases Int.lt_or_le r.passHurdle issues with hlow | hin
  · obtain ⟨verdict, hband, -⟩ := exists_inBand_of_passHurdle_lt hlow
    exact ⟨verdict, hband⟩
  · exact ⟨.yes, .yes hin⟩

/-- A larger number is in a band that is at least as low. -/
theorem InBand.lower {few many : Int} {verdict : Verdict} (h : r.InBand few verdict)
    (hle : few ≤ many) : ∃ lower, r.InBand many lower ∧ lower.atMost verdict = true := by
  cases h with
  | no above => exact ⟨.no, .no (by omega), rfl⟩
  | infrequently above upTo => exact exists_inBand_of_frequentHurdle_lt (by omega)
  | frequently above upTo => exact exists_inBand_of_passHurdle_lt (by omega)
  | yes upTo =>
    obtain ⟨lower, hband⟩ := r.exists_inBand many
    exact ⟨lower, hband, hband.atMost_yes⟩

/-! ## The lowest band -/

theorem lowest_no {issues : Int} (hno : r.infrequentHurdle < issues) : r.Lowest issues .no := by
  refine ⟨.no hno, fun other hother => ?_⟩
  cases hother <;> rfl

theorem lowest_infrequently {issues : Int} (hno : issues ≤ r.infrequentHurdle)
    (hin : r.frequentHurdle < issues) : r.Lowest issues .infrequently := by
  refine ⟨.infrequently hin hno, fun other hother => ?_⟩
  cases hother with
  | no above => omega
  | infrequently | frequently | yes => rfl

theorem lowest_frequently {issues : Int} (hno : issues ≤ r.infrequentHurdle)
    (hin : issues ≤ r.frequentHurdle) (hfr : r.passHurdle < issues) :
    r.Lowest issues .frequently := by
  refine ⟨.frequently hfr hin, fun other hother => ?_⟩
  cases hother with
  | no above => omega
  | infrequently above => omega
  | frequently | yes => rfl

theorem lowest_yes {issues : Int} (hno : issues ≤ r.infrequentHurdle)
    (hin : issues ≤ r.frequentHurdle) (hfr : issues ≤ r.passHurdle) : r.Lowest issues .yes := by
  refine ⟨.yes hfr, fun other hother => ?_⟩
  cases hother with
  | no above => omega
  | infrequently above => omega
  | frequently above => omega
  | yes => rfl

theorem Lowest.atMost_of_le {few many : Int} {v w : Verdict} (hfew : r.Lowest few v)
    (hmany : r.Lowest many w) (hle : few ≤ many) : w.atMost v = true := by
  obtain ⟨lower, hband, hlower⟩ := hfew.inBand.lower hle
  exact Verdict.atMost_trans (hmany.atMost lower hband) hlower

/-! ## Scores -/

variable (r)

/-- The score that goes with a verdict, unless the full score has no product with the scale. -/
def scoreFor (maxScore : Number) : Verdict → Option Number
  | .no => some 0
  | .infrequently => maxScore.mul? r.infrequentScale
  | .frequently => maxScore.mul? r.frequentScale
  | _ => some maxScore

/-- A score can be told if the full score can be multiplied by the scales. -/
theorem exists_scoreFor {maxScore : Number} (hfrequent : maxScore.Multipliable r.frequentScale)
    (hinfrequent : maxScore.Multipliable r.infrequentScale) (verdict : Verdict) :
    ∃ score, r.scoreFor maxScore verdict = some score := by
  cases verdict with
  | no => exact ⟨0, rfl⟩
  | infrequently => exact (exists_mul?_iff _ _).mpr hinfrequent
  | frequently => exact (exists_mul?_iff _ _).mpr hfrequent
  | yes | notApplicable | stated => exact ⟨maxScore, rfl⟩

/-- A number of issues gets the verdict of the lowest band that it is in, and the score that goes
with it. -/
theorem band_eq (maxScore : Number) (issues : Int) :
    ∃ verdict, r.Lowest issues verdict ∧
      r.band maxScore issues =
        (r.scoreFor maxScore verdict).elim (.error .integerTooLarge) fun score =>
          .ok (score, verdict) := by
  unfold band
  split
  next hno => exact ⟨.no, lowest_no hno, rfl⟩
  next hno =>
    split
    next hin =>
      refine ⟨.infrequently, lowest_infrequently (by omega) hin, ?_⟩
      rw [scoreFor, scaled]
      cases maxScore.mul? r.infrequentScale <;> rfl
    next hin =>
      split
      next hfr =>
        refine ⟨.frequently, lowest_frequently (by omega) (by omega) hfr, ?_⟩
        rw [scoreFor, scaled]
        cases maxScore.mul? r.frequentScale <;> rfl
      next hfr => exact ⟨.yes, lowest_yes (by omega) (by omega) (by omega), rfl⟩

/-! ## Issues -/

/-- Is there nothing that the rubric would look at? -/
def Issueless (errors warnings : Nat) : Prop :=
  errors = 0 ∧ (r.counting = .errors ∨ warnings = 0)

/-- The number of issues: that of the errors, or that of the warnings if these count, are more than
three and more than the errors. -/
def issueCount (errors warnings : Nat) : Nat :=
  match r.counting with
  | .errors => errors
  | .errorsOrWarnings => if warnings ≤ 3 then errors else max errors warnings

theorem issues?_of_issueless {errors warnings : Nat} (h : r.Issueless errors warnings) :
    r.issues? errors warnings = none := by
  unfold issues?
  unfold Issueless at h
  cases hc : r.counting with
  | errors => simp [h.1]
  | errorsOrWarnings =>
    rw [hc] at h
    simp_all

theorem issues?_of_not_issueless {errors warnings : Nat} (h : ¬r.Issueless errors warnings) :
    r.issues? errors warnings = some (r.issueCount errors warnings) := by
  unfold issues? issueCount
  unfold Issueless at h
  cases hc : r.counting with
  | errors =>
    rw [hc] at h
    simp_all
  | errorsOrWarnings =>
    rw [hc] at h
    have hsome : ¬(errors = 0 ∧ warnings = 0) := by simp_all
    simp only [if_neg hsome]
    split <;> split <;> simp only [Option.some.injEq] <;> omega

/-- More findings are no fewer issues. -/
theorem issueCount_mono {errors moreErrors warnings moreWarnings : Nat}
    (he : errors ≤ moreErrors) (hw : r.counting = .errors ∨ warnings ≤ moreWarnings) :
    r.issueCount errors warnings ≤ r.issueCount moreErrors moreWarnings := by
  unfold issueCount
  cases hc : r.counting with
  | errors => exact he
  | errorsOrWarnings =>
    have hle : warnings ≤ moreWarnings := hw.resolve_left (by simp [hc])
    dsimp only
    split <;> split <;> omega

/-- The verdict that a rubric gives on errors and warnings. -/
inductive Gives (errors warnings : Nat) : Verdict → Prop
  | issueless (h : r.Issueless errors warnings) : Gives errors warnings .yes
  | issues (verdict : Verdict) (h : ¬r.Issueless errors warnings)
      (hlowest : r.Lowest (r.issueCount errors warnings) verdict) : Gives errors warnings verdict

variable {r} in
/-- More findings never give a better verdict. -/
theorem Gives.atMost {errors moreErrors warnings moreWarnings : Nat} {v w : Verdict}
    (hv : r.Gives errors warnings v) (hw : r.Gives moreErrors moreWarnings w)
    (he : errors ≤ moreErrors) (hle : r.counting = .errors ∨ warnings ≤ moreWarnings) :
    w.atMost v = true := by
  cases hv with
  | issueless _ =>
    cases hw with
    | issueless _ => exact rfl
    | issues _ _ hlowest => exact hlowest.inBand.atMost_yes
  | issues _ hissues hlowest =>
    cases hw with
    | issueless hnone =>
      refine absurd ⟨?_, ?_⟩ hissues
      · exact Nat.le_zero.mp (hnone.1 ▸ he)
      · rcases hnone.2 with hcounting | hzero
        · exact Or.inl hcounting
        · exact hle.imp_right fun hwarnings => Nat.le_zero.mp (hzero ▸ hwarnings)
    | issues _ _ hmore =>
      exact hlowest.atMost_of_le hmore (Int.ofNat_le.mpr (r.issueCount_mono he hle))

theorem outcome_eq (maxScore : Number) (errors warnings : Nat) :
    ∃ verdict, r.Gives errors warnings verdict ∧
      r.outcome maxScore errors warnings =
        (r.scoreFor maxScore verdict).elim (.error .integerTooLarge) fun score =>
          .ok (score, verdict) := by
  unfold outcome
  by_cases h : r.Issueless errors warnings
  · rw [r.issues?_of_issueless h]
    exact ⟨.yes, .issueless h, rfl⟩
  · obtain ⟨verdict, hlowest, hband⟩ := r.band_eq maxScore (r.issueCount errors warnings)
    rw [r.issues?_of_not_issueless h]
    exact ⟨verdict, .issues verdict h hlowest, hband⟩

/-- The other rubric has the same hurdles and scales, and counts the same. -/
structure GradesLike (q : Rubric) : Prop where
  passHurdle_eq : r.passHurdle = q.passHurdle
  frequentHurdle_eq : r.frequentHurdle = q.frequentHurdle
  infrequentHurdle_eq : r.infrequentHurdle = q.infrequentHurdle
  frequentScale_eq : r.frequentScale = q.frequentScale
  infrequentScale_eq : r.infrequentScale = q.infrequentScale
  counting_eq : r.counting = q.counting

variable {r} in
theorem GradesLike.outcome_eq {q : Rubric} (h : r.GradesLike q) (maxScore : Number)
    (errors warnings : Nat) :
    r.outcome maxScore errors warnings = q.outcome maxScore errors warnings := by
  simp only [outcome, issues?, band, h.passHurdle_eq, h.frequentHurdle_eq, h.infrequentHurdle_eq,
    h.frequentScale_eq, h.infrequentScale_eq, h.counting_eq]

/-- What is found beside the errors is not looked at where only errors count. -/
theorem outcome_of_counting_errors (h : r.counting = .errors) (maxScore : Number)
    (errors warnings others : Nat) :
    r.outcome maxScore errors warnings = r.outcome maxScore errors others := by
  simp only [outcome, issues?, h]

end Rubric

/-! ## Grades -/

/-- A sheet that is not forced is graded by its rubric, whatever its grade was before. -/
theorem Sheet.evaluate_of_not_forced {s : Sheet} (h : s.grade.forced = false) :
    s.evaluate = (s.rubric.outcome s.grade.maxScore s.findings.errors.length
      s.findings.warnings.length).map fun outcome =>
        { s with grade := ⟨outcome.1, s.grade.maxScore, outcome.2, false⟩ } := by
  unfold evaluate Grade.evaluate
  rw [h]
  cases s.rubric.outcome s.grade.maxScore s.findings.errors.length s.findings.warnings.length <;>
    simp [bind, Except.bind, Except.map, pure, Except.pure]

/-- The grade of a sheet that is not forced comes from a verdict that its rubric gives on the errors
and warnings, and the score that goes with it. -/
theorem Sheet.exists_gives {s : Sheet} (h : s.grade.forced = false) :
    ∃ verdict, s.rubric.Gives s.findings.errors.length s.findings.warnings.length verdict ∧
      s.evaluate =
        (s.rubric.scoreFor s.grade.maxScore verdict).elim (.error .integerTooLarge) fun score =>
          .ok { s with grade := ⟨score, s.grade.maxScore, verdict, false⟩ } := by
  obtain ⟨verdict, hgives, houtcome⟩ := s.rubric.outcome_eq s.grade.maxScore
    s.findings.errors.length s.findings.warnings.length
  refine ⟨verdict, hgives, ?_⟩
  rw [s.evaluate_of_not_forced h, houtcome]
  cases s.rubric.scoreFor s.grade.maxScore verdict <;> rfl

theorem Sheet.gives_of_evaluate {s after : Sheet} (h : s.grade.forced = false)
    (hafter : s.evaluate = .ok after) :
    s.rubric.Gives s.findings.errors.length s.findings.warnings.length after.grade.verdict := by
  obtain ⟨verdict, hgives, hs⟩ := s.exists_gives h
  rw [hs] at hafter
  cases hscore : s.rubric.scoreFor s.grade.maxScore verdict with
  | none => simp [hscore] at hafter
  | some score =>
    rw [hscore] at hafter
    cases hafter
    exact hgives

/-- The grade by the hurdles, in whatever order these are. The bands of a rubric cover every number
of issues. A sheet that is not forced gets the verdict that its rubric gives on its errors and
warnings, and the score that goes with it, and it does get one if the full score can be multiplied
by the scales. Two such sheets get the same grade, whatever their grades were before, if they have
the same hurdles and scales, the same full score and equally many errors, and where warnings count
equally many of these. And more errors never give a better verdict, nor do more warnings where they
count. -/
theorem grade_by_hurdles :
    (∀ (r : Rubric) (issues : Int), ∃ verdict, r.InBand issues verdict) ∧
    (∀ s : Sheet, s.grade.forced = false →
      ∃ verdict, s.rubric.Gives s.findings.errors.length s.findings.warnings.length verdict ∧
        s.evaluate =
          (s.rubric.scoreFor s.grade.maxScore verdict).elim (.error .integerTooLarge) (fun score =>
            .ok { s with grade := ⟨score, s.grade.maxScore, verdict, false⟩ }) ∧
        (s.grade.maxScore.Multipliable s.rubric.frequentScale →
          s.grade.maxScore.Multipliable s.rubric.infrequentScale →
            ∃ after, s.evaluate = .ok after)) ∧
    (∀ s t : Sheet, s.grade.forced = false → t.grade.forced = false →
      s.rubric.GradesLike t.rubric → s.grade.maxScore = t.grade.maxScore →
      s.findings.errors.length = t.findings.errors.length →
      (s.rubric.counting = .errors ∨
        s.findings.warnings.length = t.findings.warnings.length) →
        s.evaluate.map Sheet.grade = t.evaluate.map Sheet.grade) ∧
    (∀ s t gradedS gradedT : Sheet, s.grade.forced = false → t.grade.forced = false →
      s.rubric = t.rubric → s.evaluate = .ok gradedS → t.evaluate = .ok gradedT →
      s.findings.errors.length ≤ t.findings.errors.length →
      (s.rubric.counting = .errors ∨
        s.findings.warnings.length ≤ t.findings.warnings.length) →
        gradedT.grade.verdict.atMost gradedS.grade.verdict = true) := by
  refine ⟨Rubric.exists_inBand, fun s hs => ?_, ?_, ?_⟩
  · obtain ⟨verdict, hgives, hevaluate⟩ := s.exists_gives hs
    refine ⟨verdict, hgives, hevaluate, fun hfrequent hinfrequent => ?_⟩
    obtain ⟨score, hscore⟩ := s.rubric.exists_scoreFor hfrequent hinfrequent verdict
    rw [hevaluate, hscore]
    exact ⟨_, rfl⟩
  · intro s t hs ht hlike hmax herrors hwarnings
    have houtcome : s.rubric.outcome s.grade.maxScore s.findings.errors.length
          s.findings.warnings.length =
        t.rubric.outcome t.grade.maxScore t.findings.errors.length t.findings.warnings.length := by
      rw [← hlike.outcome_eq, hmax, herrors]
      rcases hwarnings with hcounting | hwarnings
      · exact s.rubric.outcome_of_counting_errors hcounting _ _ _ _
      · rw [hwarnings]
    rw [s.evaluate_of_not_forced hs, t.evaluate_of_not_forced ht, houtcome, hmax]
    cases t.rubric.outcome t.grade.maxScore t.findings.errors.length t.findings.warnings.length <;>
      rfl
  · intro s t gradedS gradedT hs ht hrubric hgradedS hgradedT herrors hwarnings
    have hfew := s.gives_of_evaluate hs hgradedS
    have hmany := t.gives_of_evaluate ht hgradedT
    rw [← hrubric] at hmany
    exact hfew.atMost hmany herrors hwarnings

/-- A sheet with this many errors and warnings. -/
def countedSheet (r : Rubric) (errors warnings : Nat) : Sheet :=
  (Sheet.new r).add ⟨List.replicate errors ⟨none, none⟩, List.replicate warnings ⟨none, none⟩⟩

/-- Two more warnings about business logic, beyond the three that do not count, do not make the
verdict better. Two errors and five warnings are five issues, and leave three tenths of the score.
-/
theorem more_warnings_are_no_better :
    ∃ few many, (countedSheet Consideration.businessLogic.rubric 2 3).evaluate = .ok few ∧
      (countedSheet Consideration.businessLogic.rubric 2 5).evaluate = .ok many ∧
      many.grade.verdict.atMost few.grade.verdict = true ∧
      many.grade.verdict = .infrequently ∧
      many.grade.score = .float (Float.ofInt 10 * 0.3) := by
  obtain ⟨few, hfew⟩ := exists_of_toBool
    (x := (countedSheet Consideration.businessLogic.rubric 2 3).evaluate) (by decide +kernel)
  obtain ⟨many, hmany⟩ := exists_of_toBool
    (x := (countedSheet Consideration.businessLogic.rubric 2 5).evaluate) (by decide +kernel)
  obtain ⟨-, hgraded, -, hworse⟩ := grade_by_hurdles
  refine ⟨few, many, hfew, hmany, ?_, ?_⟩
  · exact hworse (countedSheet Consideration.businessLogic.rubric 2 3)
      (countedSheet Consideration.businessLogic.rubric 2 5) few many rfl rfl rfl hfew hmany
      (Nat.le_refl 2) (Or.inr (Nat.le_add_right 3 2))
  · obtain ⟨verdict, hgives, hevaluate, -⟩ :=
      hgraded (countedSheet Consideration.businessLogic.rubric 2 5) rfl
    -- five issues are in the band between four and seven, and in no lower one
    obtain rfl : verdict = .infrequently := by
      cases hgives with
      | issueless hnone => exact absurd hnone.1 (by decide)
      | issues _ _ hlowest =>
        cases hlowest.inBand with
        | no above => exact absurd above (by decide)
        | infrequently => rfl
        | frequently above upTo => exact absurd upTo (by decide)
        | yes upTo => exact absurd upTo (by decide)
    have hproduct : (Number.int 10).mul? (.float 0.3) = some (.float (Float.ofInt 10 * 0.3)) :=
      Number.mul?_eq_some_iff.mpr (.float Number.toFloat?_ten rfl (.inr rfl))
    have hscore : (countedSheet Consideration.businessLogic.rubric 2 5).rubric.scoreFor
        (countedSheet Consideration.businessLogic.rubric 2 5).grade.maxScore .infrequently =
          some (.float (Float.ofInt 10 * 0.3)) := by
      rw [Rubric.scoreFor]
      exact hproduct
    rw [hscore] at hevaluate
    obtain rfl := Except.ok.inj (hmany.symm.trans hevaluate)
    exact ⟨rfl, rfl⟩

end ReleaseReview
