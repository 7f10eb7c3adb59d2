import ReleaseReview.Consideration
import ReleaseReview.Proofs.Success
import ReleaseReview.Report.Desk

/-!
# Rulings over a run

A sheet is worked on in steps: findings are added, lists are started anew, rulings are made, and the
sheet is evaluated, with a scale and a verdict or without. `Desk.step_cases` says what a step can do
to the grade: a ruling replaces it, and any other step leaves the full score as it is, and whether
the grade is forced. So a whole run forces the grade if there is a ruling in it (`forced_run`), and
the full score is that of the latest ruling that gave one (`maxScore_run`). Once it is forced, the
grade stays until a ruling or a statement sets another (`grade_run_of_forced`).

`grade_over_run` puts these together for every run on a new sheet, by whatever rubric.
-/

namespace ReleaseReview

/-! ## Scales and products -/

/-- Do the scale and the verdict both count for something? -/
def bothCount (scale : Option Number) (verdict : Json) : Bool :=
  scale.any Number.isNonzero && verdict.isTrue

/-- Two numbers have a product unless one of them is an integer that is too large to be a
floating-point number, and the other is such a number. -/
def Number.Multipliable (m n : Number) : Prop :=
  (∃ a b, m = .int a ∧ n = .int b) ∨ (m.toFloat?.isSome = true ∧ n.toFloat?.isSome = true)

/-- The product of two numbers: of two integers an integer, and otherwise that of the
floating-point numbers that the two are. -/
inductive Number.IsProduct : Number → Number → Number → Prop
  | int (a b : Int) : IsProduct (.int a) (.int b) (.int (a * b))
  | float {m n : Number} {x y : Float} (hm : m.toFloat? = some x) (hn : n.toFloat? = some y)
    (hfloat : m = .float x ∨ n = .float y) : IsProduct m n (.float (x * y))

theorem Number.mul?_eq_some_iff {m n p : Number} : m.mul? n = some p ↔ m.IsProduct n p := by
  constructor
  · intro h
    cases m with
    | int a =>
      cases n with
      | int b =>
        obtain rfl := Option.some.inj h
        exact .int a b
      | float y =>
        cases ha : (Number.int a).toFloat? with
        | none => simp [mul?, ha] at h
        | some x =>
          simp only [mul?, ha, toFloat?_float, Option.bind_eq_bind, Option.bind_some,
            Option.pure_def, Option.some.injEq] at h
          exact h ▸ .float ha rfl (.inr rfl)
    | float x =>
      cases hb : n.toFloat? with
      | none => simp [mul?, hb] at h
      | some y =>
        simp only [mul?, hb, toFloat?_float, Option.bind_eq_bind, Option.bind_some,
          Option.pure_def, Option.some.injEq] at h
        exact h ▸ .float rfl hb (.inl rfl)
  · intro h
    cases h with
    | int a b => rfl
    | float hm hn hfloat =>
      rcases hfloat with rfl | rfl <;> simp [mul?, hm, hn]

theorem exists_mul?_iff (m n : Number) : (∃ p, m.mul? n = some p) ↔ m.Multipliable n := by
  rw [← Option.isSome_iff_exists]
  cases m with
  | int a =>
    cases n with
    | int b => simp [Number.mul?, Number.Multipliable]
    | float y =>
      cases h : (Number.int a).toFloat? <;> simp [Number.mul?, Number.Multipliable, h]
  | float x =>
    cases h : n.toFloat? <;> simp [Number.mul?, Number.Multipliable, h]

theorem Number.toFloat?_ten : (int 10).toFloat? = some (Float.ofInt 10) := by
  have hlimit : (10 : Int).natAbs < floatLimit := by decide +kernel
  rw [toFloat?, if_pos hlimit]

namespace Grade

variable (g : Grade) (r : Rubric) (errors warnings : Nat)

/-- A scale and a verdict that both count are the grade. -/
theorem evaluateWith_of_bothCount {scale : Number} {verdict : Json}
    (h : bothCount (some scale) verdict = true) :
    g.evaluateWith r errors warnings (some scale) verdict = g.state scale verdict := by
  have hcount : (scale.isNonzero && verdict.isTrue) = true := h
  simp only [evaluateWith, hcount, if_true]

/-- Otherwise they are not looked at. -/
theorem evaluateWith_of_not_bothCount {scale : Option Number} {verdict : Json}
    (h : bothCount scale verdict = false) :
    g.evaluateWith r errors warnings scale verdict = g.evaluate r errors warnings := by
  cases scale with
  | none => rfl
  | some scale =>
    have hcount : (scale.isNonzero && verdict.isTrue) = false := h
    simp only [evaluateWith, hcount, Bool.false_eq_true, if_false]

variable {g} in
theorem evaluate_of_forced (h : g.forced = true) : g.evaluate r errors warnings = .ok g := by
  simp only [evaluate, h, if_true]
  rfl

/-! ## What evaluating can do to a grade -/

/-- The grade after differs from the grade before in nothing but the score and the verdict. -/
structure Regraded (before after : Grade) : Prop where
  maxScore_eq : after.maxScore = before.maxScore
  forced_eq : after.forced = before.forced

theorem Regraded.refl : g.Regraded g :=
  ⟨rfl, rfl⟩

theorem regraded_evaluate : Yields g.Regraded (g.evaluate r errors warnings) :=
  .ite (fun _ => .pure (.refl g)) fun _ => .after fun _ => .pure ⟨rfl, rfl⟩

theorem regraded_state (scale : Number) (verdict : Json) :
    Yields g.Regraded (g.state scale verdict) :=
  .after fun _ => .pure ⟨rfl, rfl⟩

theorem regraded_evaluateWith (scale : Option Number) (verdict : Json) :
    Yields g.Regraded (g.evaluateWith r errors warnings scale verdict) := by
  cases scale with
  | none => exact g.regraded_evaluate r errors warnings
  | some scale =>
    exact .ite (fun _ => g.regraded_state scale verdict) fun _ =>
      g.regraded_evaluate r errors warnings

/-- What a grade by the rubric comes to depends on the full score only, so a second look at the same
findings changes nothing. -/
theorem evaluate_evaluate {g after : Grade} (h : g.evaluate r errors warnings = .ok after) :
    after.evaluate r errors warnings = .ok after := by
  cases hforced : g.forced with
  | true =>
    obtain rfl := Except.ok.inj ((evaluate_of_forced r errors warnings hforced).symm.trans h)
    exact h
  | false =>
    simp only [evaluate, hforced, Bool.false_eq_true, if_false] at h ⊢
    obtain ⟨⟨score, verdict⟩, houtcome, h⟩ := bind_eq_ok.mp h
    obtain rfl := pure_eq_ok.mp h
    simp only [Bool.false_eq_true, if_false, houtcome]
    rfl

end Grade

namespace Sheet

variable (s : Sheet)

theorem regraded_evaluate : Yields (fun after => s.grade.Regraded after.grade) s.evaluate :=
  .bind (s.grade.regraded_evaluate _ _ _) fun _ h => .pure h

theorem regraded_evaluateWith (scale : Option Number) (verdict : Json) :
    Yields (fun after => s.grade.Regraded after.grade) (s.evaluateWith scale verdict) :=
  .bind (s.grade.regraded_evaluateWith _ _ _ scale verdict) fun _ h => .pure h

/-- Evaluating a sheet twice is evaluating it once, also if it cannot be done. -/
theorem evaluate_evaluate : s.evaluate >>= Sheet.evaluate = s.evaluate := by
  cases h : s.evaluate with
  | error fault => rfl
  | ok after =>
    obtain ⟨grade, hgrade, hafter⟩ := bind_eq_ok.mp h
    obtain rfl := pure_eq_ok.mp hafter
    rw [ok_bind]
    exact bind_eq_ok.mpr ⟨grade, Grade.evaluate_evaluate _ _ _ hgrade, rfl⟩

/-- A forced sheet stays as it is, whatever is found. -/
theorem evaluateWith_of_forced {s : Sheet} (hforced : s.grade.forced = true)
    {scale : Option Number} {verdict : Json} (h : bothCount scale verdict = false) :
    s.evaluateWith scale verdict = .ok s ∧ s.evaluate = .ok s := by
  have hevaluate : s.grade.evaluate s.rubric s.findings.errors.length s.findings.warnings.length =
      .ok s.grade := Grade.evaluate_of_forced _ _ _ hforced
  constructor
  · rw [evaluateWith, Grade.evaluateWith_of_not_bothCount _ _ _ _ h, hevaluate]
    rfl
  · rw [evaluate, hevaluate]
    rfl

/-- A scale and a verdict that both count set the score and the verdict, forced or not. -/
theorem evaluateWith_of_bothCount {scale : Number} {verdict : Json}
    (h : bothCount (some scale) verdict = true) :
    s.evaluateWith (some scale) verdict =
      (s.grade.maxScore.mul? scale).elim (.error .integerTooLarge) fun score =>
        .ok { s with grade := { s.grade with score, verdict := .stated verdict } } := by
  rw [evaluateWith, Grade.evaluateWith_of_bothCount _ _ _ _ h, Grade.state, scaled]
  cases s.grade.maxScore.mul? scale <;> rfl

end Sheet

/-! ## Steps -/

namespace Step

/-- Is the step a ruling? -/
def isRuling : Step → Bool
  | .rule _ => true
  | _ => false

/-- The full score that a step gives, if it is a ruling that gives one. -/
def maxScore? : Step → Option Number
  | .rule ruling => ruling.maxScore
  | _ => none

/-- Does the step set the grade whatever it was, by a ruling or by a statement? -/
def setsGrade : Step → Bool
  | .rule _ => true
  | .evaluateWith scale verdict => bothCount scale verdict
  | _ => false

theorem isRuling_iff {s : Step} : s.isRuling = true ↔ ∃ ruling, s = .rule ruling := by
  cases s <;> simp [isRuling]

end Step

namespace Desk

variable (d : Desk)

/-- What holds of the desk, and of the desk after the step if it succeeds, holds after the step. -/
theorem step_of_attempt {P : Desk → Prop} {s : Step} (hd : P d) (h : Yields P (d.attempt s)) :
    P (d.step s) := by
  unfold step
  cases hattempt : d.attempt s with
  | ok after => exact h after hattempt
  | error fault => exact hd

/-- A step is a ruling, which replaces the grade, or it leaves the full score and whether the grade
is forced. -/
theorem step_cases (s : Step) :
    (∃ ruling, s = .rule ruling ∧ (d.step s).sheet.grade = d.sheet.grade.rule ruling) ∨
      (s.isRuling = false ∧ d.sheet.grade.Regraded (d.step s).sheet.grade) := by
  cases s with
  | rule ruling => exact Or.inl ⟨ruling, rfl, rfl⟩
  | add findings => exact Or.inr ⟨rfl, .refl _⟩
  | clear => exact Or.inr ⟨rfl, .refl _⟩
  | enter => exact Or.inr ⟨rfl, .refl _⟩
  | evaluate =>
    refine Or.inr ⟨rfl, ?_⟩
    exact d.step_of_attempt (P := fun after => d.sheet.grade.Regraded after.sheet.grade)
      (.refl _) (.bind d.sheet.regraded_evaluate fun _ h => .pure h)
  | evaluateWith scale verdict =>
    refine Or.inr ⟨rfl, ?_⟩
    exact d.step_of_attempt (P := fun after => d.sheet.grade.Regraded after.sheet.grade)
      (.refl _) (.bind (d.sheet.regraded_evaluateWith scale verdict) fun _ h => .pure h)

theorem forced_step (s : Step) :
    (d.step s).sheet.grade.forced = (d.sheet.grade.forced || s.isRuling) := by
  rcases d.step_cases s with ⟨ruling, rfl, hgrade⟩ | ⟨hs, hgrade⟩
  · rw [hgrade, Step.isRuling, Bool.or_true]
    rfl
  · rw [hgrade.forced_eq, hs, Bool.or_false]

theorem maxScore_step (s : Step) :
    (d.step s).sheet.grade.maxScore = s.maxScore?.getD d.sheet.grade.maxScore := by
  rcases d.step_cases s with ⟨ruling, rfl, hgrade⟩ | ⟨hs, hgrade⟩
  · rw [hgrade]
    rfl
  · rw [hgrade.maxScore_eq]
    cases s with
    | rule ruling => cases hs
    | _ => rfl

/-- A forced grade is left alone by every step that does not set it. -/
theorem grade_step_of_forced {d : Desk} (hforced : d.sheet.grade.forced = true) {s : Step}
    (hs : s.setsGrade = false) : (d.step s).sheet.grade = d.sheet.grade := by
  cases s with
  | rule ruling => cases hs
  | add findings => rfl
  | clear => rfl
  | enter => rfl
  | evaluate =>
    have hnone : bothCount none .null = false := rfl
    have hkeep := (Sheet.evaluateWith_of_forced hforced hnone).2
    simp only [step, attempt, hkeep, ok_bind]
    rfl
  | evaluateWith scale verdict =>
    have hkeep := (Sheet.evaluateWith_of_forced hforced hs).1
    simp only [step, attempt, hkeep, ok_bind]
    rfl

/-! ## Runs -/

/-- A run forces the grade if there is a ruling in it. -/
theorem forced_run (steps : List Step) :
    (d.run steps).sheet.grade.forced = (d.sheet.grade.forced || steps.any Step.isRuling) := by
  induction steps generalizing d with
  | nil => rw [run_nil, List.any_nil, Bool.or_false]
  | cons s steps ih => rw [run_cons, ih, forced_step, List.any_cons, Bool.or_assoc]

/-- The full score after a run is that of the latest ruling that gave one. -/
theorem maxScore_run (steps : List Step) :
    (d.run steps).sheet.grade.maxScore =
      (steps.filterMap Step.maxScore?).getLast?.getD d.sheet.grade.maxScore := by
  induction steps generalizing d with
  | nil => rfl
  | cons s steps ih =>
    rw [run_cons, ih, maxScore_step]
    cases hs : s.maxScore? with
    | none => rw [List.filterMap_cons_none hs, Option.getD_none]
    | some m => rw [List.filterMap_cons_some hs, List.getLast?_cons, Option.getD_some,
        Option.getD_some]

/-- A forced grade outlasts a run in which no step sets it. -/
theorem grade_run_of_forced {d : Desk} (hforced : d.sheet.grade.forced = true) {steps : List Step}
    (hsteps : ∀ s ∈ steps, s.setsGrade = false) :
    (d.run steps).sheet.grade = d.sheet.grade := by
  induction steps generalizing d with
  | nil => rfl
  | cons s steps ih =>
    have hstep : (d.step s).sheet.grade = d.sheet.grade :=
      grade_step_of_forced hforced (hsteps s List.mem_cons_self)
    have hrest := ih (d := d.step s) (hstep ▸ hforced) fun t ht =>
      hsteps t (List.mem_cons_of_mem s ht)
    rw [run_cons, hrest, hstep]

theorem step_evaluate_evaluate : (d.step .evaluate).step .evaluate = d.step .evaluate := by
  have htwice := d.sheet.evaluate_evaluate
  cases h : d.sheet.evaluate with
  | error fault => simp only [step, attempt, h, bind, Except.bind]
  | ok after =>
    rw [h, ok_bind] at htwice
    simp only [step, attempt, h, htwice, bind, Except.bind, pure, Except.pure]

end Desk

/-- The sheet after steps on a new one. -/
def sheetAfter (r : Rubric) (steps : List Step) : Sheet :=
  ((Desk.new r).run steps).sheet

/-- The grade over a run, by whatever rubric. It is forced if there was a ruling, and then for good.
The full score is that of the latest ruling that gave one, or else the rubric's. A forced grade
outlasts every run of steps that do not set it.

And of every sheet, after a run or not: If its grade is forced, evaluating without a scale and a
verdict that both count leaves it as it is, whatever the findings. A scale and a verdict that count
set the verdict, and the score to the product of the full score and the scale, forced or not; this
fails only where the two numbers have no product, because one is too large for it. Evaluating twice
is evaluating once. -/
theorem grade_over_run (r : Rubric) (steps : List Step) :
    ((sheetAfter r steps).grade.forced = true ↔ ∃ ruling, Step.rule ruling ∈ steps) ∧
    (∀ more, (sheetAfter r steps).grade.forced = true →
      (sheetAfter r (steps ++ more)).grade.forced = true) ∧
    (sheetAfter r steps).grade.maxScore =
      (steps.filterMap Step.maxScore?).getLast?.getD r.maxScore ∧
    (∀ more, (sheetAfter r steps).grade.forced = true →
      (∀ s ∈ more, Step.setsGrade s = false) →
        (sheetAfter r (steps ++ more)).grade = (sheetAfter r steps).grade) ∧
    (∀ (s : Sheet) scale verdict, s.grade.forced = true → bothCount scale verdict = false →
      s.evaluateWith scale verdict = .ok s ∧ s.evaluate = .ok s) ∧
    (∀ (s : Sheet) scale verdict, bothCount (some scale) verdict = true →
      s.evaluateWith (some scale) verdict =
          (s.grade.maxScore.mul? scale).elim (.error .integerTooLarge) (fun score =>
            .ok { s with grade := { s.grade with score, verdict := .stated verdict } }) ∧
        (∀ score, s.grade.maxScore.mul? scale = some score ↔
          s.grade.maxScore.IsProduct scale score) ∧
        ((∃ after, s.evaluateWith (some scale) verdict = .ok after) ↔
          s.grade.maxScore.Multipliable scale)) ∧
    (∀ s : Sheet, s.evaluate >>= Sheet.evaluate = s.evaluate) ∧
    sheetAfter r (steps ++ [.evaluate, .evaluate]) = sheetAfter r (steps ++ [.evaluate]) := by
  have happend : ∀ more, sheetAfter r (steps ++ more) =
      (((Desk.new r).run steps).run more).sheet := by
    intro more
    rw [sheetAfter, Desk.run_append]
  refine ⟨?_, fun more hforced => ?_, Desk.maxScore_run _ steps, fun more hforced hmore => ?_,
    fun s scale verdict hforced hcount => Sheet.evaluateWith_of_forced hforced hcount,
    fun s scale verdict hcount => ⟨s.evaluateWith_of_bothCount hcount,
      fun score => Number.mul?_eq_some_iff, ?_⟩,
    Sheet.evaluate_evaluate, ?_⟩
  · have hnew : (sheetAfter r steps).grade.forced = steps.any Step.isRuling :=
      Desk.forced_run (Desk.new r) steps
    rw [hnew, List.any_eq_true]
    constructor
    · rintro ⟨s, hs, hruling⟩
      obtain ⟨ruling, rfl⟩ := Step.isRuling_iff.mp hruling
      exact ⟨ruling, hs⟩
    · rintro ⟨ruling, hs⟩
      exact ⟨_, hs, rfl⟩
  · have hstill := Desk.forced_run ((Desk.new r).run steps) more
    rw [happend, hstill, Bool.or_eq_true]
    exact Or.inl hforced
  · rw [happend]
    exact Desk.grade_run_of_forced hforced hmore
  · rw [s.evaluateWith_of_bothCount hcount, ← exists_mul?_iff]
    cases s.grade.maxScore.mul? scale <;> simp
  · rw [happend, happend, Desk.run_cons, Desk.run_cons, Desk.run_cons,
      Desk.step_evaluate_evaluate]

/-- A ruling that business logic is not in question outlasts eight errors, and so does its full
score of nothing. A sheet that is failed outright still takes half of its full score, and an integer
scale gives an integer score. -/
theorem ruling_outlasts_errors :
    (sheetAfter Consideration.businessLogic.rubric
      [.add (.join (List.replicate 8 (.error "Choice stage" none))), .rule .notApplicable,
        .evaluate]).grade.maxScore = 0 ∧
    (sheetAfter Consideration.businessLogic.rubric
      ([.add (.join (List.replicate 8 (.error "Choice stage" none))), .rule .notApplicable] ++
        [.clear, .evaluateWith (some (.float 0.5)) .null, .evaluate])).grade =
      (Grade.full 10).rule .notApplicable ∧
    ∃ half double,
      (Consideration.recover.sheet.rule .failed).evaluateWith (some (.float 0.5)) (.text "Yes") =
        .ok half ∧
      (Consideration.recover.sheet.rule .failed).evaluateWith (some 2) (.text "Yes") =
        .ok double ∧
      half.grade = ⟨.float (Float.ofInt 10 * 0.5), 10, .stated (.text "Yes"), true⟩ ∧
      double.grade = ⟨20, 10, .stated (.text "Yes"), true⟩ := by
  refine ⟨?_, ?_, ?_⟩
  · rw [(grade_over_run _ _).2.2.1]
    rfl
  · rw [(grade_over_run _ [.add _, .rule .notApplicable]).2.2.2.1
      [.clear, .evaluateWith (some (.float 0.5)) .null, .evaluate] rfl (by decide)]
    rfl
  · obtain ⟨-, -, -, -, -, hstated, -⟩ := grade_over_run Consideration.recover.rubric []
    obtain ⟨hhalf, hproduct, -⟩ := hstated (Consideration.recover.sheet.rule .failed) (.float 0.5)
      (.text "Yes") (by decide)
    obtain ⟨hdouble, hproduct', -⟩ := hstated (Consideration.recover.sheet.rule .failed) 2
      (.text "Yes") rfl
    rw [(hproduct _).mpr (.float Number.toFloat?_ten rfl (.inr rfl))] at hhalf
    rw [(hproduct' _).mpr (.int 10 2)] at hdouble
    exact ⟨_, _, hhalf, hdouble, rfl, rfl⟩

end ReleaseReview
