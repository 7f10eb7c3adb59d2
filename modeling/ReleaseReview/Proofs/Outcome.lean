import ReleaseReview.Consideration
import ReleaseReview.Proofs.Success

/-!
# What checks come to

A check gives findings, and may rule on the grade. `Outcome.Usual` lists what nearly all checks come
to: no ruling at all, that the consideration does not apply, and then there is no error among the
findings, or an outright failure. The one other outcome is that of the check for reuse on a wrapper,
which is not counted. `usual_or_uncounted` says so for all checks together.
-/

namespace ReleaseReview

open Markup

/-- No errors among the findings. -/
def Findings.Harmless (findings : Findings) : Prop :=
  findings.errors = []

theorem Findings.harmless_join {parts : List Findings} (h : ∀ part ∈ parts, part.Harmless) :
    (join parts).Harmless :=
  List.flatMap_eq_nil_iff.mpr h

theorem Findings.harmless_append {a b : Findings} (ha : a.Harmless) (hb : b.Harmless) :
    (a ++ b).Harmless := by
  rw [Harmless, errors_append, ha, hb, List.nil_append]

/-- The outcomes that a check usually comes to. -/
inductive Outcome.Usual : Outcome → Prop
  | found (findings : Findings) : Usual ⟨findings, none⟩
  | notApplicable (findings : Findings) (h : findings.Harmless) :
    Usual ⟨findings, some .notApplicable⟩
  | failed (findings : Findings) : Usual ⟨findings, some .failed⟩

open Outcome.Usual

variable (object : Placed) (facts : Facts)

/-- Work that always makes findings and never rules. -/
theorem usual_of_found {α : Type} {x : Except Fault α} {findings : α → Findings} :
    Yields Outcome.Usual (x >>= fun a => pure (.found (findings a))) :=
  .after fun _ => .pure (found _)

/-- A check that wrappers are exempt from. -/
theorem usual_unless_wrapper {check : Kind → Except Fault Outcome}
    (h : ∀ kind, Yields Outcome.Usual (check kind)) :
    Yields Outcome.Usual (facts.kind >>= fun kind =>
      if kind = .wrapper then pure .notApplicable else check kind) := by
  refine .after fun kind => ?_
  split
  · exact .pure (notApplicable _ rfl)
  · exact h kind

/-! ## Checks that rule before they look -/

theorem usual_checkHasAttach : Yields Outcome.Usual (checkHasAttach object facts) := by
  refine usual_unless_wrapper facts fun _ => .after fun has => ?_
  split
  · exact .pure (found _)
  · exact .pure (found _)

theorem usual_checkUseAttach : Yields Outcome.Usual (checkUseAttach object facts) :=
  usual_unless_wrapper facts fun _ => usual_of_found

theorem usual_checkStartWait : Yields Outcome.Usual (checkStartWait object facts) :=
  usual_unless_wrapper facts fun _ => usual_of_found

theorem usual_checkWaitTimeout : Yields Outcome.Usual (checkWaitTimeout object facts) :=
  usual_unless_wrapper facts fun _ => usual_of_found

theorem usual_checkNavigate : Yields Outcome.Usual (checkNavigate object facts) := by
  refine .after fun kind => .ite (fun _ => ?_) fun _ => .ite (fun _ => ?_) fun _ => ?_
  · exact .pure (notApplicable _ rfl)
  · exact .pure (notApplicable _ rfl)
  · exact .after fun pages => usual_of_found

theorem usual_checkNotArbitrary : Yields Outcome.Usual (checkNotArbitrary object facts) := by
  refine .after fun surface => .ite (fun _ => ?_) fun _ => ?_
  · exact .pure (notApplicable _ rfl)
  · refine usual_unless_wrapper facts fun kind => .ite (fun _ => ?_) fun _ => ?_
    · exact .pure (notApplicable _ rfl)
    · exact usual_of_found

theorem usual_checkLogging : Yields Outcome.Usual (checkLogging object facts) := by
  refine .after fun production => ?_
  split
  · exact .pure (notApplicable _ rfl)
  · exact .after fun pages => .pure (found _)

theorem usual_checkTreeShape : Yields Outcome.Usual (checkTreeShape object facts) := by
  refine .after fun kind => ?_
  split
  · exact usual_of_found
  · exact .pure (found _)
  · exact .pure (found _)
  · exact .pure (found _)
  · exact .pure (notApplicable _ rfl)

/-! ## Checks that never rule -/

theorem usual_checkDocumentation : Yields Outcome.Usual (checkDocumentation object facts) :=
  .after fun _ => usual_of_found

theorem usual_checkTypeDetail : Yields Outcome.Usual (checkTypeDetail object facts) :=
  usual_of_found

theorem usual_checkExceptionDetails : Yields Outcome.Usual (checkExceptionDetails object facts) :=
  usual_of_found

theorem usual_checkExceptionType : Yields Outcome.Usual (checkExceptionType object facts) :=
  usual_of_found

theorem usual_checkActionSize : Yields Outcome.Usual (checkActionSize object facts) :=
  usual_of_found

theorem usual_checkExposure : Yields Outcome.Usual (checkExposure object facts) := by
  refine .after fun works => ?_
  split
  · exact .pure (found _)
  · exact .pure (found _)

theorem usual_checkBusinessLogic : Yields Outcome.Usual (checkBusinessLogic object facts) := by
  refine .after fun kind => ?_
  split
  · exact .after fun first => usual_of_found
  · exact .after fun first => usual_of_found

/-! ## Checks of the application model -/

/-- Without a ruling or with a failure, findings do not matter. -/
theorem usual_of_ruling {outcome : Outcome}
    (h : outcome.ruling = none ∨ outcome.ruling = some .failed) : outcome.Usual := by
  obtain ⟨findings, ruling⟩ := outcome
  rcases h with rfl | rfl
  · exact found _
  · exact failed _

theorem ruling_judgeApplication (type : String) :
    (judgeApplication type).ruling = none ∨ (judgeApplication type).ruling = some .failed := by
  unfold judgeApplication
  split
  · exact Or.inl rfl
  · exact Or.inr rfl

theorem usual_checkModel {check : Element → Except Fault Outcome}
    (h : ∀ model, Yields Outcome.Usual (check model)) :
    Yields Outcome.Usual (checkModel check object facts) := by
  refine usual_unless_wrapper facts fun kind => ?_
  split
  · exact .pure (found _)
  · refine .ite (fun _ => ?_) fun _ => ?_
    · exact .pure (notApplicable _ rfl)
    · exact h _

theorem usual_checkCustomerData (isDate : DateReader) :
    Yields Outcome.Usual (checkCustomerData isDate object facts) :=
  usual_checkModel object facts fun _ => .after fun application => .after fun _ =>
    .pure (usual_of_ruling (ruling_judgeApplication application))

theorem usual_checkTechnology : Yields Outcome.Usual (checkTechnology object facts) :=
  usual_checkModel object facts fun _ => .after fun application => .after fun _ => .after fun _ =>
    .pure (usual_of_ruling (ruling_judgeApplication application))

theorem usual_checkElementNames : Yields Outcome.Usual (checkElementNames object facts) := by
  refine usual_unless_wrapper facts fun kind => .after fun model => .ite (fun _ => ?_) fun _ => ?_
  · exact .pure (notApplicable _ rfl)
  · refine .after fun application => .after fun titles => ?_
    refine .ite (fun _ => .after fun regions => ?_) fun _ => .after fun regions => ?_
    · exact .pure (usual_of_ruling (ruling_judgeApplication application))
    · exact .pure (usual_of_ruling (ruling_judgeApplication application))

/-- The remarks on environment data either leave the ruling to the application's type, or say that
the check does not apply before there is any remark. -/
theorem ruling_environmentRemarks {isDate : DateReader} {ruling : Option Ruling}
    (h : (environmentRemarks isDate object facts).result = .ok ruling) :
    (ruling = none ∨ ruling = some .failed) ∨
      (ruling = some .notApplicable ∧ (environmentRemarks isDate object facts).notes = []) := by
  unfold environmentRemarks at h ⊢
  rw [Account.result_bind] at h
  obtain ⟨kind, hkind, h⟩ := bind_eq_ok.mp h
  rw [Account.notes_bind_of_ok hkind]
  split at h
  next hwrapper =>
    rw [if_pos hwrapper]
    exact Or.inr ⟨(pure_eq_ok.mp h).symm, rfl⟩
  next hwrapper =>
    rw [if_neg hwrapper]
    cases hmodel : model? object.toElement with
    | none =>
      simp only [hmodel] at h
      exact Or.inl (Or.inl (pure_eq_ok.mp h).symm)
    | some model =>
      simp only [hmodel] at h ⊢
      split at h
      next hparent =>
        rw [if_pos hparent]
        exact Or.inr ⟨(pure_eq_ok.mp h).symm, rfl⟩
      next hparent =>
        rw [Account.result_bind] at h
        obtain ⟨application, -, h⟩ := bind_eq_ok.mp h
        rw [Account.result_bind, Account.result_note, ok_bind, Account.result_bind] at h
        obtain ⟨-, -, h⟩ := bind_eq_ok.mp h
        rw [← pure_eq_ok.mp h]
        exact Or.inl (ruling_judgeApplication application)

theorem usual_checkEnvironmentData (isDate : DateReader) :
    Yields Outcome.Usual (checkEnvironmentData isDate object facts) := by
  refine .bind (fun ruling h => ruling_environmentRemarks object facts h) fun ruling h => ?_
  rcases h with h | ⟨rfl, hnotes⟩
  · exact .pure (usual_of_ruling h)
  · refine .pure (notApplicable _ ?_)
    rw [hnotes]
    rfl

/-! ## Checks that rule on what they find -/

theorem usual_checkGlobalTimeout : Yields Outcome.Usual (checkGlobalTimeout object facts) := by
  refine .ite (fun _ => ?_) fun _ => ?_
  · exact .pure (failed _)
  · exact usual_of_found

theorem usual_checkImages : Yields Outcome.Usual (checkImages object facts) := by
  refine .after fun findings => .pure ?_
  split
  next hnone =>
    rw [List.isEmpty_iff.mp hnone]
    exact notApplicable _ rfl
  · exact found _

/-- Only a base object is blamed for calling Actions. -/
theorem harmless_judgeCall {kind : Kind} (h : kind ≠ .base) (call : Element)
    (page : Option String) : Yields Findings.Harmless (judgeCall kind call page) := by
  refine .ite (fun hbase => absurd hbase h) fun _ => .after fun resource => ?_
  refine .ite (fun _ => ?_) fun _ => ?_
  · exact .pure rfl
  · exact .pure rfl

theorem harmless_judgeCallOnPage {kind : Kind} (h : kind ≠ .base) (pages : PageIndex)
    (call : Placed) : Yields (fun findings => ∀ found ∈ findings, found.Harmless)
      (judgeCallOnPage kind pages call) := by
  refine .after fun page => ?_
  cases page with
  | none => exact .pure (by simp)
  | some page =>
    refine .bind (harmless_judgeCall h call page) fun found hfound => .pure ?_
    rintro _ ⟨⟩
    exact hfound

theorem usual_checkActionCalled : Yields Outcome.Usual (checkActionCalled object facts) := by
  refine .after fun pages => .after fun kind => ?_
  by_cases hbase : kind = .base
  · subst hbase
    exact .after fun calls => .pure (found _)
  · refine .bind (.mapM fun call _ => harmless_judgeCallOnPage hbase pages call)
      fun calls hcalls => .pure ?_
    split
    · refine notApplicable _ (Findings.harmless_join fun found hfound => ?_)
      obtain ⟨call, hcall, h⟩ := List.mem_filterMap.mp hfound
      exact hcalls call hcall found h
    · exact found _

/-- A wrapper is only warned about recovering. -/
theorem harmless_judgeRecovery (page : Option String) :
    Yields Findings.Harmless (judgeRecovery .wrapper page) :=
  .pure rfl

theorem harmless_judgeRecoveries (stages : List Placed) (seen : List (Option String)) :
    Yields Findings.Harmless (judgeRecoveries object .wrapper seen stages) := by
  induction stages generalizing seen with
  | nil => exact .ok rfl
  | cons stage stages ih =>
    refine .after fun pages => .after fun id => .ite (fun _ => ih seen) fun _ => ?_
    exact .bind (harmless_judgeRecovery _) fun found hfound =>
      .bind (ih _) fun rest hrest => .pure (Findings.harmless_append hfound hrest)

theorem usual_checkRecover : Yields Outcome.Usual (checkRecover object facts) := by
  refine .after fun kind => ?_
  by_cases hwrapper : kind = .wrapper
  · subst hwrapper
    exact .bind (harmless_judgeRecoveries object _ _) fun findings h => .pure (notApplicable _ h)
  · refine .after fun findings => .pure ?_
    rw [if_neg hwrapper]
    exact found _

theorem pagesIn_eq_nil {roles : List (FocusRole × Option String)} {role : FocusRole}
    (h : ∀ found ∈ roles, found.1 ≠ role) : pagesIn roles role = [] := by
  have hnone : roles.filter (fun found => found.1 = role) = [] := by
    rw [List.filter_eq_nil_iff]
    intro found hfound
    simpa using h found hfound
  rw [pagesIn, hnone]
  rfl

/-- There is nothing to blame where no step works on the window in front. -/
theorem harmless_judgeFocus (pages : PageIndex) {roles : List (FocusRole × Option String)}
    (h : ∀ found ∈ roles, isGlobal found.1 = false) : (judgeFocus pages roles).Harmless := by
  have hnavigates : pagesIn roles .navigates = [] := by
    refine pagesIn_eq_nil fun found hfound hrole => ?_
    simpa [isGlobal, hrole] using h found hfound
  have hreads : pagesIn roles .reads = [] := by
    refine pagesIn_eq_nil fun found hfound hrole => ?_
    simpa [isGlobal, hrole] using h found hfound
  simp [Findings.Harmless, judgeFocus, hnavigates, hreads, errorEach, warnEach]

theorem usual_checkFocus : Yields Outcome.Usual (checkFocus object facts) := by
  refine .after fun pages => .after fun navigations => .after fun reads => .pure ?_
  split
  · exact found _
  next hglobal =>
    refine notApplicable _ (harmless_judgeFocus pages fun found hfound => ?_)
    rw [List.any_eq_true] at hglobal
    exact Bool.eq_false_iff.mpr fun h => hglobal ⟨found, hfound, h⟩

/-! ## All checks -/

/-- A wrapper's Actions are not counted, those of other objects may be found to be mixed. -/
theorem usual_or_uncounted_checkReuse :
    Yields (fun outcome => outcome.Usual ∨
        facts.kind = .ok .wrapper ∧ outcome = ⟨.none, some .uncounted⟩)
      (checkReuse object facts) := by
  refine .bind_ok fun kind hkind => ?_
  refine .ite (fun hwrapper => ?_) fun _ => ?_
  · exact .pure (Or.inr ⟨hwrapper ▸ hkind, rfl⟩)
  · refine .after fun _ => .after fun _ => .after fun _ => .after fun _ => ?_
    exact .after fun _ => .pure (Or.inl (found _))

/-- Every check comes to one of the usual outcomes, but for that on the reuse of a wrapper. -/
theorem usual_or_uncounted (isDate : DateReader) (c : Consideration) :
    Yields (fun outcome => outcome.Usual ∨
        c = .reuse ∧ facts.kind = .ok .wrapper ∧ outcome = ⟨.none, some .uncounted⟩)
      (c.check isDate object facts) := by
  intro outcome h
  cases c with
  | reuse =>
    rcases usual_or_uncounted_checkReuse object facts outcome h with husual | huncounted
    · exact Or.inl husual
    · exact Or.inr ⟨rfl, huncounted⟩
  | startWait => exact Or.inl (usual_checkStartWait object facts outcome h)
  | documentation => exact Or.inl (usual_checkDocumentation object facts outcome h)
  | useAttach => exact Or.inl (usual_checkUseAttach object facts outcome h)
  | elementNames => exact Or.inl (usual_checkElementNames object facts outcome h)
  | treeShape => exact Or.inl (usual_checkTreeShape object facts outcome h)
  | typeDetail => exact Or.inl (usual_checkTypeDetail object facts outcome h)
  | exceptionDetails => exact Or.inl (usual_checkExceptionDetails object facts outcome h)
  | exceptionType => exact Or.inl (usual_checkExceptionType object facts outcome h)
  | focus => exact Or.inl (usual_checkFocus object facts outcome h)
  | globalTimeout => exact Or.inl (usual_checkGlobalTimeout object facts outcome h)
  | images => exact Or.inl (usual_checkImages object facts outcome h)
  | logging => exact Or.inl (usual_checkLogging object facts outcome h)
  | navigate => exact Or.inl (usual_checkNavigate object facts outcome h)
  | actionCalled => exact Or.inl (usual_checkActionCalled object facts outcome h)
  | actionSize => exact Or.inl (usual_checkActionSize object facts outcome h)
  | hasAttach => exact Or.inl (usual_checkHasAttach object facts outcome h)
  | exposure => exact Or.inl (usual_checkExposure object facts outcome h)
  | businessLogic => exact Or.inl (usual_checkBusinessLogic object facts outcome h)
  | recover => exact Or.inl (usual_checkRecover object facts outcome h)
  | technology => exact Or.inl (usual_checkTechnology object facts outcome h)
  | customerData => exact Or.inl (usual_checkCustomerData object facts isDate outcome h)
  | environmentData => exact Or.inl (usual_checkEnvironmentData object facts isDate outcome h)
  | notArbitrary => exact Or.inl (usual_checkNotArbitrary object facts outcome h)
  | waitTimeout => exact Or.inl (usual_checkWaitTimeout object facts outcome h)

end ReleaseReview
