import ReleaseReview.Proofs.Agreement
import ReleaseReview.Proofs.Assessment

/-!
# Pages that recover

An object should leave it to the process to recover from an exception. The check goes through the
stages that recover and keeps the ids of the pages it has come across, so that a page counts with
the first of its stages only. What it comes to is therefore a review of the pages that recover
(`judgeRecoveries_yields`), each of them once and in the order of `recoveringPages`.

`recoveries_noted_once` says what is found: in a wrapper a warning for each of these pages, and the
check does not apply; in any other object an error for each of them whose name is not about
attaching or detaching.
-/

namespace ReleaseReview

open Markup Text

/-! ## Stages and pages -/

/-- What a page of the object that recovers gives rise to. -/
def recoveryOn (object : Placed) (kind : Kind) (id : Option String) : Except Fault Findings := do
  let pages ← PageIndex.of object
  judgeRecovery kind (pages.nameOf id)

/-- The first id that was not seen before counts, and the same id no more. -/
theorem eraseDups_unseen_cons {seen : List (Option String)} {id : Option String}
    (hid : seen.contains id = false) (ids : List (Option String)) :
    ((id :: ids).filter fun other => !seen.contains other).eraseDups =
      id :: (ids.filter fun other => !(seen ++ [id]).contains other).eraseDups := by
  rw [List.filter_cons_of_pos (by rw [hid]; rfl), List.eraseDups_cons, List.filter_filter]
  have hkeep : ∀ other, (!other == id && !seen.contains other) =
      !(seen ++ [id]).contains other := by
    intro other
    by_cases hother : other = id <;> simp [hother]
  simp only [hkeep]

/-- To recover is noted once for each page, whatever the number and the order of its stages. -/
theorem judgeRecoveries_yields (object : Placed) (kind : Kind) (stages : List Placed)
    (seen : List (Option String)) :
    Yields (fun findings => ∃ ids, stages.mapM (fun stage => pageId stage.toElement) = .ok ids ∧
        review (ids.filter fun id => !seen.contains id).eraseDups (recoveryOn object kind) =
          .ok findings)
      (judgeRecoveries object kind seen stages) := by
  induction stages generalizing seen with
  | nil => exact .ok ⟨[], rfl, rfl⟩
  | cons stage stages ih =>
    intro findings hfindings
    unfold judgeRecoveries at hfindings
    obtain ⟨pages, hpages, hfindings⟩ := bind_eq_ok.mp hfindings
    obtain ⟨id, hid, hfindings⟩ := bind_eq_ok.mp hfindings
    split at hfindings
    next hseen =>
      -- a page that was seen is passed over, also by the filter
      obtain ⟨ids, hids, hreview⟩ := ih seen findings hfindings
      refine ⟨id :: ids, mapM_eq_ok_iff.mpr (.cons hid (mapM_eq_ok_iff.mp hids)), ?_⟩
      rw [List.filter_cons_of_neg (by rw [hseen]; decide)]
      exact hreview
    next hseen =>
      obtain ⟨first, hfirst, hfindings⟩ := bind_eq_ok.mp hfindings
      obtain ⟨rest, hrest, hfindings⟩ := bind_eq_ok.mp hfindings
      obtain rfl := pure_eq_ok.mp hfindings
      obtain ⟨ids, hids, hreview⟩ := ih (seen ++ [id]) rest hrest
      refine ⟨id :: ids, mapM_eq_ok_iff.mpr (.cons hid (mapM_eq_ok_iff.mp hids)), ?_⟩
      have hpage : recoveryOn object kind id = .ok first := by
        rw [recoveryOn, hpages]
        exact hfirst
      rw [eraseDups_unseen_cons (Bool.eq_false_iff.mpr hseen), review_cons_ok _ hpage, hreview]
      rfl

/-- The ids of the pages that recover, each of them once, in the order in which they first come up.
-/
def recoveringPages (object : Placed) : Except Fault (List (Option String)) := do
  let ids ← (stagesOf object "Recover").mapM fun stage => pageId stage.toElement
  return ids.eraseDups

theorem nodup_recoveringPages (object : Placed) : Yields List.Nodup (recoveringPages object) :=
  .after fun ids => .pure (nodup_eraseDups ids)

/-- The index of pages is the same for all stages, and is only needed if there are any. -/
theorem exists_pages_of_review {object : Placed} {kind : Kind} {ids : List (Option String)}
    {findings : Findings} (h : review ids (recoveryOn object kind) = .ok findings) :
    ∃ pages : PageIndex, (ids ≠ [] → PageIndex.of object = .ok pages) ∧
      review ids (fun id => judgeRecovery kind (pages.nameOf id)) = .ok findings := by
  cases ids with
  | nil => exact ⟨[], fun hne => absurd rfl hne, h⟩
  | cons id ids =>
    obtain ⟨shares, -, hshares⟩ := review_eq_ok h
    obtain ⟨share, -, hshare, -, -⟩ := List.forall₂_cons_left_iff.mp hshares
    obtain ⟨pages, hpages, -⟩ := bind_eq_ok.mp hshare
    have hon : recoveryOn object kind = fun id => judgeRecovery kind (pages.nameOf id) := by
      funext id
      rw [recoveryOn, hpages, ok_bind]
    exact ⟨pages, fun _ => hpages, hon ▸ h⟩

/-! ## What is found on a page -/

/-- May a page of this name recover: is it about attaching or detaching? -/
def mayRecover (name : String) : Bool :=
  occurs "attach" (lower name) || occurs "detach" (lower name)

/-- What is noted on a page that recovers. -/
def recoveryShare (kind : Kind) (page : Option String) : Findings :=
  if kind = .wrapper then .warning "Exception handling (Recover stage) in a wrapper Object" page
  else if page.any mayRecover then .none
  else .error "Exception handling (Recover stage) in base Object" page

/-- A page has its share in the findings. But for a wrapper it has to have a name. -/
theorem judgeRecovery_eq_ok {kind : Kind} {page : Option String} {share : Findings}
    (h : judgeRecovery kind page = .ok share) :
    share = recoveryShare kind page ∧ (kind ≠ .wrapper → page.isSome = true) := by
  unfold judgeRecovery at h
  unfold recoveryShare
  split at h
  next hwrapper =>
    rw [if_pos hwrapper]
    exact ⟨(pure_eq_ok.mp h).symm, fun hne => absurd hwrapper hne⟩
  next hwrapper =>
    rw [if_neg hwrapper]
    obtain ⟨text, htext, h⟩ := bind_eq_ok.mp h
    obtain ⟨name, hname, htext⟩ := bind_eq_ok.mp htext
    obtain rfl := need_eq_ok_iff.mp hname
    obtain rfl := pure_eq_ok.mp htext
    have hwords : anyOccurs recoveringWords (lower name) = mayRecover name := by
      simp [anyOccurs, recoveringWords, mayRecover]
    rw [hwords] at h
    refine ⟨?_, fun _ => rfl⟩
    rw [Option.any_some]
    split at h
    next hmay => rw [if_pos hmay]; exact (pure_eq_ok.mp h).symm
    next hmay => rw [if_neg hmay]; exact (pure_eq_ok.mp h).symm

theorem review_judgeRecovery_eq_ok {kind : Kind} {pages : PageIndex} {ids : List (Option String)}
    {findings : Findings}
    (h : review ids (fun id => judgeRecovery kind (pages.nameOf id)) = .ok findings) :
    findings = .join (ids.map fun id => recoveryShare kind (pages.nameOf id)) ∧
      (kind ≠ .wrapper → ∀ id ∈ ids, (pages.nameOf id).isSome = true) := by
  obtain ⟨shares, hmap, hjoin⟩ := bind_eq_ok.mp h
  constructor
  · rw [← pure_eq_ok.mp hjoin,
      eq_map_of_mapM_eq_ok (fun id share hshare => (judgeRecovery_eq_ok hshare).1) hmap]
  · intro hkind id hid
    obtain ⟨share, hshare⟩ := exists_of_mapM_eq_ok hmap id hid
    exact (judgeRecovery_eq_ok hshare).2 hkind

/-- In a wrapper each page is warned about. -/
theorem join_recoveryShare_wrapper (pages : PageIndex) (ids : List (Option String)) :
    Findings.join (ids.map fun id => recoveryShare .wrapper (pages.nameOf id)) =
      ⟨[], ids.map fun id =>
        ⟨"Exception handling (Recover stage) in a wrapper Object", pages.nameOf id⟩⟩ := by
  induction ids with
  | nil => rfl
  | cons id ids ih => rw [List.map_cons, Findings.join_cons, ih]; rfl

/-- In any other object each page is an error, but for those that may recover. -/
theorem join_recoveryShare_of_ne {kind : Kind} (hkind : kind ≠ .wrapper) (pages : PageIndex)
    (ids : List (Option String)) :
    Findings.join (ids.map fun id => recoveryShare kind (pages.nameOf id)) =
      ⟨(ids.filter fun id => !(pages.nameOf id).any mayRecover).map fun id =>
        ⟨"Exception handling (Recover stage) in base Object", pages.nameOf id⟩, []⟩ := by
  induction ids with
  | nil => rfl
  | cons id ids ih =>
    rw [List.map_cons, Findings.join_cons, ih, recoveryShare, if_neg hkind, List.filter_cons]
    cases (pages.nameOf id).any mayRecover <;> rfl

/-! ## The check -/

/-- What the check comes to is noted page by page, and it rules on wrappers only. -/
theorem checkRecover_eq_ok {object : Placed} {facts : Facts} {outcome : Outcome}
    (h : checkRecover object facts = .ok outcome) :
    ∃ kind ids pages, facts.kind = .ok kind ∧ recoveringPages object = .ok ids ∧
      (ids ≠ [] → PageIndex.of object = .ok pages) ∧
      (kind ≠ .wrapper → ∀ id ∈ ids, (pages.nameOf id).isSome = true) ∧
      outcome = ⟨.join (ids.map fun id => recoveryShare kind (pages.nameOf id)),
        if kind = .wrapper then some .notApplicable else none⟩ := by
  obtain ⟨kind, hkind, h⟩ := bind_eq_ok.mp h
  obtain ⟨findings, hfindings, h⟩ := bind_eq_ok.mp h
  obtain rfl := pure_eq_ok.mp h
  obtain ⟨ids, hids, hreview⟩ := judgeRecoveries_yields object kind _ [] findings hfindings
  have hall : (ids.filter fun id => !([] : List (Option String)).contains id) = ids :=
    List.filter_eq_self.mpr fun _ _ => rfl
  rw [hall] at hreview
  obtain ⟨pages, hpages, hreview⟩ := exists_pages_of_review hreview
  obtain ⟨rfl, hnames⟩ := review_judgeRecovery_eq_ok hreview
  exact ⟨kind, ids.eraseDups, pages, hkind, bind_eq_ok.mpr ⟨ids, hids, rfl⟩, hpages, hnames, rfl⟩

/-- Whenever the check comes to an end, so does the assessment, and what is found is found once for
each page that recovers, in the order in which the pages first come up. In a wrapper each of them is
warned about, there are no errors and the check does not apply. In any other object each of them has
a name, those whose name in lower case has neither attach nor detach in it are errors, there are no
warnings and the result is not forced. -/
theorem recoveries_noted_once (isDate : DateReader) {object : Placed} {facts : Facts}
    {outcome : Outcome} (h : checkRecover object facts = .ok outcome) :
    ∃ kind ids pages sheet, facts.kind = .ok kind ∧
      recoveringPages object = .ok ids ∧ ids.Nodup ∧
      (ids ≠ [] → PageIndex.of object = .ok pages) ∧
      Consideration.recover.assess isDate object facts = .ok sheet ∧
      sheet.findings = outcome.findings ∧
      (kind = .wrapper →
        outcome.findings.warnings = ids.map (fun id =>
          ⟨"Exception handling (Recover stage) in a wrapper Object", pages.nameOf id⟩) ∧
        outcome.findings.errors = [] ∧ sheet.grade.verdict = .notApplicable) ∧
      (kind ≠ .wrapper →
        (∀ id ∈ ids, (pages.nameOf id).isSome = true) ∧
        outcome.findings.errors =
          (ids.filter fun id => !(pages.nameOf id).any mayRecover).map (fun id =>
            ⟨"Exception handling (Recover stage) in base Object", pages.nameOf id⟩) ∧
        outcome.findings.warnings = [] ∧ sheet.grade.forced = false) := by
  have hassess : Consideration.recover.assess isDate object facts =
      (Consideration.recover.sheet.record outcome).evaluate := by
    rw [Consideration.assess, Consideration.check, h, ok_bind]
  obtain ⟨kind, ids, pages, hkind, hids, hpages, hnames, rfl⟩ := checkRecover_eq_ok h
  have hnodup := nodup_recoveringPages object ids hids
  by_cases hwrapper : kind = .wrapper
  · subst hwrapper
    rw [join_recoveryShare_wrapper, if_pos rfl] at hassess ⊢
    exact ⟨.wrapper, ids, pages, _, hkind, hids, hnodup, hpages,
      hassess.trans (Consideration.recover.evaluate_record_of_ruling _ _), rfl,
      fun _ => ⟨rfl, rfl, rfl⟩, fun hne => absurd rfl hne⟩
  · rw [join_recoveryShare_of_ne hwrapper, if_neg hwrapper] at hassess ⊢
    obtain ⟨score, verdict, hband, -⟩ := Consideration.recover.band_rubric facts _
    exact ⟨kind, ids, pages, _, hkind, hids, hnodup, hpages,
      hassess.trans (Consideration.recover.evaluate_record_of_found _ hband), rfl,
      fun heq => absurd heq hwrapper, fun _ => ⟨hnames hwrapper, rfl, rfl, rfl⟩⟩

/-- Three pages that recover, one of them to detach, and two of them in more than one stage. -/
def retryingObject : Placed :=
  let page (id name : String) : Node :=
    .element "subsheet" [("subsheetid", id)] [.element "name" [] [.leaf .text name]]
  let recover (id : String) : Node :=
    .element "stage" [("type", "Recover")] [.element "subsheetid" [] [.leaf .text id]]
  .alone ⟨"process", [], [page "1" "Open", page "2" "Detach", page "3" "Send",
    recover "3", recover "2", recover "3", recover "1", recover "2", recover "3"]⟩

/-- Six stages recover on three pages. The page that detaches is warned about in a wrapper, and is
no error in a base object. -/
theorem retrying_pages_are_found_once :
    ∃ base wrapper, checkRecover retryingObject ⟨.ok .base, .ok false, .ok false⟩ = .ok base ∧
      checkRecover retryingObject ⟨.ok .wrapper, .ok false, .ok false⟩ = .ok wrapper ∧
      base.findings.errors.map (·.location) = [some "Send", some "Open"] ∧
      wrapper.findings.warnings.map (·.location) = [some "Send", some "Detach", some "Open"] := by
  obtain ⟨base, hbase⟩ : ∃ base,
      checkRecover retryingObject ⟨.ok .base, .ok false, .ok false⟩ = .ok base := ⟨_, rfl⟩
  obtain ⟨wrapper, hwrapper⟩ : ∃ wrapper,
      checkRecover retryingObject ⟨.ok .wrapper, .ok false, .ok false⟩ = .ok wrapper := ⟨_, rfl⟩
  refine ⟨base, wrapper, hbase, hwrapper, ?_, ?_⟩
  · obtain ⟨kind, ids, pages, sheet, hkind, hids, -, hpages, -, -, -, hfound⟩ :=
      recoveries_noted_once Calendar.recognise hbase
    cases hkind
    cases hids
    cases hpages (by decide)
    rw [(hfound (by decide)).2.1]
    decide +kernel
  · obtain ⟨kind, ids, pages, sheet, hkind, hids, -, hpages, -, -, hfound, -⟩ :=
      recoveries_noted_once Calendar.recognise hwrapper
    cases hkind
    cases hids
    cases hpages (by decide)
    rw [(hfound rfl).1]
    decide +kernel

end ReleaseReview
