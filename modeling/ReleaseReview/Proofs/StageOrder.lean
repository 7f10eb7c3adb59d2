import ReleaseReview.Proofs.Descent
import ReleaseReview.Proofs.Locality
import ReleaseReview.Proofs.MixedPages
import ReleaseReview.Proofs.Recoveries

/-!
# The order of the stages

An object says what leads where by ids, so the order in which its stages are written should not
matter. For eight of the checks it does not: if the stages of an object change places among
themselves (`Restaged`), each of the eight finds the same errors and the same warnings, in whatever
order, and comes to the same grade. This is `grade_of_restaged`. Where a fault comes first may
depend on the order, so nothing is said unless both checks come to an end.

A check sees of the change no more than `Reordered` says: the pages are the same and in the same
order, the stages are the same, and so is all that is below the object.
-/

namespace ReleaseReview

open Markup Placed

/-! ## Stages that change places -/

def isStage (node : Node) : Bool :=
  node.name? == some "stage"

/-- The same nodes, but with the stages among them in another order in the same positions. -/
structure Restaged (before after : List Node) : Prop where
  places : List.Forall₂ (fun a b => a = b ∨ isStage a = true ∧ isStage b = true) before after
  stages : (before.filter isStage).Perm (after.filter isStage)

/-- The considerations for which the order of the stages does not matter. -/
def Consideration.orderless : List Consideration :=
  [.reuse, .focus, .actionSize, .recover, .notArbitrary, .globalTimeout, .useAttach, .images]

namespace Restaged

variable {before after : List Node} (h : Restaged before after)

include h

/-- All but the stages stay where they are. -/
theorem filter_eq {keep : Node → Bool} (hkeep : ∀ node, isStage node = true → keep node = false) :
    before.filter keep = after.filter keep := by
  obtain ⟨hplaces, -⟩ := h
  induction hplaces with
  | nil => rfl
  | cons hab _ ih =>
    rcases hab with rfl | ⟨ha, hb⟩
    · rw [List.filter_cons, List.filter_cons, ih]
    · rw [List.filter_cons, List.filter_cons, hkeep _ ha, hkeep _ hb, ih]
      rfl

theorem perm : before.Perm after := by
  have hrest : before.filter (!isStage ·) = after.filter (!isStage ·) :=
    h.filter_eq fun node hnode => by rw [hnode]; rfl
  calc before.Perm (before.filter isStage ++ before.filter (!isStage ·)) :=
        (List.filter_append_perm isStage before).symm
    _ = before.filter isStage ++ after.filter (!isStage ·) := by rw [hrest]
    List.Perm _ (after.filter isStage ++ after.filter (!isStage ·)) := h.stages.append_right _
    List.Perm _ after := List.filter_append_perm isStage after

end Restaged

/-- Objects that only differ in the order of their stages, as far as the checks see. -/
structure Reordered (p q : Placed) : Prop where
  pages : (p.placedChildren "subsheet").map settled = (q.placedChildren "subsheet").map settled
  stages : ((stages p).map settled).Perm ((stages q).map settled)
  descendants : p.descendants.Perm q.descendants

theorem childrenNamed_eq (e : Element) (name : String) :
    e.childrenNamed name = (e.children.filter (·.name? == some name)).filterMap Node.element? := by
  unfold Element.childrenNamed Element.childElements
  induction e.children with
  | nil => rfl
  | cons node nodes ih =>
    cases node with
    | leaf kind content => exact ih
    | element label attributes children =>
      by_cases hname : label = name <;> simp [Node.name?, Node.element?, hname, ih]

/-- Stages and pages that have children do not show what stands after them, so the checks only see
that the stages come in another order. -/
theorem reordered_of_restaged {object : Placed} {nodes : List Node}
    (h : Restaged object.children nodes)
    (hfull : ∀ name ∈ ["subsheet", "stage"], ∀ e ∈ object.childrenNamed name, e.children ≠ []) :
    Reordered object { object with children := nodes } := by
  have hpages : object.childrenNamed "subsheet" =
      Element.childrenNamed { object with children := nodes } "subsheet" := by
    rw [childrenNamed_eq, childrenNamed_eq, h.filter_eq fun node hnode => ?_]
    rw [beq_iff_eq.mp hnode]
    rfl
  have hstages : (object.childrenNamed "stage").Perm
      (Element.childrenNamed { object with children := nodes } "stage") := by
    rw [childrenNamed_eq, childrenNamed_eq]
    exact h.stages.filterMap Node.element?
  have hpage := hfull "subsheet" (by simp)
  have hstage := hfull "stage" (by simp)
  refine ⟨?_, ?_, ?_⟩
  · rw [map_settled_placedChildren hpage, map_settled_placedChildren (hpages ▸ hpage), hpages]
  · unfold stages
    rw [map_settled_placedChildren hstage,
      map_settled_placedChildren fun e he => hstage e (hstages.mem_iff.mpr he)]
    exact hstages.map alone
  · unfold Element.descendants
    rw [Node.elementsOf_eq_flatMap, Node.elementsOf_eq_flatMap]
    exact h.perm.flatMap_right Node.elements

/-! ## Findings in another order -/

/-- The same findings in another order. -/
structure Findings.Shuffled (a b : Findings) : Prop where
  errors : a.errors.Perm b.errors
  warnings : a.warnings.Perm b.warnings

/-- The same findings in another order, and the same ruling. -/
structure Outcome.Shuffled (a b : Outcome) : Prop where
  findings : a.findings.Shuffled b.findings
  ruling : a.ruling = b.ruling

theorem Findings.Shuffled.refl (a : Findings) : a.Shuffled a :=
  ⟨.refl _, .refl _⟩

theorem Findings.Shuffled.append {a b c d : Findings} (h : a.Shuffled b) (h' : c.Shuffled d) :
    (a ++ c).Shuffled (b ++ d) :=
  ⟨h.errors.append h'.errors, h.warnings.append h'.warnings⟩

theorem Findings.shuffled_join {parts others : List Findings} (h : parts.Perm others) :
    (join parts).Shuffled (join others) :=
  ⟨h.flatMap_right _, h.flatMap_right _⟩

theorem Outcome.Shuffled.refl (o : Outcome) : o.Shuffled o :=
  ⟨.refl _, rfl⟩

theorem Outcome.Shuffled.found {a b : Findings} (h : a.Shuffled b) :
    (Outcome.found a).Shuffled (.found b) :=
  ⟨h, rfl⟩

/-- Reviews of the same items in another order agree but for the order of the findings. -/
theorem Agree.review {α γ : Type} {k : α → γ} {as bs : List α}
    {f g : α → Except Fault Findings} (hperm : (as.map k).Perm (bs.map k))
    (h : ∀ a b, k a = k b → Agree Eq (f a) (g b)) :
    Agree Findings.Shuffled (review as f) (review bs g) :=
  .bind (.mapM hperm h) fun _ _ hparts => .pure (Findings.shuffled_join hparts)

/-- A grade does not depend on the order of the findings. -/
theorem Sheet.agree_evaluate_record (s : Sheet) {o o' : Outcome} (h : o.Shuffled o') :
    Agree (fun t t' => t.findings.Shuffled t'.findings ∧ t.grade = t'.grade)
      (s.record o).evaluate (s.record o').evaluate := by
  have hfindings := (Findings.Shuffled.refl s.findings).append h.findings
  obtain ⟨findings, ruling⟩ := o
  obtain ⟨others, _⟩ := o'
  obtain rfl := h.ruling
  cases ruling with
  | none =>
    unfold Sheet.record Sheet.evaluate Sheet.add
    rw [hfindings.errors.length_eq, hfindings.warnings.length_eq]
    exact .after fun grade => .pure ⟨hfindings, rfl⟩
  | some ruling => exact .pure ⟨hfindings, rfl⟩

/-! ## Ids in another order -/

theorem shuffled_mixedFindings (pages : PageIndex) (what : String)
    {ids others : List (Option String)} (hids : ids.Perm others) :
    (mixedFindings pages what ids).Shuffled (mixedFindings pages what others) := by
  have hsorted : ((ids.map pages.nameOf).mergeSort locationLe).Perm
      ((others.map pages.nameOf).mergeSort locationLe) :=
    (List.mergeSort_perm _ _).trans ((hids.map _).trans (List.mergeSort_perm _ _).symm)
  exact ⟨hsorted.map _, .refl _⟩

theorem shuffled_judgeMixed (pages : PageIndex)
    {reads writes navigates reads' writes' navigates' : List (Option String)}
    (hreads : reads.Perm reads') (hwrites : writes.Perm writes')
    (hnavigates : navigates.Perm navigates') :
    (judgeMixed pages (.apart reads writes navigates)).Shuffled
      (judgeMixed pages (.apart reads' writes' navigates')) := by
  simp only [judgeMixed, MixedPages.apart, hreads.contains_eq, hwrites.contains_eq,
    hnavigates.contains_eq]
  have hread := perm_eraseDups hreads
  have hnavigate := perm_eraseDups hnavigates
  refine .append (.append (.append ?_ ?_) ?_) ?_
  · exact shuffled_mixedFindings pages _ (hread.filter _)
  · exact shuffled_mixedFindings pages _ (hread.filter _)
  · exact shuffled_mixedFindings pages _ (hnavigate.filter _)
  · exact shuffled_mixedFindings pages _ (hread.filter _)

theorem pagesIn_perm {roles others : List (FocusRole × Option String)} (hroles : roles.Perm others)
    (role : FocusRole) : (pagesIn roles role).Perm (pagesIn others role) :=
  perm_eraseDups ((hroles.filter _).map _)

theorem shuffled_judgeFocus (pages : PageIndex) {roles others : List (FocusRole × Option String)}
    (hroles : roles.Perm others) :
    (judgeFocus pages roles).Shuffled (judgeFocus pages others) := by
  have hunactivated : ∀ role,
      ((pagesIn roles role).filter fun id => !(pagesIn others .activates).contains id).Perm
        ((pagesIn others role).filter fun id => !(pagesIn others .activates).contains id) :=
    fun role => (pagesIn_perm hroles role).filter _
  have hnavigated := hunactivated .navigates
  have hfocused := hunactivated .focuses
  simp only [judgeFocus, (pagesIn_perm hroles .activates).contains_eq, hfocused.contains_eq]
  refine .append (.append ⟨.refl _, ?_⟩ ⟨?_, .refl _⟩) ⟨?_, .refl _⟩
  · refine .map _ ((hfocused.filter _).trans (.of_eq (List.filter_congr fun id _ => ?_)))
    exact hnavigated.contains_eq
  · exact (hnavigated.filter _).map _
  · exact (hunactivated .reads).map _

namespace Reordered

variable {p q : Placed} (h : Reordered p q)

include h

/-! ## Pages and stages -/

theorem pageIndex_eq : PageIndex.of p = PageIndex.of q :=
  pageIndex_eq_of_settled h.pages

theorem pageOf_eq : pageOf p = pageOf q :=
  pageOf_eq_of_pageIndex h.pageIndex_eq

theorem stagesOf_perm (type : String) :
    ((stagesOf p type).map settled).Perm ((stagesOf q type).map settled) := by
  have hfilter := h.stages.filter fun stage => stage.attr? "type" == some type
  rw [List.filter_map, List.filter_map] at hfilter
  exact hfilter

theorem isEmpty_stagesOf (type : String) :
    (stagesOf p type).isEmpty = (stagesOf q type).isEmpty := by
  rw [← List.isEmpty_map (f := settled), (h.stagesOf_perm type).isEmpty_eq, List.isEmpty_map]

theorem childrenNamed_perm : (p.childrenNamed "stage").Perm (q.childrenNamed "stage") := by
  have hmap := h.stages.map toElement
  rw [List.map_map, List.map_map] at hmap
  rw [← map_toElement_placedChildren, ← map_toElement_placedChildren]
  exact hmap

theorem allStagesOf_perm (type : String) : (allStagesOf p type).Perm (allStagesOf q type) :=
  (h.descendants.filter _).filter _

/-- Work on the stages of a type as elements has the same results but for their order. -/
theorem mapM_stages {β : Type} (type : String) (f : Element → Except Fault β) :
    Agree List.Perm ((stagesOf p type).mapM fun stage => f stage.toElement)
      ((stagesOf q type).mapM fun stage => f stage.toElement) := by
  refine .mapM (h.stagesOf_perm type) fun s t hst => ?_
  rw [toElement_eq_of_settled hst]
  exact .rfl

theorem review_stages (type : String) (f : Element → Except Fault Findings) :
    Agree Findings.Shuffled (review (stagesOf p type) fun stage => f stage.toElement)
      (review (stagesOf q type) fun stage => f stage.toElement) :=
  .bind (h.mapM_stages type f) fun _ _ hparts => .pure (Findings.shuffled_join hparts)

/-! ## Checks of the stages -/

theorem actionSize (facts : Facts) :
    Agree Outcome.Shuffled (checkActionSize p facts) (checkActionSize q facts) := by
  have hcount : ∀ id, (p.childrenNamed "stage").countP (addsTo id) =
      (q.childrenNamed "stage").countP (addsTo id) :=
    fun id => h.childrenNamed_perm.countP_eq (addsTo id)
  simp only [checkActionSize, h.pageIndex_eq, hcount]
  exact .after fun pages => .pure (.refl _)

theorem notArbitrary (facts : Facts) :
    Agree Outcome.Shuffled (checkNotArbitrary p facts) (checkNotArbitrary q facts) := by
  have hjudge : judgeArbitrary p = judgeArbitrary q := by
    funext wait
    simp only [judgeArbitrary, h.pageOf_eq]
  simp only [checkNotArbitrary, h.isEmpty_stagesOf, hjudge]
  refine .after fun surface => .ite (fun _ => .pure (.refl _)) fun _ => ?_
  refine .after fun kind => .ite (fun _ => .pure (.refl _)) fun _ => ?_
  refine .ite (fun _ => .pure (.refl _)) fun _ => ?_
  exact .bind (h.review_stages "WaitStart" (judgeArbitrary q)) fun _ _ hfound =>
    .pure (.found hfound)

theorem images (facts : Facts) :
    Agree Outcome.Shuffled (checkImages p facts) (checkImages q facts) := by
  have hjudge : judgeItem p = judgeItem q := by
    funext item
    simp only [judgeItem, judgeImage, largeImage, h.pageOf_eq]
  simp only [checkImages, hjudge]
  refine .bind (h.mapM_stages "Data" (judgeItem q)) fun found others hperm => .pure ?_
  have himages := hperm.filterMap id
  exact ⟨Findings.shuffled_join himages, by rw [himages.isEmpty_eq]⟩

theorem globalTimeout (facts : Facts) :
    Agree Outcome.Shuffled (checkGlobalTimeout p facts) (checkGlobalTimeout q facts) := by
  have hitems : (globalItems p).Perm (globalItems q) :=
    ((h.allStagesOf_perm "Data").filter _).map _
  have hjudge : ∀ wait,
      Agree Eq (judgeTimeout p (globalItems p) wait) (judgeTimeout q (globalItems q) wait) := by
    intro wait
    unfold judgeTimeout
    rw [h.pageOf_eq]
    refine .after fun timeout => .bind (.anyM_of_perm hitems _) fun found found' hfound => ?_
    rw [hfound]
    exact .rfl
  simp only [checkGlobalTimeout, hitems.isEmpty_eq]
  refine .ite (fun _ => .pure (.refl _)) fun _ => ?_
  refine .bind (.review ((h.allStagesOf_perm "WaitStart").map id) fun wait wait' hwait => ?_)
    fun _ _ hfound => .pure (.found hfound)
  rw [show wait = wait' from hwait]
  exact hjudge wait'

/-! ## Pages that recover -/

theorem recover (facts : Facts) :
    Agree Outcome.Shuffled (checkRecover p facts) (checkRecover q facts) := by
  have hon : recoveryOn p = recoveryOn q := by
    funext kind id
    simp only [recoveryOn, h.pageIndex_eq]
  refine .after fun kind => .bind (R := Findings.Shuffled) (fun findings others hp hq => ?_)
    fun _ _ hfound => .pure ⟨hfound, rfl⟩
  obtain ⟨ids, hids, hreview⟩ := judgeRecoveries_yields p kind _ [] findings hp
  obtain ⟨ids', hids', hreview'⟩ := judgeRecoveries_yields q kind _ [] others hq
  have hperm : ids.Perm ids' := h.mapM_stages "Recover" pageId ids ids' hids hids'
  rw [hon] at hreview
  refine Agree.review ((perm_eraseDups (hperm.filter _)).map id) (fun a b hab => ?_) findings others
    hreview hreview'
  rw [show a = b from hab]
  exact .rfl

/-! ## Actions that begin with an attach -/

theorem attachesAt_agree (id : Option String) :
    Agree Eq (attachesAt (pageReferences p) id) (attachesAt (pageReferences q) id) :=
  .anyM_of_perm ((h.descendants.filter _).filter _) _

theorem beginsWithAttach_agree {page page' : Placed} (hpage : page.settled = page'.settled) :
    Agree Eq (beginsWithAttach (stagesOf p "Start") (pageReferences p) page)
      (beginsWithAttach (stagesOf q "Start") (pageReferences q) page') := by
  rw [toElement_eq_of_settled hpage]
  refine .anyM (h.stagesOf_perm "Start") fun start start' hstart => ?_
  rw [next?_eq_of_settled hstart, toElement_eq_of_settled hstart]
  refine .after fun next => .ite (fun _ => .after fun link => ?_) fun _ => .rfl
  exact h.attachesAt_agree link.soleText?

theorem useAttach (facts : Facts) :
    Agree Outcome.Shuffled (checkUseAttach p facts) (checkUseAttach q facts) := by
  refine .after fun kind => .ite (fun _ => .pure (.refl _)) fun _ => ?_
  refine .bind (.review (.of_eq h.pages) fun page page' hpage => ?_)
    fun _ _ hfound => .pure (.found hfound)
  rw [pageName_eq_of_settled hpage]
  refine .after fun name => .after fun judged => .ite (fun _ => ?_) fun _ => .rfl
  refine .bind (h.beginsWithAttach_agree hpage) fun begins begins' hbegins => ?_
  rw [hbegins]
  exact .rfl

/-! ## Pages by what their stages do -/

theorem pagesWith_agree (interaction : Interaction) :
    Agree List.Perm (pagesWith p interaction) (pagesWith q interaction) :=
  .bind (h.mapM_stages interaction.stageType (countedPage? interaction)) fun _ _ hperm =>
    .pure (hperm.filterMap id)

theorem reuse (facts : Facts) :
    Agree Outcome.Shuffled (checkReuse p facts) (checkReuse q facts) := by
  simp only [checkReuse, h.pageIndex_eq]
  refine .after fun kind => .ite (fun _ => .pure (.refl _)) fun _ => .after fun pages => ?_
  refine .bind (h.pagesWith_agree .read) fun reads reads' hreads => ?_
  refine .bind (h.pagesWith_agree .write) fun writes writes' hwrites => ?_
  refine .bind (h.pagesWith_agree .navigate) fun navigates navigates' hnavigates => ?_
  rw [MixedPages.separate_of, MixedPages.separate_of]
  exact .pure (.found (shuffled_judgeMixed pages hreads hwrites hnavigates))

theorem focus (facts : Facts) :
    Agree Outcome.Shuffled (checkFocus p facts) (checkFocus q facts) := by
  simp only [checkFocus, h.pageIndex_eq]
  refine .after fun pages => ?_
  refine .bind (h.mapM_stages "Navigate" (stageRoles navigateRole))
    fun navigations navigations' hnavigations => ?_
  refine .bind (h.mapM_stages "Read" (stageRoles readRole)) fun reads reads' hreads => ?_
  have hroles := hnavigations.flatten.append hreads.flatten
  exact .pure ⟨shuffled_judgeFocus pages hroles, by rw [hroles.any_eq]⟩

end Reordered

/-! ## The order of the stages does not matter -/

/-- If the stages of an object change places among themselves, and no stage or page is empty, the
eight considerations find the same and come to the same grade, unless one of the two checks ends in
a fault. -/
theorem grade_of_restaged {c : Consideration} (hc : c ∈ Consideration.orderless) {object : Placed}
    (hfull : ∀ name ∈ ["subsheet", "stage"], ∀ e ∈ object.childrenNamed name, e.children ≠ [])
    {nodes : List Node} (hnodes : Restaged object.children nodes) {isDate : DateReader}
    {facts : Facts} {before after : Sheet} (hbefore : c.assess isDate object facts = .ok before)
    (hafter : c.assess isDate { object with children := nodes } facts = .ok after) :
    before.findings.errors.Perm after.findings.errors ∧
      before.findings.warnings.Perm after.findings.warnings ∧ before.grade = after.grade := by
  have h := reordered_of_restaged hnodes hfull
  suffices hcheck : Agree Outcome.Shuffled (c.check isDate object facts)
      (c.check isDate { object with children := nodes } facts) by
    have hassess := hcheck.bind fun _ _ houtcome => c.sheet.agree_evaluate_record houtcome
    obtain ⟨hfindings, hgrade⟩ := hassess before after hbefore hafter
    exact ⟨hfindings.errors, hfindings.warnings, hgrade⟩
  simp only [Consideration.orderless, List.mem_cons, List.not_mem_nil, or_false] at hc
  rcases hc with rfl | rfl | rfl | rfl | rfl | rfl | rfl | rfl
  · exact h.reuse facts
  · exact h.focus facts
  · exact h.actionSize facts
  · exact h.recover facts
  · exact h.notArbitrary facts
  · exact h.globalTimeout facts
  · exact h.useAttach facts
  · exact h.images facts

/-- An object with three pages, each of which recovers; after each page stands the stage of one. -/
def recoveringObject (first second third : String) : Placed :=
  let page (id name : String) : Node :=
    .element "subsheet" [("subsheetid", id)] [.element "name" [] [.leaf .text name]]
  let recover (id : String) : Node :=
    .element "stage" [("type", "Recover")] [.element "subsheetid" [] [.leaf .text id]]
  .alone ⟨"process", [], [page "1" "Open", recover first, page "2" "Type", recover second,
    page "3" "Send", recover third]⟩

/-- Three pages recover, and are found to in the order of the stages, but the grade is the same. -/
theorem recoveries_change_places :
    ∃ before after,
      Consideration.recover.assess Calendar.recognise (recoveringObject "1" "2" "3")
        ⟨.ok .base, .ok false, .ok false⟩ = .ok before ∧
      Consideration.recover.assess Calendar.recognise (recoveringObject "3" "2" "1")
        ⟨.ok .base, .ok false, .ok false⟩ = .ok after ∧
      before.findings.errors ≠ after.findings.errors ∧
      before.findings.errors.Perm after.findings.errors ∧
      before.findings.warnings.Perm after.findings.warnings ∧ before.grade = after.grade := by
  obtain ⟨before, after, hbefore, hafter, hne⟩ : ∃ before after,
      Consideration.recover.assess Calendar.recognise (recoveringObject "1" "2" "3")
        ⟨.ok .base, .ok false, .ok false⟩ = .ok before ∧
      Consideration.recover.assess Calendar.recognise (recoveringObject "3" "2" "1")
        ⟨.ok .base, .ok false, .ok false⟩ = .ok after ∧
      before.findings.errors ≠ after.findings.errors :=
    ⟨_, _, rfl, rfl, by decide⟩
  have hfull : ∀ name ∈ ["subsheet", "stage"],
      ∀ e ∈ (recoveringObject "1" "2" "3").childrenNamed name, e.children ≠ [] := by
    intro name hname e he hnone
    have hempty : ((recoveringObject "1" "2" "3").childrenNamed name).all
        (!·.children.isEmpty) = true := by
      rcases List.mem_pair.mp hname with rfl | rfl <;> rfl
    have hchildren := List.all_eq_true.mp hempty e he
    rw [hnone] at hchildren
    cases hchildren
  have hnodes : Restaged (recoveringObject "1" "2" "3").children
      (recoveringObject "3" "2" "1").children :=
    ⟨.cons (.inl rfl) (.cons (.inr ⟨rfl, rfl⟩) (.cons (.inl rfl) (.cons (.inr ⟨rfl, rfl⟩)
      (.cons (.inl rfl) (.cons (.inr ⟨rfl, rfl⟩) .nil))))), (List.reverse_perm _).symm⟩
  exact ⟨before, after, hbefore, hafter, hne,
    grade_of_restaged (by decide) hfull hnodes hbefore hafter⟩

end ReleaseReview
