import ReleaseReview.Proofs.Place
import ReleaseReview.Proofs.Success
import ReleaseReview.Report.ObjectPage

/-!
# Objects that checks cannot tell apart

A check looks at an object, at what stands next to its pages, and at what stands next to its starts
and to its calls of Actions. Two objects are `Alike` if they are the same in all of these.
`Alike.check` is the frame of the checks: they come to the same for objects that are alike. An
object that does not end in an empty page, start or call (`isOpen`) is alike to itself wherever it
stands (`alike_of_not_isOpen`), so what follows it in a release cannot show in its page.
-/

namespace ReleaseReview

open Markup Placed

/-- Objects that only differ in what follows them, where nobody looks. -/
structure Alike (p q : Placed) : Prop where
  element : p.toElement = q.toElement
  pages : (p.placedChildren "subsheet").map settled = (q.placedChildren "subsheet").map settled
  allPages : (p.placedWithin "subsheet").map settled = (q.placedWithin "subsheet").map settled
  starts : (stagesOf p "Start").map settled = (stagesOf q "Start").map settled
  calls : (stagesOf p "Action").map settled = (stagesOf q "Action").map settled

/-! ## Pages and stages -/

theorem pageName_eq_of_settled {s t : Placed} (h : s.settled = t.settled) :
    pageName s = pageName t := by
  unfold pageName
  rw [next?_eq_of_settled h]

/-- The index of the pages only depends on the pages and what is next to them. -/
theorem pageIndex_eq_of_settled {p q : Placed}
    (h : (p.placedChildren "subsheet").map settled = (q.placedChildren "subsheet").map settled) :
    PageIndex.of p = PageIndex.of q := by
  unfold PageIndex.of
  refine mapM_eq_of_map_eq (fun s t hst => ?_) h
  rw [toElement_eq_of_settled hst, pageName_eq_of_settled hst]

theorem pageOf_eq_of_pageIndex {p q : Placed} (h : PageIndex.of p = PageIndex.of q) :
    pageOf p = pageOf q := by
  funext stage
  unfold pageOf
  rw [h]

/-- The stages of a type are those among the object's children, in their order. -/
theorem map_toElement_stagesOf (p : Placed) (type : String) :
    (stagesOf p type).map toElement =
      (p.childrenNamed "stage").filter fun stage => stage.attr? "type" == some type := by
  unfold stagesOf stages
  rw [← map_toElement_placedChildren, List.filter_map]
  rfl

namespace Alike

variable {p q : Placed} (h : Alike p q)

include h

theorem pageIndex_eq : PageIndex.of p = PageIndex.of q :=
  pageIndex_eq_of_settled h.pages

theorem actionNames_eq : actionNames p = actionNames q := by
  unfold actionNames
  rw [mapM_eq_of_map_eq (fun s t hst => pageName_eq_of_settled hst) h.allPages]

theorem pageOf_eq : pageOf p = pageOf q :=
  pageOf_eq_of_pageIndex h.pageIndex_eq

theorem stages_eq (type : String) :
    (stagesOf p type).map toElement = (stagesOf q type).map toElement := by
  rw [map_toElement_stagesOf, map_toElement_stagesOf, h.element]

/-- Work on the stages as elements comes to the same. -/
theorem mapM_stages {β : Type} (type : String) (f : Element → Except Fault β) :
    (stagesOf p type).mapM (fun stage => f stage.toElement) =
      (stagesOf q type).mapM fun stage => f stage.toElement :=
  mapM_eq_of_map_eq (fun _ _ hst => congrArg f hst) (h.stages_eq type)

theorem review_stages (type : String) (f : Element → Except Fault Findings) :
    review (stagesOf p type) (fun stage => f stage.toElement) =
      review (stagesOf q type) fun stage => f stage.toElement := by
  unfold review
  rw [h.mapM_stages type f]

theorem isEmpty_stages (type : String) :
    (stagesOf p type).isEmpty = (stagesOf q type).isEmpty := by
  rw [← List.isEmpty_map (f := toElement), h.stages_eq, List.isEmpty_map]

theorem length_stages (type : String) : (stagesOf p type).length = (stagesOf q type).length := by
  rw [← List.length_map (f := toElement), h.stages_eq, List.length_map]

/-! ## Checks of the model -/

theorem elementNames (facts : Facts) : checkElementNames p facts = checkElementNames q facts := by
  simp only [checkElementNames, h.element]

theorem treeShape (facts : Facts) : checkTreeShape p facts = checkTreeShape q facts := by
  simp only [checkTreeShape, h.element]

theorem exposure (facts : Facts) : checkExposure p facts = checkExposure q facts := by
  simp only [checkExposure, h.element]

/-- A check of the application model only looks at the element. -/
theorem model (check : Element → Except Fault Outcome) (facts : Facts) :
    checkModel check p facts = checkModel check q facts := by
  simp only [checkModel, h.element]

theorem environmentData (isDate : DateReader) (facts : Facts) :
    checkEnvironmentData isDate p facts = checkEnvironmentData isDate q facts := by
  simp only [checkEnvironmentData, environmentRemarks, h.element]

/-! ## Checks of the pages -/

theorem hasAttach (facts : Facts) : checkHasAttach p facts = checkHasAttach q facts := by
  have hany : ReleaseReview.hasAttach p = ReleaseReview.hasAttach q := by
    unfold ReleaseReview.hasAttach
    refine anyM_eq_of_map_eq (fun s t hst => ?_) h.pages
    rw [pageName_eq_of_settled hst]
  simp only [checkHasAttach, hany]

/-- The Actions that are not exempt are judged alike by a judge that looks no further. -/
theorem reviewActions_eq {judge : Placed → Option String → Except Fault Findings}
    (hj : ∀ s t name, s.settled = t.settled → judge s name = judge t name) :
    reviewActions p judge = reviewActions q judge := by
  unfold reviewActions review pagesOf
  rw [mapM_eq_of_map_eq (fun s t hst => ?_) h.pages]
  rw [pageName_eq_of_settled hst]
  exact bind_congr fun name => by rw [hj s t name hst]

theorem useAttach (facts : Facts) : checkUseAttach p facts = checkUseAttach q facts := by
  have hbegins : ∀ references page, beginsWithAttach (stagesOf p "Start") references page =
      beginsWithAttach (stagesOf q "Start") references page := by
    intro references page
    unfold beginsWithAttach
    refine anyM_eq_of_map_eq (fun s t hst => ?_) h.starts
    rw [next?_eq_of_settled hst, toElement_eq_of_settled hst]
  have hjudge : judgeAttach p = judgeAttach q := by
    funext page name
    simp only [judgeAttach, h.element, hbegins]
  simp only [checkUseAttach, hjudge]
  rw [h.reviewActions_eq fun s t name hst => by
    simp only [judgeAttach, toElement_eq_of_settled hst]]

theorem startWait (facts : Facts) : checkStartWait p facts = checkStartWait q facts := by
  have hjudge : judgeStarts p = judgeStarts q := by
    funext page name
    have hkept := congrArg (List.filter (isOnPage · (page.attr? "subsheetid")))
      (h.stages_eq "Start")
    simp only [List.filter_map, Function.comp_def] at hkept
    simp only [judgeStarts, startsOn, h.element]
    unfold review
    rw [mapM_eq_of_map_eq (fun s t hst => by rw [hst]) hkept]
  simp only [checkStartWait, hjudge]
  rw [h.reviewActions_eq fun s t name hst => by
    simp only [judgeStarts, toElement_eq_of_settled hst]]

theorem exceptionDetails (facts : Facts) :
    checkExceptionDetails p facts = checkExceptionDetails q facts := by
  have hnamed : ∀ id, pageNamed p id = pageNamed q id := by
    intro id
    unfold pageNamed
    rcases find?_of_map_eq (k := fun page : Placed => meets id (page.attr? "subsheetid"))
      (fun s t hst => by rw [toElement_eq_of_settled hst]) h.allPages with
      ⟨hp, hq⟩ | ⟨s, t, hp, hq, hst⟩
    · rw [hp, hq]
    · rw [hp, hq]
      exact pageName_eq_of_settled hst
  simp only [checkExceptionDetails, judgeDetail, h.element, hnamed]

theorem typeDetail (facts : Facts) : checkTypeDetail p facts = checkTypeDetail q facts := by
  simp only [checkTypeDetail, judgeTypeDetail, judgeBusinessException, judgeDetailLength, h.element,
    h.pageOf_eq]

theorem exceptionType (facts : Facts) :
    checkExceptionType p facts = checkExceptionType q facts := by
  simp only [checkExceptionType, judgeExceptionType, h.element, h.pageOf_eq]

theorem actionSize (facts : Facts) : checkActionSize p facts = checkActionSize q facts := by
  simp only [checkActionSize, h.element, h.pageIndex_eq]

theorem logging (facts : Facts) : checkLogging p facts = checkLogging q facts := by
  simp only [checkLogging, h.pageIndex_eq]

theorem globalTimeout (facts : Facts) :
    checkGlobalTimeout p facts = checkGlobalTimeout q facts := by
  have hjudge : ∀ items, judgeTimeout p items = judgeTimeout q items := by
    intro items
    funext wait
    simp only [judgeTimeout, h.pageOf_eq]
  simp only [checkGlobalTimeout, h.element, hjudge]

/-! ## Checks of the stages -/

theorem documentation (facts : Facts) :
    checkDocumentation p facts = checkDocumentation q facts := by
  have hparameters : ∀ pages list heading type,
      judgeParameters pages list heading (stagesOf p type) =
        judgeParameters pages list heading (stagesOf q type) := fun pages list heading type =>
    h.review_stages type fun stage =>
      review (parametersOf stage list) (judgeParameter pages heading stage)
  have hconditions : ∀ pages,
      review (stagesOf p "Start") (fun start => judgeConditions facts pages start.toElement) =
        review (stagesOf q "Start") fun start => judgeConditions facts pages start.toElement :=
    fun pages => h.review_stages "Start" (judgeConditions facts pages)
  simp only [checkDocumentation, judgeNarratives, h.element, h.pageIndex_eq, hparameters,
    hconditions]

theorem reuse (facts : Facts) : checkReuse p facts = checkReuse q facts := by
  have hwith : ∀ interaction, pagesWith p interaction = pagesWith q interaction := by
    intro interaction
    unfold pagesWith
    rw [h.mapM_stages _ fun stage => countedPage? interaction stage]
  simp only [checkReuse, h.pageIndex_eq, hwith]

theorem focus (facts : Facts) : checkFocus p facts = checkFocus q facts := by
  simp only [checkFocus, h.pageIndex_eq,
    h.mapM_stages "Navigate" fun stage => stageRoles navigateRole stage,
    h.mapM_stages "Read" fun stage => stageRoles readRole stage]

theorem images (facts : Facts) : checkImages p facts = checkImages q facts := by
  have hitem : ∀ item, judgeItem p item = judgeItem q item := by
    intro item
    simp only [judgeItem, judgeImage, largeImage, h.pageOf_eq]
  simp only [checkImages, hitem, h.mapM_stages "Data" fun item => judgeItem q item]

theorem navigate (facts : Facts) : checkNavigate p facts = checkNavigate q facts := by
  have hjudge : ∀ pages navigation,
      judgeNavigation p pages navigation = judgeNavigation q pages navigation := by
    intro pages navigation
    simp only [judgeNavigation, anchorCount, h.element, h.length_stages]
  have hreview : ∀ pages,
      review (stagesOf p "Navigate") (fun stage => judgeNavigation q pages stage.toElement) =
        review (stagesOf q "Navigate") fun stage => judgeNavigation q pages stage.toElement :=
    fun pages => h.review_stages "Navigate" (judgeNavigation q pages)
  simp only [checkNavigate, h.isEmpty_stages, h.pageIndex_eq, hjudge, hreview]

theorem waitTimeout (facts : Facts) : checkWaitTimeout p facts = checkWaitTimeout q facts := by
  have hids : TimeoutIds.of p = TimeoutIds.of q := by
    have hattr : ∀ type, (stagesOf p type).map (fun stage => stage.attr? "stageid") =
        (stagesOf q type).map fun stage => stage.attr? "stageid" := by
      intro type
      have hmap := congrArg (List.map fun stage => stage.attr? "stageid") (h.stages_eq type)
      simpa only [List.map_map, Function.comp_def] using hmap
    simp only [TimeoutIds.of, hattr]
  have hjudge : ∀ ids waitEnd, judgeWaitEnd p ids waitEnd = judgeWaitEnd q ids waitEnd := by
    intro ids waitEnd
    simp only [judgeWaitEnd, timeoutFuel, anchorCount, h.element, h.length_stages, h.pageOf_eq]
  simp only [checkWaitTimeout, hids, hjudge,
    h.review_stages "WaitEnd" fun waitEnd => judgeWaitEnd q (TimeoutIds.of q) waitEnd]

theorem notArbitrary (facts : Facts) :
    checkNotArbitrary p facts = checkNotArbitrary q facts := by
  have hjudge : ∀ wait, judgeArbitrary p wait = judgeArbitrary q wait := by
    intro wait
    simp only [judgeArbitrary, h.pageOf_eq]
  simp only [checkNotArbitrary, h.isEmpty_stages, hjudge,
    h.review_stages "WaitStart" fun wait => judgeArbitrary q wait]

theorem actionCalled (facts : Facts) :
    checkActionCalled p facts = checkActionCalled q facts := by
  have hcalls : ∀ kind pages, (stagesOf p "Action").mapM (judgeCallOnPage kind pages) =
      (stagesOf q "Action").mapM (judgeCallOnPage kind pages) := by
    intro kind pages
    refine mapM_eq_of_map_eq (fun s t hst => ?_) h.calls
    simp only [judgeCallOnPage, pageRightAfter?, next?_eq_of_settled hst,
      toElement_eq_of_settled hst]
  simp only [checkActionCalled, h.pageIndex_eq, hcalls]

theorem judgeRecoveries_eq (kind : Kind) :
    ∀ (seen : List (Option String)) {as bs : List Placed},
      as.map toElement = bs.map toElement →
      judgeRecoveries p kind seen as = judgeRecoveries q kind seen bs
  | _, [], [], _ => rfl
  | seen, a :: as, b :: bs, hab => by
    rw [List.map_cons, List.map_cons, List.cons.injEq] at hab
    unfold judgeRecoveries
    rw [h.pageIndex_eq, hab.1]
    refine bind_congr fun pages => bind_congr fun id => ?_
    split
    · exact judgeRecoveries_eq kind seen hab.2
    · rw [judgeRecoveries_eq kind (seen ++ [id]) hab.2]

theorem recover (facts : Facts) : checkRecover p facts = checkRecover q facts := by
  simp only [checkRecover, h.judgeRecoveries_eq _ _ (h.stages_eq "Recover")]

theorem looksAtFlags_eq (expression : Option String) :
    looksAtFlags p expression = looksAtFlags q expression := by
  have hcompares : ∀ text, comparesFlag p text = comparesFlag q text := by
    intro text
    unfold comparesFlag dataItem?
    rcases find?_of_map_eq
      (k := fun item : Placed => meets (some (lastItem text)) (item.attr? "name"))
      (fun s t hst => by rw [hst]) (h.stages_eq "Data") with ⟨hp, hq⟩ | ⟨s, t, hp, hq, hst⟩
    · rw [hp, hq]
    · rw [hp, hq]
      simp only [hst]
  unfold looksAtFlags
  simp only [hcompares]

theorem judgeBranches_eq (pages : PageIndex) (choice : Element) :
    judgeBranches p pages choice = judgeBranches q pages choice := by
  funext branches
  induction branches with
  | nil => rfl
  | cons branch branches ih => simp only [judgeBranches, h.looksAtFlags_eq, ih]

/-- A review that needs the pages comes to the same if its judges do. -/
theorem reviewOnPages_eq (type : String) (judge : PageIndex → Element → Except Fault Findings) :
    reviewOnPages p (stagesOf p type) judge = reviewOnPages q (stagesOf q type) judge := by
  unfold reviewOnPages
  rw [h.isEmpty_stages, h.pageIndex_eq]
  split
  · rfl
  · exact bind_congr fun pages => h.review_stages type (judge pages)

theorem businessLogic (facts : Facts) :
    checkBusinessLogic p facts = checkBusinessLogic q facts := by
  have hchoice : judgeChoice p = judgeChoice q := by
    funext pages choice
    simp only [judgeChoice, h.judgeBranches_eq]
  have hdecision : judgeDecision p = judgeDecision q := by
    funext pages decision
    simp only [judgeDecision, h.looksAtFlags_eq]
  have hbaseChoice : judgeBaseChoice p = judgeBaseChoice q := by
    funext choice
    simp only [judgeBaseChoice, h.pageOf_eq]
  have hbaseDecision : judgeBaseDecision p = judgeBaseDecision q := by
    funext decision
    simp only [judgeBaseDecision, h.pageOf_eq]
  simp only [checkBusinessLogic, hchoice, hdecision, hbaseChoice, hbaseDecision,
    h.reviewOnPages_eq, h.review_stages "ChoiceStart" (judgeBaseChoice q),
    h.review_stages "Decision" (judgeBaseDecision q)]

/-! ## The frame of the checks -/

/-- A check comes to the same for objects that are alike. -/
theorem check (isDate : DateReader) (c : Consideration) (facts : Facts) :
    c.check isDate p facts = c.check isDate q facts := by
  cases c with
  | startWait => exact h.startWait facts
  | documentation => exact h.documentation facts
  | reuse => exact h.reuse facts
  | useAttach => exact h.useAttach facts
  | elementNames => exact h.elementNames facts
  | treeShape => exact h.treeShape facts
  | typeDetail => exact h.typeDetail facts
  | exceptionDetails => exact h.exceptionDetails facts
  | exceptionType => exact h.exceptionType facts
  | focus => exact h.focus facts
  | globalTimeout => exact h.globalTimeout facts
  | images => exact h.images facts
  | logging => exact h.logging facts
  | navigate => exact h.navigate facts
  | actionCalled => exact h.actionCalled facts
  | actionSize => exact h.actionSize facts
  | hasAttach => exact h.hasAttach facts
  | exposure => exact h.exposure facts
  | businessLogic => exact h.businessLogic facts
  | recover => exact h.recover facts
  | technology => exact h.model _ facts
  | customerData => exact h.model _ facts
  | environmentData => exact h.environmentData isDate facts
  | notArbitrary => exact h.notArbitrary facts
  | waitTimeout => exact h.waitTimeout facts

/-! ## Pages about objects -/

theorem readsImage_eq : readsImage p = readsImage q := by
  have hsteps := congrArg (List.flatMap (Element.childrenNamed · "step")) (h.stages_eq "Read")
  simp only [List.flatMap_map] at hsteps
  unfold readsImage readSteps
  rw [hsteps]

theorem classify_eq (name : String) : classify name p = classify name q := by
  simp only [classify, classifyModelled, h.element, h.readsImage_eq, h.length_stages]

theorem introduce_eq : introduce p = introduce q := by
  simp only [introduce, h.element, h.actionNames_eq, h.classify_eq]

theorem entriesFor_eq (isDate : DateReader) (configuration records : Json) (c : Consideration) :
    entriesFor isDate configuration p records c = entriesFor isDate configuration q records c := by
  simp only [entriesFor, sheetUnder, Consideration.assess, h.check]

/-- The page about an object is the same for objects that are alike. -/
theorem objectPage_eq (isDate : DateReader) (configuration : Json) (active : List Consideration) :
    objectPage isDate configuration active p = objectPage isDate configuration active q := by
  simp only [objectPage, objectEntries, h.introduce_eq, h.entriesFor_eq]

end Alike

/-! ## Ends of objects -/

/-- Does what follows the object show through its end? It does if the object ends in an empty page,
or in an empty stage that is asked for the node next to it. -/
def isOpen (object : Element) : Bool :=
  (object.toNode.last.element?).any (·.name == "subsheet") ||
    match object.children.getLast? with
    | some (.element name attributes []) =>
      name == "stage" && [some "Start", some "Action"].contains (attributes.lookup "type")
    | _ => false

/-- The stages of a type do not depend on what follows the object, unless it ends in an empty one.
-/
theorem settled_stagesOf {object : Element} {type : String}
    (h : ∀ attributes, object.children.getLast? = some (.element "stage" attributes []) →
      attributes.lookup "type" ≠ some type) (a b : Option Node) :
    (stagesOf ⟨object, a⟩ type).map settled = (stagesOf ⟨object, b⟩ type).map settled := by
  unfold stagesOf stages placedChildren
  rw [List.filter_filter, List.filter_filter]
  refine settled_placeEach
    (fun stage => stage.attr? "type" == some type && stage.name == "stage") a b object.children ?_
  intro name attributes hend
  by_cases hname : name = "stage"
  · subst hname
    simpa [Element.attr?] using h attributes hend
  · simp [hname]

/-- An object that is not open at its end is the same to the checks wherever it stands. -/
theorem alike_of_not_isOpen {object : Element} (h : isOpen object = false) (a b : Option Node) :
    Alike ⟨object, a⟩ ⟨object, b⟩ := by
  obtain ⟨hlast, hstage⟩ := Bool.or_eq_false_iff.mp h
  have hpage : ∀ e, (Node.lastOf object.toNode object.children).element? = some e →
      (e.name == "subsheet") = false := by
    intro e he
    have hobject : object.toNode.last.element? = some e := by
      unfold Element.toNode
      rw [Node.last]
      exact he
    simpa [hobject] using hlast
  have hend : ∀ type ∈ ["Start", "Action"], ∀ attributes,
      object.children.getLast? = some (.element "stage" attributes []) →
        attributes.lookup "type" ≠ some type := by
    intro type htype attributes hlast htypes
    rw [hlast] at hstage
    simp only [List.mem_cons, List.not_mem_nil, or_false] at htype
    rcases htype with rfl | rfl <;> simp [htypes] at hstage
  refine ⟨rfl, ?_, ?_, settled_stagesOf (hend "Start" (by simp)) a b,
    settled_stagesOf (hend "Action" (by simp)) a b⟩
  · refine settled_placeEach (·.name == "subsheet") a b object.children ?_
    intro name attributes hchild
    refine hpage ⟨name, attributes, []⟩ ?_
    rw [Node.lastOf_of_getLast? _ hchild, Node.last, Node.lastOf]
    rfl
  · exact settled_placeAllOf (·.name == "subsheet") a b object.children _ hpage

end ReleaseReview
