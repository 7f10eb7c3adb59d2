import ReleaseReview.Proofs.Attribution

/-!
# Stages on the initial page

A stage of the initial page holds no page id. Some checks look for the id all the same, and then end
in a fault. `FaultsIff` says of a piece of work when it does so, and is built up along the steps of
the work: a list of items ends in the fault if one of them does.

The check for recovery looks up the page of each stage that recovers, so one such stage on the
initial page is enough. The check for conditions only looks up the page of a wait without one.
`faults_on_initial_page` says that there is no other way to a fault, as long as every stage that is
looked at is on the initial page or on one of the object's own.
-/

namespace ReleaseReview

open Markup

/-! ## Work that ends in a fault -/

section

variable {α β : Type} {fault : Fault} {p q : Prop}

/-- The work ends in this fault if `p` holds, and in a result if not. -/
def FaultsIff (fault : Fault) (p : Prop) (x : Except Fault α) : Prop :=
  (p → x = .error fault) ∧ (¬p → ∃ a, x = .ok a)

namespace FaultsIff

theorem of_error {x : Except Fault α} (h : x = .error fault) (hp : p) : FaultsIff fault p x :=
  ⟨fun _ => h, fun hnot => absurd hp hnot⟩

theorem of_ok {x : Except Fault α} (h : ∃ a, x = .ok a) (hp : ¬p) : FaultsIff fault p x :=
  ⟨fun hp' => absurd hp' hp, fun _ => h⟩

theorem congr {x : Except Fault α} (h : FaultsIff fault p x) (hpq : p ↔ q) :
    FaultsIff fault q x :=
  propext hpq ▸ h

/-- A step that gives a result leaves it to the next one. -/
theorem bind_ok {x : Except Fault α} {f : α → Except Fault β} {a : α} (hx : x = .ok a)
    (h : FaultsIff fault p (f a)) : FaultsIff fault p (x >>= f) := by
  rw [hx, ok_bind]
  exact h

/-- What is made of the result does not matter. -/
theorem map {x : Except Fault α} (h : FaultsIff fault p x) (f : α → β) :
    FaultsIff fault p (x >>= fun a => pure (f a)) := by
  refine ⟨fun hp => ?_, fun hp => ?_⟩
  · rw [h.1 hp]
    rfl
  · obtain ⟨a, ha⟩ := h.2 hp
    exact ⟨f a, by rw [ha]; rfl⟩

/-- To go through a list ends in the fault if that happens at one of the items. -/
theorem mapM {f : α → Except Fault β} {p : α → Prop} {as : List α}
    (h : ∀ a ∈ as, FaultsIff fault (p a) (f a)) :
    FaultsIff fault (∃ a ∈ as, p a) (as.mapM f) := by
  induction as with
  | nil => exact .of_ok ⟨[], rfl⟩ (by simp)
  | cons a as ih =>
    rw [List.forall_mem_cons] at h
    rw [List.mapM_cons]
    by_cases hp : p a
    · refine .of_error ?_ ⟨a, List.mem_cons_self, hp⟩
      rw [h.1.1 hp]
      rfl
    · obtain ⟨b, hb⟩ := h.1.2 hp
      refine .bind_ok hb (.map (.congr (ih h.2) ?_) _)
      simp [hp]

theorem review {f : α → Except Fault Findings} {p : α → Prop} {as : List α}
    (h : ∀ a ∈ as, FaultsIff fault (p a) (f a)) :
    FaultsIff fault (∃ a ∈ as, p a) (review as f) :=
  (mapM h).map _

end FaultsIff

end

/-! ## The page of a stage -/

/-- The stage is on the initial page. -/
def OnInitialPage (stage : Element) : Prop :=
  stage.within? "subsheetid" = none

/-- The stage is on one of the object's own pages. -/
def OnOwnPage (object : Placed) (stage : Element) : Prop :=
  ∃ id, stage.within? "subsheetid" = some id ∧ HasPage object id.soleText?

/-- There is no page id where its text is needed. -/
def noPageId : Fault :=
  .absent "string"

variable {object : Placed} {stage : Element}

theorem pageId_of_onInitialPage (h : OnInitialPage stage) : pageId stage = .error noPageId := by
  rw [pageId, h]
  rfl

theorem pageId_of_within? {id : Element} (h : stage.within? "subsheetid" = some id) :
    pageId stage = .ok id.soleText? := by
  rw [pageId, h]
  rfl

theorem OnOwnPage.not_onInitialPage (h : OnOwnPage object stage) : ¬OnInitialPage stage := by
  obtain ⟨id, hid, -⟩ := h
  simp [OnInitialPage, hid]

theorem NamedPages.exists_pageIndex (h : NamedPages object) :
    ∃ pages, PageIndex.of object = .ok pages := by
  have hpages : FaultsIff noPageId (∃ page ∈ pagesOf object, False) (PageIndex.of object) := by
    refine .mapM fun page hpage => .of_ok ?_ id
    obtain ⟨name, hname⟩ := h page hpage
    exact ⟨(page.attr? "subsheetid", some name), by rw [hname]; rfl⟩
  exact hpages.2 (by simp)

/-- The page of a stage cannot be told if the stage is on the initial page. -/
theorem NamedPages.faultsIff_pageOf (h : NamedPages object)
    (hstage : OnInitialPage stage ∨ OnOwnPage object stage) :
    FaultsIff noPageId (OnInitialPage stage) (pageOf object stage) := by
  obtain ⟨pages, hpages⟩ := h.exists_pageIndex
  refine .bind_ok hpages (.map ?_ _)
  rcases hstage with hinitial | hown
  · exact .of_error (pageId_of_onInitialPage hinitial) hinitial
  · have hnot := hown.not_onInitialPage
    obtain ⟨id, hid, -⟩ := hown
    exact .of_ok ⟨_, pageId_of_within? hid⟩ hnot

/-! ## Recovery -/

theorem exists_judgeRecovery (kind : Kind) (name : String) :
    ∃ found, judgeRecovery kind (some name) = .ok found := by
  unfold judgeRecovery
  split
  · exact ⟨_, rfl⟩
  · rw [lowered, need_some, ok_bind]
    exact ⟨_, (apply_ite Except.ok _ _ _).symm⟩

/-- Stages that recover lead to the fault if one of them is on the initial page. Those before it
only add to the pages that were seen. -/
theorem NamedPages.faultsIff_judgeRecoveries (h : NamedPages object) (kind : Kind)
    {stages : List Placed}
    (hstages : ∀ stage ∈ stages, OnInitialPage stage ∨ OnOwnPage object stage)
    (seen : List (Option String)) :
    FaultsIff noPageId (∃ stage ∈ stages, OnInitialPage stage.toElement)
      (judgeRecoveries object kind seen stages) := by
  obtain ⟨pages, hpages⟩ := h.exists_pageIndex
  induction stages generalizing seen with
  | nil => exact .of_ok ⟨_, rfl⟩ (by simp)
  | cons stage stages ih =>
    rw [List.forall_mem_cons] at hstages
    refine .bind_ok hpages ?_
    rcases hstages.1 with hinitial | hown
    · refine .of_error ?_ ⟨stage, List.mem_cons_self, hinitial⟩
      rw [pageId_of_onInitialPage hinitial]
      rfl
    · obtain ⟨id, hid, hpage⟩ := hown
      have hrest (seen : List (Option String)) :
          FaultsIff noPageId (∃ other ∈ stage :: stages, OnInitialPage other.toElement)
            (judgeRecoveries object kind seen stages) := by
        refine (ih hstages.2 seen).congr ?_
        simp [OnOwnPage.not_onInitialPage ⟨id, hid, hpage⟩]
      refine .bind_ok (pageId_of_within? hid) ?_
      split
      · exact hrest seen
      · obtain ⟨-, -, name, -, hname⟩ := h.namesPage_nameOf hpages hpage
        obtain ⟨found, hfound⟩ := exists_judgeRecovery kind name
        rw [hname]
        exact .bind_ok hfound ((hrest _).map _)

/-! ## Waits -/

/-- The wait has no condition. -/
def Arbitrary (wait : Element) : Prop :=
  ∃ choices, wait.within? "choices" = some choices ∧ choices.children = []

theorem exists_within?_of_child? {e : Element} {name : String} (h : (e.child? name).isSome) :
    ∃ found, e.within? name = some found := by
  obtain ⟨child, hchild, hname⟩ := List.find?_isSome.mp h
  obtain ⟨node, hnode, hnode'⟩ := List.mem_filterMap.mp hchild
  exact Option.isSome_iff_exists.mp
    (List.find?_isSome.mpr ⟨child, Node.mem_elementsOf hnode hnode', hname⟩)

/-- A wait leads to the fault if it has no condition and is on the initial page. -/
theorem NamedPages.faultsIff_judgeArbitrary (h : NamedPages object) {wait : Element}
    (hchoices : (wait.child? "choices").isSome)
    (hwait : OnInitialPage wait ∨ OnOwnPage object wait) :
    FaultsIff noPageId (Arbitrary wait ∧ OnInitialPage wait) (judgeArbitrary object wait) := by
  obtain ⟨choices, hfound⟩ := exists_within?_of_child? hchoices
  have harbitrary : Arbitrary wait ↔ choices.children = [] := by
    simp [Arbitrary, hfound]
  rw [judgeArbitrary, hfound, harbitrary]
  dsimp only
  split
  next hsome =>
    refine .of_ok ⟨_, rfl⟩ fun hnot => ?_
    simp [hnot.1] at hsome
  next hnone =>
    have hempty : choices.children = [] := by simpa using hnone
    exact ((h.faultsIff_pageOf hwait).map _).congr (iff_and_self.mpr fun _ => hempty)

/-! ## The two checks -/

/-- If the pages have names, and all stages that recover are on the initial page or on pages of the
object, the check for recovery ends in a fault exactly if there is one on the initial page. If all
waits have choices and are on such pages, the check for conditions ends in a fault exactly if it
applies and there is a wait without a condition on the initial page. If not, both have a result. -/
theorem faults_on_initial_page {facts : Facts} {kind : Kind} {surface : Bool}
    (hpages : NamedPages object) (hkind : facts.kind = .ok kind)
    (hsurface : facts.surfaceUsed = .ok surface) :
    ((∀ stage ∈ stagesOf object "Recover",
        OnInitialPage stage.toElement ∨ OnOwnPage object stage.toElement) →
      FaultsIff noPageId (∃ stage ∈ stagesOf object "Recover", OnInitialPage stage.toElement)
        (checkRecover object facts)) ∧
    ((∀ wait ∈ stagesOf object "WaitStart", (wait.child? "choices").isSome ∧
        (OnInitialPage wait.toElement ∨ OnOwnPage object wait.toElement)) →
      FaultsIff noPageId (surface = false ∧ kind ≠ .wrapper ∧
          ∃ wait ∈ stagesOf object "WaitStart",
            Arbitrary wait.toElement ∧ OnInitialPage wait.toElement)
        (checkNotArbitrary object facts)) := by
  refine ⟨fun hstages => ?_, fun hwaits => ?_⟩
  · exact .bind_ok hkind ((hpages.faultsIff_judgeRecoveries kind hstages []).map _)
  · refine .bind_ok hsurface ?_
    split
    next happlies => exact .of_ok ⟨_, rfl⟩ (by simp [happlies])
    next happlies =>
      refine .bind_ok hkind ?_
      split
      next hwrapper => exact .of_ok ⟨_, rfl⟩ (by simp [hwrapper])
      next hwrapper =>
        have hreview := FaultsIff.review fun wait hwait =>
          hpages.faultsIff_judgeArbitrary (hwaits wait hwait).1 (hwaits wait hwait).2
        dsimp only
        split
        next hempty =>
          rw [List.isEmpty_iff.mp hempty]
          exact .of_ok ⟨_, rfl⟩ (by simp)
        next =>
          refine (hreview.map _).congr ?_
          simp [happlies, hwrapper]

/-- A stage of a type with these parts. -/
def stageWith (type : String) (parts : List Node) : Node :=
  .element "stage" [("type", type), ("name", type)] parts

/-- The id of the page that a stage is on. -/
def onPage : Node :=
  .element "subsheetid" [] [.leaf .text "page"]

/-- An object with one page and these stages. -/
def onePageObject (stages : List Node) : Placed :=
  .alone ⟨"process", [("name", "Base A")],
    .element "subsheet" [("subsheetid", "page")] [.element "name" [] [.leaf .text "Page"]] ::
      stages⟩

/-- Two stages that recover and a wait without a condition, all on the page, and a wait with a
condition on the initial page. -/
def pagedObject : Placed :=
  onePageObject [stageWith "Recover" [onPage], stageWith "Recover" [onPage],
    stageWith "WaitStart" [.element "choices" [] [.element "choice" [] []]],
    stageWith "WaitStart" [onPage, .element "choices" [] []]]

/-- The wait on the initial page has a condition, so both checks have a result. -/
theorem condition_on_initial_page_is_no_fault :
    (∃ wait ∈ stagesOf pagedObject "WaitStart", OnInitialPage wait.toElement) ∧
    ∃ recovered awaited,
      checkRecover pagedObject ⟨.ok .base, .ok false, .ok false⟩ = .ok recovered ∧
      checkNotArbitrary pagedObject ⟨.ok .base, .ok false, .ok false⟩ = .ok awaited := by
  have hpages : NamedPages pagedObject := by
    intro page hpage
    obtain rfl := List.mem_singleton.mp hpage
    exact ⟨"Page", rfl⟩
  have hpage : HasPage pagedObject (some "page") := ⟨_, List.mem_singleton_self _, rfl⟩
  have hrecovers : ∀ stage ∈ stagesOf pagedObject "Recover", OnOwnPage pagedObject stage := by
    intro stage hstage
    rcases List.mem_pair.mp hstage with rfl | rfl
    · exact ⟨_, rfl, hpage⟩
    · exact ⟨_, rfl, hpage⟩
  obtain ⟨hrecover, hwait⟩ := @faults_on_initial_page pagedObject
    ⟨.ok .base, .ok false, .ok false⟩ .base false hpages rfl rfl
  obtain ⟨recovered, hrecovered⟩ :=
    (hrecover fun stage hstage => .inr (hrecovers stage hstage)).2 fun ⟨stage, hstage, hinitial⟩ =>
      (hrecovers stage hstage).not_onInitialPage hinitial
  obtain ⟨awaited, hawaited⟩ := by
    refine (hwait fun wait hmem => ?_).2 fun ⟨_, _, wait, hmem, harbitrary, hinitial⟩ => ?_
    · rcases List.mem_pair.mp hmem with rfl | rfl
      · exact ⟨rfl, .inl rfl⟩
      · exact ⟨rfl, .inr ⟨_, rfl, hpage⟩⟩
    · rcases List.mem_pair.mp hmem with rfl | rfl
      · obtain ⟨choices, hchoices, hempty⟩ := harbitrary
        cases hchoices
        cases hempty
      · cases hinitial
  exact ⟨⟨_, List.mem_cons_self, rfl⟩, recovered, awaited, hrecovered, hawaited⟩

/-- A stage that recovers and a wait without a condition, both on the initial page. -/
def initialObject : Placed :=
  onePageObject [stageWith "Recover" [], stageWith "WaitStart" [.element "choices" [] []]]

/-- The object's page has its name and the wait its choices, but both checks end in a fault. -/
theorem initial_stages_are_faults :
    NamedPages initialObject ∧
    (∀ stage ∈ stagesOf initialObject "Recover", OnInitialPage stage.toElement) ∧
    (∀ wait ∈ stagesOf initialObject "WaitStart",
      (wait.child? "choices").isSome ∧ OnInitialPage wait.toElement) ∧
    checkRecover initialObject ⟨.ok .base, .ok false, .ok false⟩ = .error noPageId ∧
    checkNotArbitrary initialObject ⟨.ok .base, .ok false, .ok false⟩ = .error noPageId := by
  refine ⟨fun page hpage => ?_, fun stage hstage => ?_, fun wait hwait => ?_, rfl, rfl⟩
  · obtain rfl := List.mem_singleton.mp hpage
    exact ⟨"Page", rfl⟩
  · obtain rfl := List.mem_singleton.mp hstage
    rfl
  · obtain rfl := List.mem_singleton.mp hwait
    exact ⟨rfl, rfl⟩

end ReleaseReview
