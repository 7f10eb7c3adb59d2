import ReleaseReview.Calendar.Recognise
import ReleaseReview.Consideration
import ReleaseReview.Proofs.Descent
import ReleaseReview.Proofs.MixedPages

/-!
# Findings and their pages

Most checks say on which page of an object they found something. They come to the page in different
ways: by the page id below a stage, by the one right after its start, by the parent of an exception,
or by a list of ids that was gathered before. In an object that is `Paged` each of these is the id
of one of its own pages (`hasPage_pageId`, `hasPage_rightAfter`), and to look such an id up gives
the name of a page (`namesPage_nameOf`). So these checks find nothing elsewhere than on the object's
own pages, which is `findings_are_on_pages`.
-/

namespace ReleaseReview

open Markup

/-! ## Objects and their pages -/

/-- One of the object's own pages has the id. -/
def HasPage (object : Placed) (id : Option String) : Prop :=
  ∃ page ∈ pagesOf object, page.attr? "subsheetid" = id

/-- The location is the name of one of the object's own pages. -/
def NamesPage (object : Placed) (location : Option String) : Prop :=
  ∃ page ∈ pagesOf object, ∃ name, pageName page = .ok (some name) ∧ location = some name

/-- Every page id in the object is that of one of its own pages, and each of these has a name. -/
structure Paged (object : Placed) : Prop where
  ids : ∀ id ∈ object.allWithin "subsheetid", HasPage object id.soleText?
  names : ∀ page ∈ pagesOf object, ∃ name, pageName page = .ok (some name)

/-- All findings are on the object's own pages. -/
def Findings.OnPages (object : Placed) (findings : Findings) : Prop :=
  ∀ finding ∈ findings.errors ++ findings.warnings, NamesPage object finding.location

/-- The considerations whose findings are on pages. -/
def Consideration.onPages : List Consideration :=
  [.useAttach, .startWait, .notArbitrary, .navigate, .waitTimeout, .reuse, .businessLogic,
   .actionCalled, .actionSize, .typeDetail, .exceptionType, .recover, .images, .focus]

variable {object : Placed}

namespace Findings

theorem onPages_none : (none : Findings).OnPages object :=
  fun _ h => nomatch h

theorem onPages_error (name : String) {location : Option String} (h : NamesPage object location) :
    (error name location).OnPages object := by
  intro finding hfinding
  obtain rfl := List.mem_singleton.mp hfinding
  exact h

theorem onPages_warning (name : String) {location : Option String}
    (h : NamesPage object location) : (warning name location).OnPages object := by
  intro finding hfinding
  obtain rfl := List.mem_singleton.mp hfinding
  exact h

theorem onPages_join {parts : List Findings} (h : ∀ part ∈ parts, part.OnPages object) :
    (join parts).OnPages object := by
  intro finding hfinding
  rw [List.mem_append, errors_join, warnings_join, List.mem_flatMap, List.mem_flatMap] at hfinding
  rcases hfinding with ⟨part, hpart, hfinding⟩ | ⟨part, hpart, hfinding⟩
  · exact h part hpart finding (List.mem_append_left _ hfinding)
  · exact h part hpart finding (List.mem_append_right _ hfinding)

theorem onPages_append {a b : Findings} (ha : a.OnPages object) (hb : b.OnPages object) :
    (a ++ b).OnPages object := by
  have hjoin : (join [a, b]).OnPages object := by
    refine onPages_join fun part hpart => ?_
    rcases List.mem_pair.mp hpart with rfl | rfl
    · exact ha
    · exact hb
  simpa [Findings.OnPages] using hjoin

end Findings

open Findings (OnPages onPages_none onPages_error onPages_warning onPages_join onPages_append)

/-- Of findings that may be missing, those that are there. -/
theorem onPages_filterMap {parts : List (Option Findings)}
    (h : ∀ part ∈ parts, ∀ findings ∈ part, findings.OnPages object) :
    (Findings.join (parts.filterMap id)).OnPages object := by
  refine onPages_join fun findings hfindings => ?_
  obtain ⟨part, hpart, hsome⟩ := List.mem_filterMap.mp hfindings
  exact h part hpart findings hsome

theorem onPages_errorEach {pages : PageIndex} (message : String) {ids : List (Option String)}
    (h : ∀ id ∈ ids, NamesPage object (pages.nameOf id)) :
    (errorEach pages message ids).OnPages object := by
  intro finding hfinding
  rw [errorEach, List.append_nil] at hfinding
  obtain ⟨id, hid, rfl⟩ := List.mem_map.mp hfinding
  exact h id hid

theorem onPages_warnEach {pages : PageIndex} (message : String) {ids : List (Option String)}
    (h : ∀ id ∈ ids, NamesPage object (pages.nameOf id)) :
    (warnEach pages message ids).OnPages object := by
  intro finding hfinding
  rw [warnEach, List.nil_append] at hfinding
  obtain ⟨id, hid, rfl⟩ := List.mem_map.mp hfinding
  exact h id hid

/-- A review is on pages if the findings on each item are. -/
theorem onPages_review {α : Type} {items : List α} {judge : α → Except Fault Findings}
    (h : ∀ item ∈ items, Yields (OnPages object) (judge item)) :
    Yields (OnPages object) (review items judge) :=
  .bind (.mapM h) fun _ hparts => .pure (onPages_join hparts)

/-! ## Reviews of parts of an object -/

theorem descendants_subset_of_mem_stagesOf {type : String} {stage : Placed}
    (h : stage ∈ stagesOf object type) : stage.descendants ⊆ object.descendants := by
  have hchild := (List.mem_filter.mp (List.mem_filter.mp h).1).1
  exact Element.descendants_subset (mem_elementsOf_of_mem_placeEach hchild)

/-- A review of the stages of a type is on pages if the findings on each stage in the object are. -/
theorem onPages_stages {type : String} {judge : Element → Except Fault Findings}
    (hjudge : ∀ stage : Element, stage.descendants ⊆ object.descendants →
      Yields (OnPages object) (judge stage)) :
    Yields (OnPages object) (review (stagesOf object type) fun stage => judge stage.toElement) :=
  onPages_review fun stage hstage =>
    hjudge stage.toElement (descendants_subset_of_mem_stagesOf hstage)

theorem onPages_reviewOnPages {type : String} {judge : PageIndex → Element → Except Fault Findings}
    (hjudge : ∀ pages, PageIndex.of object = .ok pages → ∀ stage : Element,
      stage.descendants ⊆ object.descendants → Yields (OnPages object) (judge pages stage)) :
    Yields (OnPages object) (reviewOnPages object (stagesOf object type) judge) := by
  refine .ite (fun _ => .pure onPages_none) fun _ => ?_
  exact .bind_ok fun pages hpages =>
    onPages_stages fun stage hstage => hjudge pages hpages stage hstage

/-- A review of the exceptions is on pages if the findings on each, by what it stands in, are. -/
theorem onPages_exceptions {judge : Element × Element → Except Fault Findings}
    (hjudge : ∀ exception stage : Element, stage.descendants ⊆ object.descendants →
      Yields (OnPages object) (judge (exception, stage))) :
    Yields (OnPages object) (review (exceptions object) judge) :=
  onPages_review fun found hfound =>
    hjudge found.1 found.2 (Element.descendants_subset_of_mem_allWithinUnder hfound)

/-! ## Judgements about a page -/

theorem onPages_judgeFirstWait (wait : Element) {action : Option String}
    (haction : NamesPage object action) :
    Yields (OnPages object) (judgeFirstWait wait action) := by
  refine .after fun choices => .ite (fun _ => .pure (onPages_error _ haction)) fun _ => ?_
  refine .after fun tests => .ite (fun _ => .pure onPages_none) fun _ => ?_
  exact .pure (onPages_error _ haction)

theorem onPages_judgeStart (start : Element) {action : Option String}
    (haction : NamesPage object action) :
    Yields (OnPages object) (judgeStart object start action) := by
  refine .after fun first => .ite (fun _ => ?_) fun _ => .pure (onPages_error _ haction)
  refine .after fun second => .ite (fun _ => onPages_judgeFirstWait second haction) fun _ => ?_
  exact .pure (onPages_error _ haction)

theorem onPages_judgeSteps (navigation : Element) {action : Option String}
    (haction : NamesPage object action) (steps : List Element) (error : String) :
    Yields (OnPages object) (judgeSteps object navigation action error steps) := by
  induction steps generalizing error with
  | nil => exact .ok (onPages_error _ haction)
  | cons step steps ih =>
    refine .after fun reading => ?_
    cases reading with
    | idle => exact ih error
    | selects => exact .pure onPages_none
    | works => exact ih _
    | unknown => exact .pure (onPages_warning _ haction)

theorem onPages_judgeCall (kind : Kind) (call : Element) {page : Option String}
    (hpage : NamesPage object page) : Yields (OnPages object) (judgeCall kind call page) := by
  refine .ite (fun _ => .pure (onPages_error _ hpage)) fun _ => ?_
  refine .after fun resource => .ite (fun _ => .pure (onPages_warning _ hpage)) fun _ => ?_
  exact .pure onPages_none

/-! ## The ways to a page -/

/-- The pages with a role are among those that roles were found on. -/
theorem hasPage_pagesIn {roles : List (FocusRole × Option String)}
    (hroles : ∀ found ∈ roles, HasPage object found.2) (role : FocusRole) :
    ∀ id ∈ pagesIn roles role, HasPage object id := by
  intro id hid
  obtain ⟨found, hfound, rfl⟩ := List.mem_map.mp (List.mem_eraseDups.mp hid)
  exact hroles found (List.mem_filter.mp hfound).1

/-- Each of the object's own pages has a name. -/
def NamedPages (object : Placed) : Prop :=
  ∀ page ∈ pagesOf object, ∃ name, pageName page = .ok (some name)

namespace NamedPages

variable (h : NamedPages object)

include h

theorem namesPage {page : Placed} (hpage : page ∈ pagesOf object) {location : Option String}
    (hname : pageName page = .ok location) : NamesPage object location := by
  obtain ⟨name, hname'⟩ := h page hpage
  exact ⟨page, hpage, name, hname', Except.ok.inj (hname.symm.trans hname')⟩

/-- The index of the pages holds names of pages. -/
theorem namesPage_pageIndex :
    Yields (fun pages : PageIndex => ∀ entry ∈ pages, NamesPage object entry.2)
      (PageIndex.of object) := by
  refine .mapM fun page hpage => ?_
  exact .bind_ok fun name hname => .pure (h.namesPage hpage hname)

/-- To look up the id of a page gives the name of a page. -/
theorem namesPage_nameOf {pages : PageIndex} (hpages : PageIndex.of object = .ok pages)
    {id : Option String} (hid : HasPage object id) : NamesPage object (pages.nameOf id) := by
  obtain ⟨page, hpage, rfl⟩ := hid
  obtain ⟨entry, hentry, hfound⟩ := exists_mem_of_mapM_eq_ok hpages page hpage
  obtain ⟨name, -, hentry'⟩ := bind_eq_ok.mp hfound
  obtain rfl := pure_eq_ok.mp hentry'
  have hsome : (pages.find? fun entry => entry.1 == page.attr? "subsheetid").isSome = true :=
    List.find?_isSome.mpr ⟨_, hentry, beq_self_eq_true _⟩
  obtain ⟨first, hfirst⟩ := Option.isSome_iff_exists.mp hsome
  unfold PageIndex.nameOf
  rw [hfirst]
  exact h.namesPage_pageIndex pages hpages first (List.mem_of_find?_eq_some hfirst)

end NamedPages

namespace Paged

variable (h : Paged object)

include h

theorem namedPages : NamedPages object :=
  h.names

/-- The page id below an element is the id of a page. -/
theorem hasPage_within {part id : Element} (hpart : part.descendants ⊆ object.descendants)
    (hid : part.within? "subsheetid" = some id) : HasPage object id.soleText? :=
  h.ids id (List.mem_filter.mpr
    ⟨hpart (List.mem_of_find?_eq_some hid), List.find?_eq_some_iff_append.mp hid |>.1⟩)

theorem hasPage_pageId {stage : Element} (hstage : stage.descendants ⊆ object.descendants) :
    Yields (HasPage object) (pageId stage) := by
  refine .bind (fun id hid => h.hasPage_within hstage (need_eq_ok_iff.mp hid)) fun id hid => ?_
  exact .pure hid

/-- A page id that is next to a stage is the id of a page, unless it is beyond the object. -/
theorem hasPage_rightAfter (hafter : object.after = none) {type : String} {stage : Placed}
    (hstage : stage ∈ stagesOf object type) {next : Node} (hnext : stage.next? = some next)
    (hname : next.name? = some "subsheetid") : HasPage object next.soleText? := by
  cases next with
  | leaf kind content => cases hname
  | element name attributes children =>
    cases hname
    have hchild := (List.mem_filter.mp (List.mem_filter.mp hstage).1).1
    rw [hafter] at hchild
    have hbelow := next?_of_mem_placeEach rfl hchild hnext
    exact h.ids _ (List.mem_filter.mpr ⟨hbelow, beq_self_eq_true _⟩)

theorem namesPage_pageOf {stage : Element} (hstage : stage.descendants ⊆ object.descendants) :
    Yields (NamesPage object) (pageOf object stage) := by
  refine .bind_ok fun pages hpages => ?_
  exact .bind (h.hasPage_pageId hstage) fun id hid =>
    .pure (h.namedPages.namesPage_nameOf hpages hid)

/-- One error on the page of a stage. -/
theorem onPages_errorOf {stage : Element} (hstage : stage.descendants ⊆ object.descendants)
    (message : String) :
    Yields (OnPages object) (do return .error message (← pageOf object stage)) :=
  .bind (h.namesPage_pageOf hstage) fun _ hpage => .pure (onPages_error message hpage)

/-! ## Checks of Actions -/

theorem onPages_reviewActions {judge : Placed → Option String → Except Fault Findings}
    (hjudge : ∀ page name, NamesPage object name → Yields (OnPages object) (judge page name)) :
    Yields (OnPages object) (reviewActions object judge) := by
  refine onPages_review fun page hpage => ?_
  refine .bind (fun name hname => h.namedPages.namesPage hpage hname) fun name hname => ?_
  refine .after fun judged => .ite (fun _ => hjudge page name hname) fun _ => ?_
  exact .pure onPages_none

theorem useAttach (facts : Facts) :
    Yields (fun outcome => outcome.findings.OnPages object) (checkUseAttach object facts) := by
  refine .after fun kind => .ite (fun _ => .pure onPages_none) fun _ => ?_
  refine .bind (h.onPages_reviewActions fun page name hname => ?_) fun _ hfound => .pure hfound
  refine .after fun begins => .ite (fun _ => .pure onPages_none) fun _ => ?_
  exact .pure (onPages_error _ hname)

theorem startWait (facts : Facts) :
    Yields (fun outcome => outcome.findings.OnPages object) (checkStartWait object facts) := by
  refine .after fun kind => .ite (fun _ => .pure onPages_none) fun _ => ?_
  refine .bind (h.onPages_reviewActions fun page name hname => ?_) fun _ hfound => .pure hfound
  exact onPages_review fun start _ => onPages_judgeStart start.toElement hname

theorem actionSize (facts : Facts) :
    Yields (fun outcome => outcome.findings.OnPages object) (checkActionSize object facts) := by
  refine .bind h.namedPages.namesPage_pageIndex fun pages hpages =>
    .pure (onPages_join fun part hpart => ?_)
  obtain ⟨⟨id, name⟩, hentry, rfl⟩ := List.mem_map.mp hpart
  have hname : NamesPage object name := hpages _ hentry
  simp only [judgeActionSize]
  split
  · exact onPages_error _ hname
  · split
    · exact onPages_warning _ hname
    · exact onPages_none

/-! ## Checks of stages -/

theorem notArbitrary (facts : Facts) :
    Yields (fun outcome => outcome.findings.OnPages object) (checkNotArbitrary object facts) := by
  refine .after fun surface => .ite (fun _ => .pure onPages_none) fun _ => ?_
  refine .after fun kind => .ite (fun _ => .pure onPages_none) fun _ => ?_
  refine .ite (fun _ => .pure onPages_none) fun _ => ?_
  refine .bind (onPages_stages fun wait hwait => ?_) fun _ hfound => .pure hfound
  unfold judgeArbitrary
  split
  · exact .error _
  · exact .ite (fun _ => .pure onPages_none) fun _ => h.onPages_errorOf hwait _

theorem waitTimeout (facts : Facts) :
    Yields (fun outcome => outcome.findings.OnPages object) (checkWaitTimeout object facts) := by
  refine .after fun kind => .ite (fun _ => .pure onPages_none) fun _ => ?_
  refine .bind (onPages_stages fun waitEnd hwaitEnd => ?_) fun _ hfound => .pure hfound
  unfold judgeWaitEnd
  split
  · exact h.onPages_errorOf hwaitEnd _
  · refine .after fun type => .ite (fun _ => .pure onPages_none) fun _ => ?_
    exact h.onPages_errorOf hwaitEnd _

theorem navigate (facts : Facts) :
    Yields (fun outcome => outcome.findings.OnPages object) (checkNavigate object facts) := by
  refine .after fun kind => .ite (fun _ => .pure onPages_none) fun _ => ?_
  refine .ite (fun _ => .pure onPages_none) fun _ => ?_
  refine .bind_ok fun pages hpages => ?_
  refine .bind (onPages_stages fun navigation hnavigation => ?_) fun _ hfound => .pure hfound
  refine .bind (h.hasPage_pageId hnavigation) fun id hid => ?_
  have haction : NamesPage object (pages.nameOf id) := h.namedPages.namesPage_nameOf hpages hid
  refine .ite (fun _ => .pure (onPages_error _ haction)) fun _ => ?_
  refine .after fun judged => .ite (fun _ => .pure onPages_none) fun _ => ?_
  refine .after fun type => .ite (fun _ => .pure onPages_none) fun _ => ?_
  exact onPages_judgeSteps navigation haction _ _

theorem onPages_judgeImage {item : Element} (hitem : item.descendants ⊆ object.descendants)
    (sides : String × String) : Yields (OnPages object) (judgeImage object item sides) := by
  have hlarge : ∀ limit what, Yields (OnPages object) (largeImage object item sides limit what) :=
    fun limit what => h.onPages_errorOf hitem _
  have hnone : Yields (OnPages object) (pure .none) := .pure onPages_none
  unfold judgeImage
  refine .after fun tooLarge => ?_
  -- What is left of the work is the same whether or not the first limit is exceeded.
  refine .ite (fun _ => .bind (hlarge _ _) fun first hfirst => ?_)
    fun _ => .bind hnone fun first hfirst => ?_
  all_goals
    refine .after fun large => ?_
    refine .ite (fun _ => .bind (hlarge _ _) fun second hsecond => ?_)
      fun _ => .bind hnone fun second hsecond => ?_
    all_goals exact .pure (onPages_append hfirst hsecond)

theorem onPages_judgeItem {item : Element} (hitem : item.descendants ⊆ object.descendants) :
    Yields (fun found => ∀ findings ∈ found, findings.OnPages object) (judgeItem object item) := by
  refine .after fun datatype => .ite (fun _ => .pure nofun) fun _ => ?_
  refine .after fun initial => .ite (fun _ => .pure nofun) fun _ => ?_
  refine .bind (h.onPages_judgeImage hitem _) fun found hfound => .pure ?_
  rintro findings ⟨⟩
  exact hfound

theorem images (facts : Facts) :
    Yields (fun outcome => outcome.findings.OnPages object) (checkImages object facts) :=
  .bind (.mapM fun _ hitem => h.onPages_judgeItem (descendants_subset_of_mem_stagesOf hitem))
    fun _ hfound => .pure (onPages_filterMap hfound)

/-! ## Calls -/

theorem namesPage_pageRightAfter (hafter : object.after = none) {pages : PageIndex}
    (hpages : PageIndex.of object = .ok pages) {type : String} {stage : Placed}
    (hstage : stage ∈ stagesOf object type) :
    Yields (fun found => ∀ page ∈ found, NamesPage object page) (pageRightAfter? pages stage) := by
  refine .bind (fun next hnext => need_eq_ok_iff.mp hnext) fun next hnext => .pure ?_
  split
  next hname =>
    rintro page ⟨⟩
    exact h.namedPages.namesPage_nameOf hpages (h.hasPage_rightAfter hafter hstage hnext hname)
  · exact nofun

theorem actionCalled (hafter : object.after = none) (facts : Facts) :
    Yields (fun outcome => outcome.findings.OnPages object) (checkActionCalled object facts) := by
  refine .bind_ok fun pages hpages => .after fun kind => ?_
  refine .bind (.mapM fun call hcall => ?_) fun calls hcalls => .pure (onPages_filterMap hcalls)
  refine .bind (h.namesPage_pageRightAfter hafter hpages hcall) fun page hpage => ?_
  cases page with
  | none => exact .pure nofun
  | some page =>
    refine .bind (onPages_judgeCall kind call.toElement (hpage page rfl)) fun found hfound => ?_
    refine .pure ?_
    rintro findings ⟨⟩
    exact hfound

/-! ## Decisions -/

theorem onPages_judgeBaseDecision {decision : Element}
    (hdecision : decision.descendants ⊆ object.descendants) :
    Yields (OnPages object) (judgeBaseDecision object decision) := by
  refine .bind (h.namesPage_pageOf hdecision) fun page hpage => ?_
  refine .after fun name => .ite (fun _ => .pure onPages_none) fun _ => ?_
  exact .after fun expression => .pure (onPages_error _ hpage)

theorem onPages_judgeBranches {pages : PageIndex} (hpages : PageIndex.of object = .ok pages)
    {choice : Element} (hchoice : choice.descendants ⊆ object.descendants) (branches : List Node) :
    Yields (OnPages object) (judgeBranches object pages choice branches) := by
  induction branches with
  | nil => exact .ok onPages_none
  | cons branch branches ih =>
    refine .after fun expression => .bind (h.hasPage_pageId hchoice) fun id hid => ?_
    refine .after fun looks => .ite (fun _ => ih) fun _ => ?_
    exact .pure (onPages_warning _ (h.namedPages.namesPage_nameOf hpages hid))

theorem onPages_judgeChoice {pages : PageIndex} (hpages : PageIndex.of object = .ok pages)
    {choice : Element} (hchoice : choice.descendants ⊆ object.descendants) :
    Yields (OnPages object) (judgeChoice object pages choice) := by
  unfold judgeChoice
  split
  · exact .error _
  · exact h.onPages_judgeBranches hpages hchoice _

theorem onPages_judgeDecision {pages : PageIndex} (hpages : PageIndex.of object = .ok pages)
    {decision : Element} (hdecision : decision.descendants ⊆ object.descendants) :
    Yields (OnPages object) (judgeDecision object pages decision) := by
  refine .after fun name => .ite (fun _ => .pure onPages_none) fun _ => ?_
  refine .after fun expression => .bind (h.hasPage_pageId hdecision) fun id hid => ?_
  refine .after fun looks => .ite (fun _ => .pure onPages_none) fun _ => ?_
  refine .ite (fun _ => .error _) fun _ => ?_
  exact .pure (onPages_warning _ (h.namedPages.namesPage_nameOf hpages hid))

theorem businessLogic (facts : Facts) :
    Yields (fun outcome => outcome.findings.OnPages object) (checkBusinessLogic object facts) := by
  refine .after fun kind => .ite (fun _ => ?_) fun _ => ?_
  · refine .bind (onPages_stages fun choice hchoice => h.onPages_errorOf hchoice _)
      fun first hfirst => ?_
    refine .bind (onPages_stages fun decision hdecision => h.onPages_judgeBaseDecision hdecision)
      fun second hsecond => ?_
    exact .pure (onPages_append hfirst hsecond)
  · refine .bind (onPages_reviewOnPages fun pages hpages choice hchoice =>
      h.onPages_judgeChoice hpages hchoice) fun first hfirst => ?_
    refine .bind (onPages_reviewOnPages fun pages hpages decision hdecision =>
      h.onPages_judgeDecision hpages hdecision) fun second hsecond => ?_
    exact .pure (onPages_append hfirst hsecond)

/-! ## Exceptions -/

theorem onPages_judgeBusinessException (facts : Facts) (exception : Element) {stage : Element}
    (hstage : stage.descendants ⊆ object.descendants) :
    Yields (OnPages object) (judgeBusinessException object facts exception stage) := by
  refine .after fun kind => .ite (fun _ => .pure onPages_none) fun _ => ?_
  split
  · exact .error _
  · exact .ite (fun _ => .pure onPages_none) fun _ => h.onPages_errorOf hstage _

theorem onPages_judgeDetailLength (exception : Element) {stage : Element}
    (hstage : stage.descendants ⊆ object.descendants) :
    Yields (OnPages object) (judgeDetailLength object exception stage) := by
  unfold judgeDetailLength
  split
  · exact .error _
  · refine .ite (fun _ => h.onPages_errorOf hstage _) fun _ => .ite (fun _ => ?_) fun _ => ?_
    · exact .bind (h.namesPage_pageOf hstage) fun page hpage => .pure (onPages_warning _ hpage)
    · exact .pure onPages_none

theorem typeDetail (facts : Facts) :
    Yields (fun outcome => outcome.findings.OnPages object) (checkTypeDetail object facts) := by
  refine .bind (onPages_exceptions fun exception stage hstage => ?_) fun _ hfound => .pure hfound
  refine .ite (fun _ => .pure onPages_none) fun _ => ?_
  refine .bind (h.onPages_judgeBusinessException facts exception hstage) fun first hfirst => ?_
  refine .bind (h.onPages_judgeDetailLength exception hstage) fun second hsecond => ?_
  exact .pure (onPages_append hfirst hsecond)

theorem exceptionType (facts : Facts) :
    Yields (fun outcome => outcome.findings.OnPages object) (checkExceptionType object facts) := by
  refine .bind (onPages_exceptions fun exception stage hstage => ?_) fun _ hfound => .pure hfound
  refine .ite (fun _ => .pure onPages_none) fun _ => .ite (fun _ => ?_) fun _ => ?_
  · exact h.onPages_errorOf hstage _
  · exact .ite (fun _ => .pure onPages_none) fun _ => h.onPages_errorOf hstage _

theorem onPages_judgeRecoveries (kind : Kind) (stages : List Placed)
    (hstages : ∀ stage ∈ stages, stage.descendants ⊆ object.descendants)
    (seen : List (Option String)) :
    Yields (OnPages object) (judgeRecoveries object kind seen stages) := by
  induction stages generalizing seen with
  | nil => exact .ok onPages_none
  | cons stage stages ih =>
    have hrest := ih fun other hother => hstages other (List.mem_cons_of_mem stage hother)
    refine .bind_ok fun pages hpages => ?_
    refine .bind (h.hasPage_pageId (hstages stage List.mem_cons_self)) fun id hid => ?_
    have hpage : NamesPage object (pages.nameOf id) := h.namedPages.namesPage_nameOf hpages hid
    refine .ite (fun _ => hrest seen) fun _ => ?_
    refine .bind (Q := OnPages object) ?_ fun first hfirst => ?_
    · refine .ite (fun _ => .pure (onPages_warning _ hpage)) fun _ => ?_
      refine .after fun name => .ite (fun _ => .pure onPages_none) fun _ => ?_
      exact .pure (onPages_error _ hpage)
    · exact .bind (hrest _) fun rest hfound => .pure (onPages_append hfirst hfound)

theorem recover (facts : Facts) :
    Yields (fun outcome => outcome.findings.OnPages object) (checkRecover object facts) := by
  refine .after fun kind => ?_
  refine .bind (h.onPages_judgeRecoveries kind _ (fun stage hstage => ?_) []) fun _ hfound =>
    .pure hfound
  exact descendants_subset_of_mem_stagesOf hstage

/-! ## Pages by what their stages do -/

theorem hasPage_pagesWith (interaction : Interaction) :
    Yields (fun ids => ∀ id ∈ ids, HasPage object id) (pagesWith object interaction) := by
  refine .filterMap_mapM fun stage hstage => ?_
  unfold countedPage?
  split
  · exact .ok nofun
  next id hid =>
    have hpage : Yields (fun found => ∀ id ∈ found, HasPage object id)
        (pure (some id.soleText?)) := by
      refine .pure ?_
      rintro _ ⟨⟩
      exact h.hasPage_within (descendants_subset_of_mem_stagesOf hstage) hid
    refine .ite (fun _ => .after fun attaching => ?_) fun _ => hpage
    exact .ite (fun _ => .pure nofun) fun _ => hpage

theorem onPages_mixedFindings {pages : PageIndex} (hpages : PageIndex.of object = .ok pages)
    (what : String) {ids : List (Option String)} (hids : ∀ id ∈ ids, HasPage object id) :
    (mixedFindings pages what ids).OnPages object := by
  intro finding hfinding
  rw [mixedFindings, List.append_nil] at hfinding
  obtain ⟨name, hname, rfl⟩ := List.mem_map.mp hfinding
  obtain ⟨id, hid, rfl⟩ := List.mem_map.mp ((List.mergeSort_perm _ _).mem_iff.mp hname)
  exact h.namedPages.namesPage_nameOf hpages (hids id hid)

theorem reuse (facts : Facts) :
    Yields (fun outcome => outcome.findings.OnPages object) (checkReuse object facts) := by
  refine .after fun kind => .ite (fun _ => .pure onPages_none) fun _ => ?_
  refine .bind_ok fun pages hpages => ?_
  refine .bind (h.hasPage_pagesWith .read) fun reads hreads => ?_
  refine .after fun writes => .bind (h.hasPage_pagesWith .navigate) fun navigates hnavigates => ?_
  have hmixed : ∀ (what : String) (ids : List (Option String)) (keep : Option String → Bool),
      (∀ id ∈ ids, HasPage object id) →
        (mixedFindings pages what (ids.eraseDups.filter keep)).OnPages object := by
    intro what ids keep hids
    refine h.onPages_mixedFindings hpages what fun id hid => hids id ?_
    exact List.mem_eraseDups.mp (List.mem_filter.mp hid).1
  rw [MixedPages.separate_of]
  refine .pure (onPages_append (onPages_append (onPages_append ?_ ?_) ?_) ?_)
  · exact hmixed _ reads _ hreads
  · exact hmixed _ reads _ hreads
  · exact hmixed _ navigates _ hnavigates
  · exact hmixed _ reads _ hreads

theorem hasPage_stageRoles (role : Option String → Except Fault FocusRole) {stage : Element}
    (hstage : stage.descendants ⊆ object.descendants) :
    Yields (fun roles => ∀ found ∈ roles, HasPage object found.2) (stageRoles role stage) := by
  refine .filterMap_mapM fun step _ => .after fun name => .after fun found => ?_
  split
  · exact .pure nofun
  · refine .bind (h.hasPage_pageId hstage) fun id hid => .pure ?_
    rintro _ ⟨⟩
    exact hid

theorem onPages_judgeFocus {pages : PageIndex} (hpages : PageIndex.of object = .ok pages)
    {roles : List (FocusRole × Option String)}
    (hroles : ∀ found ∈ roles, HasPage object found.2) :
    (judgeFocus pages roles).OnPages object := by
  have hnames : ∀ {role : FocusRole} {ids : List (Option String)}, ids ⊆ pagesIn roles role →
      ∀ id ∈ ids, NamesPage object (pages.nameOf id) := fun hids id hid =>
    h.namedPages.namesPage_nameOf hpages (hasPage_pagesIn hroles _ id (hids hid))
  -- Each list of ids is a part of the pages with one role.
  refine onPages_append (onPages_append (onPages_warnEach _ ?_) (onPages_errorEach _ ?_))
    (onPages_errorEach _ ?_)
  · exact hnames (List.Subset.trans (List.filter_subset_self _) (List.filter_subset_self _))
  · exact hnames (List.Subset.trans (List.filter_subset_self _) (List.filter_subset_self _))
  · exact hnames (List.filter_subset_self _)

theorem focus (facts : Facts) :
    Yields (fun outcome => outcome.findings.OnPages object) (checkFocus object facts) := by
  refine .bind_ok fun pages hpages => ?_
  refine .bind (.mapM fun stage hstage => h.hasPage_stageRoles navigateRole
    (descendants_subset_of_mem_stagesOf hstage)) fun navigations hnavigations => ?_
  refine .bind (.mapM fun stage hstage => h.hasPage_stageRoles readRole
    (descendants_subset_of_mem_stagesOf hstage)) fun reads hreads => ?_
  refine .pure (h.onPages_judgeFocus hpages fun found hfound => ?_)
  rw [List.mem_append, List.mem_flatten, List.mem_flatten] at hfound
  rcases hfound with ⟨roles, hroles, hfound⟩ | ⟨roles, hroles, hfound⟩
  · exact hnavigations roles hroles found hfound
  · exact hreads roles hroles found hfound

end Paged

/-! ## All of these checks -/

/-- In an object that stands alone, in which every page id is that of one of its own pages and each
of these has a name, the findings on pages are each at the name of one of these pages. -/
theorem findings_are_on_pages {c : Consideration} (hc : c ∈ Consideration.onPages) {e : Element}
    (h : Paged (.alone e)) {isDate : DateReader} {facts : Facts} {outcome : Outcome}
    (hcheck : c.check isDate (.alone e) facts = .ok outcome) :
    ∀ finding ∈ outcome.findings.errors ++ outcome.findings.warnings,
      ∃ page ∈ pagesOf (.alone e), ∃ name,
        pageName page = .ok (some name) ∧ finding.location = some name := by
  suffices hyields : Yields (fun outcome => outcome.findings.OnPages (.alone e))
      (c.check isDate (.alone e) facts) from hyields outcome hcheck
  simp only [Consideration.onPages, List.mem_cons, List.not_mem_nil, or_false] at hc
  rcases hc with rfl | rfl | rfl | rfl | rfl | rfl | rfl | rfl | rfl | rfl | rfl | rfl | rfl | rfl
  · exact h.useAttach facts
  · exact h.startWait facts
  · exact h.notArbitrary facts
  · exact h.navigate facts
  · exact h.waitTimeout facts
  · exact h.reuse facts
  · exact h.businessLogic facts
  · exact h.actionCalled rfl facts
  · exact h.actionSize facts
  · exact h.typeDetail facts
  · exact h.exceptionType facts
  · exact h.recover facts
  · exact h.images facts
  · exact h.focus facts

/-- An object with two pages, the second of which sends keys to whatever window is in front. -/
def typingObject : Element :=
  let page (id name : String) : Node :=
    .element "subsheet" [("subsheetid", id)] [.element "name" [] [.leaf .text name]]
  let step : Node := .element "step" []
    [.element "action" [] [.element "id" [] [.leaf .text "SendKeys"]]]
  ⟨"process", [], [page "1" "Open", page "2" "Type",
    .element "stage" [("type", "Navigate")] [.element "subsheetid" [] [.leaf .text "2"], step]]⟩

theorem typingObject_paged : Paged (.alone typingObject) where
  ids id hid := by
    obtain rfl : id = ⟨"subsheetid", [], [.leaf .text "2"]⟩ := List.mem_singleton.mp hid
    exact ⟨_, List.mem_cons_of_mem _ (List.mem_singleton_self _), rfl⟩
  names page hpage := by
    rcases List.mem_pair.mp hpage with rfl | rfl
    · exact ⟨"Open", rfl⟩
    · exact ⟨"Type", rfl⟩

/-- The keys are sent by a page of the object, and there is no other finding. -/
theorem keys_are_sent_by_a_page :
    Paged (.alone typingObject) ∧ ∃ outcome,
      Consideration.focus.check Calendar.recognise (.alone typingObject)
        ⟨.ok .base, .ok false, .ok false⟩ = .ok outcome ∧ outcome.findings.errors.length = 1 ∧
      ∀ finding ∈ outcome.findings.errors ++ outcome.findings.warnings,
        ∃ page ∈ pagesOf (.alone typingObject), ∃ name,
          pageName page = .ok (some name) ∧ finding.location = some name := by
  obtain ⟨outcome, hcheck, hone⟩ : ∃ outcome,
      Consideration.focus.check Calendar.recognise (.alone typingObject)
        ⟨.ok .base, .ok false, .ok false⟩ = .ok outcome ∧ outcome.findings.errors.length = 1 :=
    ⟨_, rfl, rfl⟩
  exact ⟨typingObject_paged, outcome, hcheck, hone,
    findings_are_on_pages (by decide) typingObject_paged hcheck⟩

end ReleaseReview
