import ReleaseReview.Check.Focus
import ReleaseReview.Proofs.MixedPages

/-!
# Steps that need the window in front

The check of focus goes through the steps of an object's stages and keeps what they mean for the
focus, with the page that each is on (`stageRoles`). `OnPage` says of a page and a role that some
stage of the page has a step with this role, by the name of the step alone. What the check keeps are
exactly these pairs (`mem_roles_iff`), as often as they come.

From them it makes lists of pages without repetition and takes one from another.
`focus_findings_by_page` says that in the end each page has the finding it should have, once.
-/

namespace ReleaseReview

open Markup Text

/-! ## What steps mean -/

/-- A navigation by this name works on the window in front. -/
def IsGlobalNavigate (name : String) : Prop :=
  name ≠ "ActivateApp" ∧ ∃ word ∈ globalNavigateSteps, word.toList <:+: name.toList

/-- To read by this name is to read off the window in front. -/
def IsGlobalRead (name : String) : Prop :=
  ∃ word ∈ globalReadSteps, word.toList <:+: name.toList

/-- One of the stage's steps has such a name. -/
def HasStep (stage : Element) (P : String → Prop) : Prop :=
  ∃ step ∈ stage.childrenNamed "step", ∃ name, stepName step = .ok (some name) ∧ P name

/-- The page is that of a stage of this type with a step of such a name. -/
def PageHas (object : Placed) (type : String) (P : String → Prop) (id : Option String) : Prop :=
  ∃ stage ∈ stagesOf object type, pageId stage.toElement = .ok id ∧ HasStep stage.toElement P

/-- A step on the page has this role. -/
def OnPage (object : Placed) : FocusRole → Option String → Prop
  | .activates => PageHas object "Navigate" (· = "ActivateApp")
  | .focuses => PageHas object "Navigate" (· = "AAFocus")
  | .navigates => PageHas object "Navigate" IsGlobalNavigate
  | .reads => PageHas object "Read" IsGlobalRead
  | .neutral => fun _ => False

/-- One of the object's steps works on the window in front. -/
def GlobalStep (object : Placed) : Prop :=
  (∃ stage ∈ stagesOf object "Navigate", HasStep stage.toElement IsGlobalNavigate) ∨
    ∃ stage ∈ stagesOf object "Read", HasStep stage.toElement IsGlobalRead

theorem anyOccurs_iff {words : List String} {text : String} :
    anyOccurs words text = true ↔ ∃ word ∈ words, word.toList <:+: text.toList := by
  simp only [anyOccurs, List.any_eq_true, occurs, occursIn_iff]

theorem isGlobalNavigate_iff {name : String} :
    IsGlobalNavigate name ↔ name ≠ "ActivateApp" ∧ anyOccurs globalNavigateSteps name = true := by
  rw [IsGlobalNavigate, anyOccurs_iff]

theorem isGlobalRead_iff {name : String} :
    IsGlobalRead name ↔ anyOccurs globalReadSteps name = true := by
  rw [IsGlobalRead, anyOccurs_iff]

/-- The names by which a navigation step has this role. -/
def NavigateMeans : FocusRole → String → Prop
  | .activates => (· = "ActivateApp")
  | .focuses => (· = "AAFocus")
  | .navigates => IsGlobalNavigate
  | _ => fun _ => False

/-- The names by which a reading step has this role. -/
def ReadMeans : FocusRole → String → Prop
  | .reads => IsGlobalRead
  | _ => fun _ => False

theorem navigateRole_some (text : String) :
    navigateRole (some text) = .ok (if text = "ActivateApp" then .activates
      else if anyOccurs globalNavigateSteps text then .navigates
      else if text = "AAFocus" then .focuses else .neutral) := by
  simp only [navigateRole, stepHas, Option.some.injEq, ok_bind]
  split_ifs <;> rfl

theorem navigateRole_iff {name : Option String} {role : FocusRole} (hrole : role ≠ .neutral) :
    navigateRole name = .ok role ↔ ∃ text, name = some text ∧ NavigateMeans role text := by
  cases name with
  | none => simp [navigateRole, stepHas, bind, Except.bind]
  | some text =>
    -- The three names exclude one another, so the order in which they are tried does not matter.
    have hfocus : ∀ text, anyOccurs globalNavigateSteps text = true → text ≠ "AAFocus" := by
      rintro _ h rfl
      revert h
      decide
    rw [navigateRole_some, Except.ok.injEq]
    simp only [Option.some.injEq, exists_eq_left']
    by_cases hactivates : text = "ActivateApp"
    · cases role <;> simp_all [NavigateMeans, isGlobalNavigate_iff]
    · by_cases hglobal : anyOccurs globalNavigateSteps text = true
      · cases role <;> simp_all [NavigateMeans, isGlobalNavigate_iff]
      · by_cases hfocuses : text = "AAFocus" <;> cases role <;>
          simp_all [NavigateMeans, isGlobalNavigate_iff]

theorem readRole_iff {name : Option String} {role : FocusRole} (hrole : role ≠ .neutral) :
    readRole name = .ok role ↔ ∃ text, name = some text ∧ ReadMeans role text := by
  cases name with
  | none => simp [readRole, stepHas, bind, Except.bind]
  | some text =>
    simp only [readRole, stepHas, ok_bind, pure_eq_ok, Option.some.injEq, exists_eq_left']
    by_cases hglobal : anyOccurs globalReadSteps text = true <;> cases role <;>
      simp_all [ReadMeans, isGlobalRead_iff]

/-! ## What the check keeps of a stage -/

/-- What is kept of a step: nothing if it is neutral, else its role and the page of its stage. -/
inductive StepKept (role : Option String → Except Fault FocusRole) (stage step : Element) :
    Option (FocusRole × Option String) → Prop
  | neutral {name : Option String} (hname : stepName step = .ok name)
    (hrole : role name = .ok .neutral) : StepKept role stage step none
  | found {name : Option String} {found : FocusRole} {id : Option String}
    (hname : stepName step = .ok name) (hrole : role name = .ok found) (hne : found ≠ .neutral)
    (hid : pageId stage = .ok id) : StepKept role stage step (some (found, id))

theorem stageRoles_eq_ok {role : Option String → Except Fault FocusRole} {stage : Element}
    {roles : List (FocusRole × Option String)} (h : stageRoles role stage = .ok roles) :
    ∃ kept, roles = kept.filterMap id ∧
      List.Forall₂ (StepKept role stage) (stage.childrenNamed "step") kept := by
  obtain ⟨kept, hkept, h⟩ := bind_eq_ok.mp h
  refine ⟨kept, (pure_eq_ok.mp h).symm, (mapM_eq_ok_iff.mp hkept).imp fun step o ho => ?_⟩
  obtain ⟨name, hname, ho⟩ := bind_eq_ok.mp ho
  obtain ⟨found, hfound, ho⟩ := bind_eq_ok.mp ho
  split at ho
  · rw [← pure_eq_ok.mp ho]
    exact .neutral hname hfound
  next hne =>
    obtain ⟨id, hid, ho⟩ := bind_eq_ok.mp ho
    rw [← pure_eq_ok.mp ho]
    exact .found hname hfound hne hid

section

variable {role : Option String → Except Fault FocusRole} {Means : FocusRole → String → Prop}
  (hmeans : ∀ {name : Option String} {found : FocusRole}, found ≠ .neutral →
    (role name = .ok found ↔ ∃ text, name = some text ∧ Means found text))

include hmeans

/-- If a step of the stage has a role, it is kept with the page of the stage. -/
theorem exists_of_hasStep {stage : Element} {roles : List (FocusRole × Option String)}
    (h : stageRoles role stage = .ok roles) {found : FocusRole} (hne : found ≠ .neutral)
    (hstep : HasStep stage (Means found)) : ∃ id, pageId stage = .ok id ∧ (found, id) ∈ roles := by
  obtain ⟨kept, rfl, hall⟩ := stageRoles_eq_ok h
  obtain ⟨step, hmem, text, hname, htext⟩ := hstep
  obtain ⟨o, ho, hkept⟩ := exists_of_forall₂ hall.flip step hmem
  have hrole : role (some text) = .ok found := (hmeans hne).mpr ⟨text, rfl, htext⟩
  cases hkept with
  | neutral hname' hrole' =>
    cases hname.symm.trans hname'
    exact absurd (Except.ok.inj (hrole.symm.trans hrole')) hne
  | found hname' hrole' _ hid =>
    cases hname.symm.trans hname'
    cases hrole.symm.trans hrole'
    exact ⟨_, hid, List.mem_filterMap.mpr ⟨_, ho, rfl⟩⟩

/-- What is kept of a stage are the roles of its steps, with the page of the stage. -/
theorem mem_stageRoles_iff {stage : Element} {roles : List (FocusRole × Option String)}
    (h : stageRoles role stage = .ok roles) {found : FocusRole} {id : Option String} :
    (found, id) ∈ roles ↔
      found ≠ .neutral ∧ pageId stage = .ok id ∧ HasStep stage (Means found) := by
  constructor
  · intro hfound
    obtain ⟨kept, rfl, hall⟩ := stageRoles_eq_ok h
    obtain ⟨o, ho, rfl⟩ := List.mem_filterMap.mp hfound
    obtain ⟨step, hmem, hkept⟩ := exists_of_forall₂ hall _ ho
    cases hkept with
    | found hname hrole hne hid =>
      obtain ⟨text, rfl, htext⟩ := (hmeans hne).mp hrole
      exact ⟨hne, hid, step, hmem, text, hname, htext⟩
  · rintro ⟨hne, hid, hstep⟩
    obtain ⟨other, hother, hmem⟩ := exists_of_hasStep hmeans h hne hstep
    cases hid.symm.trans hother
    exact hmem

variable {object : Placed} {type : String} {lists : List (List (FocusRole × Option String))}
  (hlists : (stagesOf object type).mapM (fun stage => stageRoles role stage.toElement) = .ok lists)

include hlists

/-- What is kept of all stages of a type. -/
theorem mem_flatten_iff {found : FocusRole} {id : Option String} :
    (found, id) ∈ lists.flatten ↔ found ≠ .neutral ∧ PageHas object type (Means found) id := by
  rw [List.mem_flatten]
  constructor
  · rintro ⟨roles, hroles, hfound⟩
    obtain ⟨stage, hstage, h⟩ := exists_of_forall₂ (mapM_eq_ok_iff.mp hlists) roles hroles
    obtain ⟨hne, hid, hstep⟩ := (mem_stageRoles_iff hmeans h).mp hfound
    exact ⟨hne, stage, hstage, hid, hstep⟩
  · rintro ⟨hne, stage, hstage, hid, hstep⟩
    obtain ⟨roles, hroles, h⟩ := exists_mem_of_mapM_eq_ok hlists stage hstage
    exact ⟨roles, hroles, (mem_stageRoles_iff hmeans h).mpr ⟨hne, hid, hstep⟩⟩

/-- A role that some step has is kept for some page. -/
theorem exists_pageHas_iff (found : FocusRole) (hne : found ≠ .neutral) :
    (∃ id, PageHas object type (Means found) id) ↔
      ∃ stage ∈ stagesOf object type, HasStep stage.toElement (Means found) := by
  constructor
  · rintro ⟨id, stage, hstage, -, hstep⟩
    exact ⟨stage, hstage, hstep⟩
  · rintro ⟨stage, hstage, hstep⟩
    obtain ⟨roles, -, h⟩ := exists_mem_of_mapM_eq_ok hlists stage hstage
    obtain ⟨id, hid, -⟩ := exists_of_hasStep hmeans h hne hstep
    exact ⟨id, stage, hstage, hid, hstep⟩

end

theorem onPage_iff {object : Placed} {role : FocusRole} {id : Option String} :
    OnPage object role id ↔ role ≠ .neutral ∧
      (PageHas object "Navigate" (NavigateMeans role) id ∨
        PageHas object "Read" (ReadMeans role) id) := by
  cases role <;> simp [OnPage, NavigateMeans, ReadMeans, PageHas, HasStep]

/-! ## Pages with a role -/

section

variable {object : Placed} {navigations reads : List (List (FocusRole × Option String))}
  (hnavigations : (stagesOf object "Navigate").mapM
    (fun stage => stageRoles navigateRole stage.toElement) = .ok navigations)
  (hreads : (stagesOf object "Read").mapM
    (fun stage => stageRoles readRole stage.toElement) = .ok reads)

include hnavigations hreads

/-- What the check keeps of the stages are the roles of the steps with their pages. -/
theorem mem_roles_iff {role : FocusRole} {id : Option String} :
    (role, id) ∈ navigations.flatten ++ reads.flatten ↔ OnPage object role id := by
  rw [List.mem_append, mem_flatten_iff navigateRole_iff hnavigations,
    mem_flatten_iff readRole_iff hreads, onPage_iff, and_or_left]

/-- Something is kept that works on the window in front if there is such a step. -/
theorem exists_isGlobal_iff :
    (∃ found ∈ navigations.flatten ++ reads.flatten, isGlobal found.1 = true) ↔
      GlobalStep object := by
  have hroles : (∃ found ∈ navigations.flatten ++ reads.flatten, isGlobal found.1 = true) ↔
      (∃ id, OnPage object .navigates id) ∨ ∃ id, OnPage object .reads id := by
    simp only [← mem_roles_iff hnavigations hreads]
    constructor
    · rintro ⟨⟨role, id⟩, hfound, hglobal⟩
      rcases of_decide_eq_true hglobal with rfl | rfl
      · exact .inl ⟨id, hfound⟩
      · exact .inr ⟨id, hfound⟩
    · rintro (⟨id, hfound⟩ | ⟨id, hfound⟩)
      · exact ⟨_, hfound, rfl⟩
      · exact ⟨_, hfound, rfl⟩
  have hnavigate : (∃ id, OnPage object .navigates id) ↔ _ :=
    exists_pageHas_iff navigateRole_iff hnavigations .navigates nofun
  have hread : (∃ id, OnPage object .reads id) ↔ _ :=
    exists_pageHas_iff readRole_iff hreads .reads nofun
  rw [hroles, hnavigate, hread]
  rfl

end

/-! ## Lists of pages -/

namespace Enumerates

variable {α : Type} {items : List α} {P Q : α → Prop}

theorem congr (h : Enumerates items P) (hPQ : ∀ a, P a ↔ Q a) : Enumerates items Q :=
  ⟨h.nodup, fun a => (h.mem_iff a).trans (hPQ a)⟩

theorem filter (h : Enumerates items P) {keep : α → Bool} (hkeep : ∀ a, keep a = true ↔ Q a) :
    Enumerates (items.filter keep) (fun a => P a ∧ Q a) :=
  ⟨h.nodup.filter _, fun a => by rw [List.mem_filter, h.mem_iff, hkeep]⟩

theorem eq_nil (h : Enumerates items P) (hP : ∀ a, ¬P a) : items = [] :=
  List.eq_nil_iff_forall_not_mem.mpr fun a ha => hP a ((h.mem_iff a).mp ha)

end Enumerates

/-- The pages with a role are listed once each. -/
theorem enumerates_pagesIn {roles : List (FocusRole × Option String)} {role : FocusRole}
    {P : Option String → Prop} (h : ∀ id, (role, id) ∈ roles ↔ P id) :
    Enumerates (pagesIn roles role) P where
  nodup := nodup_eraseDups _
  mem_iff id := by
    rw [← h id, pagesIn, List.mem_eraseDups, List.mem_map]
    constructor
    · rintro ⟨⟨other, _⟩, hfound, rfl⟩
      obtain ⟨hmem, hrole⟩ := List.mem_filter.mp hfound
      obtain rfl : other = role := of_decide_eq_true hrole
      exact hmem
    · intro hmem
      exact ⟨(role, id), List.mem_filter.mpr ⟨hmem, decide_eq_true rfl⟩, rfl⟩

/-- The pages with a role on which the application is not activated. -/
def unactivated (roles : List (FocusRole × Option String)) (role : FocusRole) :
    List (Option String) :=
  (pagesIn roles role).filter fun id => !(pagesIn roles .activates).contains id

theorem errors_judgeFocus (pages : PageIndex) (roles : List (FocusRole × Option String)) :
    (judgeFocus pages roles).errors =
      (((unactivated roles .navigates).filter fun id =>
          !(unactivated roles .focuses).contains id).map fun id =>
        ⟨some "Global click or send key in Action without an 'Activate Application' stage",
          pages.nameOf id⟩) ++
      (unactivated roles .reads).map fun id =>
        ⟨some "Global Read stage within Action without an 'Activate Application' stage",
          pages.nameOf id⟩ :=
  rfl

theorem warnings_judgeFocus (pages : PageIndex) (roles : List (FocusRole × Option String)) :
    (judgeFocus pages roles).warnings =
      ((unactivated roles .focuses).filter (unactivated roles .navigates).contains).map fun id =>
        ⟨some "Global click or send key with a 'FocusAA' but no 'Activate Application' stage",
          pages.nameOf id⟩ := by
  simp only [judgeFocus, warnEach, errorEach, Findings.warnings_append, List.append_nil]
  rfl

theorem enumerates_unactivated {roles : List (FocusRole × Option String)}
    {On : FocusRole → Option String → Prop} (h : ∀ role id, (role, id) ∈ roles ↔ On role id)
    (role : FocusRole) :
    Enumerates (unactivated roles role) (fun id => On role id ∧ ¬On .activates id) := by
  refine (enumerates_pagesIn (h role)).filter fun id => ?_
  rw [← (enumerates_pagesIn (h .activates)).mem_iff, Bool.not_eq_true', ← Bool.not_eq_true,
    List.contains_iff_mem]

section

variable {roles : List (FocusRole × Option String)} {On : FocusRole → Option String → Prop}
  (h : ∀ role id, (role, id) ∈ roles ↔ On role id)

include h

theorem enumerates_blamed :
    Enumerates ((unactivated roles .navigates).filter fun id =>
        !(unactivated roles .focuses).contains id)
      (fun id => On .navigates id ∧ ¬On .activates id ∧ ¬On .focuses id) := by
  have hfocused : ∀ id, (!(unactivated roles .focuses).contains id) = true ↔
      ¬(On .focuses id ∧ ¬On .activates id) := by
    intro id
    rw [← (enumerates_unactivated h .focuses).mem_iff, Bool.not_eq_true', ← Bool.not_eq_true,
      List.contains_iff_mem]
  refine ((enumerates_unactivated h .navigates).filter hfocused).congr fun id => ?_
  tauto

theorem enumerates_warned :
    Enumerates ((unactivated roles .focuses).filter (unactivated roles .navigates).contains)
      (fun id => On .navigates id ∧ On .focuses id ∧ ¬On .activates id) := by
  have hnavigated : ∀ id, (unactivated roles .navigates).contains id = true ↔
      On .navigates id ∧ ¬On .activates id := by
    intro id
    rw [List.contains_iff_mem, (enumerates_unactivated h .navigates).mem_iff]
  refine ((enumerates_unactivated h .focuses).filter hnavigated).congr fun id => ?_
  tauto

end

/-- Each page has the finding it should have, once. A page with a step that works on the window in
front and none that activates the application has an error, or a warning if it sets the focus and
the step is a navigation. The check does not apply if there is no such step. -/
theorem focus_findings_by_page {object : Placed} {facts : Facts} {outcome : Outcome}
    (h : checkFocus object facts = .ok outcome) :
    ∃ (pages : PageIndex) (blamed warned blamedReads : List (Option String)),
      PageIndex.of object = .ok pages ∧
      Enumerates blamed (fun id => OnPage object .navigates id ∧ ¬OnPage object .activates id ∧
        ¬OnPage object .focuses id) ∧
      Enumerates warned (fun id => OnPage object .navigates id ∧ OnPage object .focuses id ∧
        ¬OnPage object .activates id) ∧
      Enumerates blamedReads (fun id => OnPage object .reads id ∧ ¬OnPage object .activates id) ∧
      outcome.findings.errors =
        (blamed.map fun id => ⟨some
          "Global click or send key in Action without an 'Activate Application' stage",
          pages.nameOf id⟩) ++
        (blamedReads.map fun id => ⟨some
          "Global Read stage within Action without an 'Activate Application' stage",
          pages.nameOf id⟩) ∧
      outcome.findings.warnings =
        (warned.map fun id => ⟨some
          "Global click or send key with a 'FocusAA' but no 'Activate Application' stage",
          pages.nameOf id⟩) ∧
      (outcome.ruling = some .notApplicable ↔ ¬GlobalStep object) ∧
      (outcome.ruling = some .notApplicable →
        outcome.findings.errors = [] ∧ outcome.findings.warnings = []) := by
  obtain ⟨pages, hpages, h⟩ := bind_eq_ok.mp h
  obtain ⟨navigations, hnavigations, h⟩ := bind_eq_ok.mp h
  obtain ⟨reads, hreads, h⟩ := bind_eq_ok.mp h
  obtain rfl := pure_eq_ok.mp h
  have hroles : ∀ role id, (role, id) ∈ navigations.flatten ++ reads.flatten ↔
      OnPage object role id := fun _ _ => mem_roles_iff hnavigations hreads
  have hblamed := enumerates_blamed hroles
  have hwarned := enumerates_warned hroles
  have hblamedReads := enumerates_unactivated hroles .reads
  have hruling : (if (navigations.flatten ++ reads.flatten).any (fun found => isGlobal found.1)
      then none else some Ruling.notApplicable) = some .notApplicable ↔ ¬GlobalStep object := by
    rw [← exists_isGlobal_iff hnavigations hreads, ← List.any_eq_true]
    split
    next hany => exact iff_of_false nofun (not_not_intro hany)
    next hany => exact iff_of_true rfl hany
  refine ⟨pages, _, _, _, hpages, hblamed, hwarned, hblamedReads, errors_judgeFocus pages _,
    warnings_judgeFocus pages _, hruling, fun hnone => ?_⟩
  have hnavigates : ∀ id, ¬OnPage object .navigates id := fun id ⟨stage, hstage, _, hstep⟩ =>
    hruling.mp hnone (.inl ⟨stage, hstage, hstep⟩)
  have hno : ∀ id, ¬OnPage object .reads id := fun id ⟨stage, hstage, _, hstep⟩ =>
    hruling.mp hnone (.inr ⟨stage, hstage, hstep⟩)
  constructor
  · rw [errors_judgeFocus, hblamed.eq_nil fun id hid => hnavigates id hid.1,
      hblamedReads.eq_nil fun id hid => hno id hid.1]
    rfl
  · rw [warnings_judgeFocus, hwarned.eq_nil fun id hid => hnavigates id hid.1]
    rfl

/-- A page that only sets the focus before it sends keys, and one that activates the application. -/
def typingPages : Placed :=
  objectWithPages [("1", "Enter"), ("2", "Close")]
    [steppedStage "Navigate" "1" ["AAFocus", "UIASendKeys"],
     steppedStage "Navigate" "2" ["MouseClick", "ActivateApp"], steppedStage "Read" "2" ["GetText"]]

/-- The page that sets the focus has the one warning, and there are no errors. -/
theorem focused_page_is_warned :
    ∃ outcome, checkFocus typingPages ⟨.ok .base, .ok false, .ok false⟩ = .ok outcome ∧
      outcome.findings.errors = [] ∧ outcome.ruling ≠ some .notApplicable ∧
      ⟨some "Global click or send key with a 'FocusAA' but no 'Activate Application' stage",
        some "Enter"⟩ ∈ outcome.findings.warnings := by
  obtain ⟨outcome, hcheck, hnone⟩ : ∃ outcome,
      checkFocus typingPages ⟨.ok .base, .ok false, .ok false⟩ = .ok outcome ∧
        outcome.findings.errors = [] := ⟨_, rfl, by decide +kernel⟩
  obtain ⟨pages, blamed, warned, blamedReads, hpages, -, hwarned, -, -, hwarnings, hruling, -⟩ :=
    focus_findings_by_page hcheck
  have hsends : HasStep (steppedStage "Navigate" "1" ["AAFocus", "UIASendKeys"])
      IsGlobalNavigate :=
    ⟨_, List.mem_of_getElem? (i := 1) rfl, _, rfl, isGlobalNavigate_iff.mpr (by decide)⟩
  have hfocuses : OnPage typingPages .focuses (some "1") :=
    ⟨_, List.mem_of_getElem? (i := 0) rfl, rfl, _, List.mem_of_getElem? (i := 0) rfl, _, rfl, rfl⟩
  have hnot : ¬OnPage typingPages .activates (some "1") := by
    rintro ⟨stage, hstage, hid, step, hstep, name, hname, rfl⟩
    rcases List.mem_pair.mp hstage with rfl | rfl
    · rcases List.mem_pair.mp hstep with rfl | rfl <;>
        exact absurd (Option.some.inj (Except.ok.inj hname)) (by decide)
    · exact absurd (Option.some.inj (Except.ok.inj hid)) (by decide)
  have hmem : some "1" ∈ warned := (hwarned.mem_iff _).mpr
    ⟨⟨_, List.mem_of_getElem? (i := 0) rfl, rfl, hsends⟩, hfocuses, hnot⟩
  refine ⟨outcome, hcheck, hnone, fun h => hruling.mp h ?_, ?_⟩
  · exact .inl ⟨_, List.mem_of_getElem? (i := 0) rfl, hsends⟩
  · cases hpages
    rw [hwarnings]
    exact List.mem_map.mpr ⟨_, hmem, rfl⟩

end ReleaseReview
