import ReleaseReview.Check.Navigate
import ReleaseReview.Proofs.TimeoutWalk

/-!
# Navigations and their findings

The check of navigations goes through an object's navigations one by one. Each gives rise to one
finding at most, and to none if there is a reason not to wait after it (`Excused`): the page that it
is on, the stage that comes next but for anchors (`LeadsPast`), or a pause of its own.

Any other navigation is judged by its steps, as far as they work on an element. `StepsCase` lists
what the steps can come to. If none of them works on an element, the error keeps the text that it
began with, which is empty. `navigations_and_findings` says that this is the only way to an error
without a text.
-/

namespace ReleaseReview

open Markup Placed Text

/-! ## The stage after a navigation -/

/-- The first stage behind a stage that is not an anchor is of this type. -/
inductive LeadsPast (object : Element) : Element → Option String → Prop
  | direct {stage next : Element} (hnext : successor? stage object = some next)
      (htype : next.attr? "type" ≠ some "Anchor") : LeadsPast object stage (next.attr? "type")
  | anchor {stage next : Element} {type : Option String}
      (hnext : successor? stage object = some next) (htype : next.attr? "type" = some "Anchor")
      (hrest : LeadsPast object next type) : LeadsPast object stage type

theorem leadsPast_of_afterAnchors {object stage : Element} {fuel : Nat} {type : Option String}
    (h : afterAnchors object fuel stage = .ok type) : LeadsPast object stage type := by
  induction fuel generalizing stage with
  | zero => cases h
  | succ fuel ih =>
    obtain ⟨link, hlink, h⟩ := bind_eq_ok.mp h
    obtain ⟨next, hnext, h⟩ := bind_eq_ok.mp h
    have hsuccessor := (successor?_eq_stageWithId? (need_eq_ok_iff.mp hlink) rfl).trans
      (need_eq_ok_iff.mp hnext)
    dsimp only at h
    split at h
    next hanchor => exact .anchor hsuccessor hanchor (ih h)
    next hanchor =>
      obtain rfl := pure_eq_ok.mp h
      exact .direct hsuccessor hanchor

theorem LeadsPast.unique {object stage : Element} {type other : Option String}
    (h : LeadsPast object stage type) (hother : LeadsPast object stage other) : type = other := by
  induction h generalizing other with
  | direct hnext htype =>
    cases hother with
    | direct hnext' =>
      rw [hnext] at hnext'
      rw [Option.some.inj hnext']
    | anchor hnext' htype' =>
      rw [hnext] at hnext'
      exact absurd (Option.some.inj hnext' ▸ htype') htype
  | anchor hnext htype _ ih =>
    cases hother with
    | direct hnext' htype' =>
      rw [hnext] at hnext'
      exact absurd (Option.some.inj hnext' ▸ htype) htype'
    | anchor hnext' _ hrest' =>
      rw [hnext] at hnext'
      exact ih (Option.some.inj hnext' ▸ hrest')

/-! ## Reasons not to wait -/

/-- The navigation leads on to something. -/
def Connected (navigation : Element) : Prop :=
  ∃ link, navigation.within? "onsuccess" = some link

/-- There is a reason not to wait after the navigation. -/
inductive Excused (object : Placed) (navigation : Element) : Prop
  /-- The page is for coming to the application or for leaving it. -/
  | page {name : String} (hpage : pageOf object navigation = .ok (some name))
      (hword : ∃ word ∈ unawaitedWords, word.toList <:+: (lower name).toList)
  | waits (hnext : LeadsPast object navigation (some "WaitStart"))
  | ends (hnext : LeadsPast object navigation (some "End"))
  /-- The navigation pauses after each step. -/
  | pauses (hinterval : navigation.hasAttr "interval" = true)

theorem lower_unawaitedWords : ∀ word ∈ unawaitedWords, lower word = word := by
  decide +kernel

theorem notBlacklisted_unawaitedWords {name : String} :
    notBlacklisted unawaitedWords name = false ↔
      ∃ word ∈ unawaitedWords, word.toList <:+: (lower name).toList := by
  simp only [notBlacklisted, Bool.not_eq_false', List.any_eq_true]
  refine exists_congr fun word => and_congr_right fun hword => ?_
  rw [lower_unawaitedWords word hword, occurs, occursIn_iff]

theorem excused_iff_of_listed {object : Placed} {navigation : Element} {name : String}
    {type : Option String} (hpage : pageOf object navigation = .ok (some name))
    (hlisted : notBlacklisted unawaitedWords name = true)
    (htype : LeadsPast object navigation type) :
    Excused object navigation ↔
      type = some "WaitStart" ∨ type = some "End" ∨ navigation.hasAttr "interval" = true := by
  constructor
  · intro h
    cases h with
    | page hpage' hword =>
      rw [hpage] at hpage'
      obtain rfl : name = _ := Option.some.inj (Except.ok.inj hpage')
      rw [notBlacklisted_unawaitedWords.mpr hword] at hlisted
      cases hlisted
    | waits hnext => exact .inl (htype.unique hnext)
    | ends hnext => exact .inr (.inl (htype.unique hnext))
    | pauses hinterval => exact .inr (.inr hinterval)
  · rintro (rfl | rfl | hinterval)
    · exact .waits htype
    · exact .ends htype
    · exact .pauses hinterval

/-! ## Steps of a navigation -/

/-- The step names no element to work on. -/
def Untargeted (step : Element) : Prop :=
  ∃ target, step.within? "element" = some target ∧ target.isSet "id" = false

/-- What is said of a navigation that is not followed by a wait. -/
def unawaited (navigation : Element) : String :=
  "Navigate stage not followed by a Wait stage: '" ++ shown (navigation.attr? "name") ++ "'"

/-- What is said of a navigation whose element is in the model of another object. -/
def undetermined (navigation : Element) : String :=
  "Navigate '" ++ shown (navigation.attr? "name") ++
    "' not followed by a Wait or End, but App Model " ++
    "is inherited so can't determine if a Wait is necessary"

/-- What the steps of a navigation come to, when the error so far is `error`. -/
inductive StepsCase (navigation : Element) (action : Option String) (error : String)
    (steps : List Element) : Findings → Prop
  | untargeted (hsteps : ∀ step ∈ steps, Untargeted step) :
    StepsCase navigation action error steps (.error error action)
  | selects (hsteps : ∃ step ∈ steps, ¬Untargeted step) :
    StepsCase navigation action error steps .none
  | unknown (hsteps : ∃ step ∈ steps, ¬Untargeted step) :
    StepsCase navigation action error steps (.warning (undetermined navigation) action)
  | works (hsteps : ∃ step ∈ steps, ¬Untargeted step) :
    StepsCase navigation action error steps (.error (unawaited navigation) action)

theorem readStep_of_untargeted (object : Element) {step : Element} (h : Untargeted step) :
    readStep object step = .ok .idle := by
  obtain ⟨target, htarget, hset⟩ := h
  rw [readStep, htarget, need_some, ok_bind]
  unfold Element.isSet at hset
  split
  next => rfl
  next id hid =>
    rw [hid] at hset
    rw [if_pos (by simpa using hset)]
    rfl

theorem untargeted_of_readStep {object step : Element} (h : readStep object step = .ok .idle) :
    Untargeted step := by
  obtain ⟨target, htarget, h⟩ := bind_eq_ok.mp h
  refine ⟨target, need_eq_ok_iff.mp htarget, ?_⟩
  unfold Element.isSet
  split at h
  next hid => rw [hid]
  next id hid =>
    rw [hid]
    split at h
    next hempty => simpa using hempty
    next =>
      exfalso
      split at h
      next => cases h
      next element =>
        obtain ⟨datatype, -, h⟩ := bind_eq_ok.mp h
        split at h
        next => cases h
        next =>
          split at h
          next => cases h
          next type =>
            have hreading := pure_eq_ok.mp h
            split at hreading <;> cases hreading

variable {navigation : Element} {action : Option String} {error : String} {steps : List Element}
  {share : Findings}

theorem stepsCase_of_judgeSteps {object : Element}
    (h : judgeSteps object navigation action error steps = .ok share) :
    StepsCase navigation action error steps share := by
  induction steps generalizing error with
  | nil =>
    obtain rfl := Except.ok.inj h
    exact .untargeted nofun
  | cons step steps ih =>
    obtain ⟨reading, hreading, h⟩ := bind_eq_ok.mp h
    have htargeted : reading ≠ .idle → ∃ other ∈ step :: steps, ¬Untargeted other := by
      refine fun hne => ⟨step, List.mem_cons_self, fun huntargeted => hne ?_⟩
      rw [readStep_of_untargeted object huntargeted] at hreading
      exact (Except.ok.inj hreading).symm
    cases reading with
    | idle =>
      have hstep := untargeted_of_readStep hreading
      cases ih h with
      | untargeted hsteps => exact .untargeted (List.forall_mem_cons.mpr ⟨hstep, hsteps⟩)
      | selects hsteps => exact .selects (List.exists_mem_cons_of_exists hsteps)
      | unknown hsteps => exact .unknown (List.exists_mem_cons_of_exists hsteps)
      | works hsteps => exact .works (List.exists_mem_cons_of_exists hsteps)
    | selects =>
      obtain rfl := pure_eq_ok.mp h
      exact .selects (htargeted nofun)
    | works =>
      -- From here on the error has its text, so that it does not matter what the rest works on.
      cases ih h with
      | untargeted => exact .works (htargeted nofun)
      | selects => exact .selects (htargeted nofun)
      | unknown => exact .unknown (htargeted nofun)
      | works => exact .works (htargeted nofun)
    | unknown =>
      obtain rfl := pure_eq_ok.mp h
      exact .unknown (htargeted nofun)

/-! ## The findings on a navigation -/

/-- What a navigation comes to. -/
inductive NavigationCase (object : Placed) (navigation : Element) : Findings → Prop
  | unconnected {page : Option String} (hlink : ¬Connected navigation) :
    NavigationCase object navigation
      (.error "Navigate stage isn't connected to another stage" page)
  | excused (hlink : Connected navigation) (hexcused : Excused object navigation) :
    NavigationCase object navigation .none
  | judged {page : Option String} {share : Findings} (hlink : Connected navigation)
    (hexcused : ¬Excused object navigation)
    (hsteps : StepsCase navigation page "" (navigation.childrenNamed "step") share) :
    NavigationCase object navigation share

theorem navigationCase_of_judgeNavigation {object : Placed} {pages : PageIndex}
    (hpages : PageIndex.of object = .ok pages)
    (h : judgeNavigation object pages navigation = .ok share) :
    NavigationCase object navigation share := by
  obtain ⟨id, hid, h⟩ := bind_eq_ok.mp h
  have hpage : pageOf object navigation = .ok (pages.nameOf id) := by
    rw [pageOf, hpages, ok_bind, hid]
    rfl
  dsimp only at h
  split at h
  next hlink =>
    rw [← pure_eq_ok.mp h]
    refine .unconnected fun ⟨link, hlink'⟩ => ?_
    simp [hlink'] at hlink
  next hlink =>
    have hconnected : Connected navigation :=
      Option.isSome_iff_exists.mp (by simpa [Option.isSome_iff_ne_none] using hlink)
    obtain ⟨listed, hlisted, h⟩ := bind_eq_ok.mp h
    obtain ⟨name, hname, hlisted⟩ := bind_eq_ok.mp hlisted
    rw [need_eq_ok_iff.mp hname] at hpage
    cases pure_eq_ok.mp hlisted
    split at h
    next hword =>
      rw [← pure_eq_ok.mp h]
      exact .excused hconnected
        (.page hpage (notBlacklisted_unawaitedWords.mp (by simpa using hword)))
    next hword =>
      obtain ⟨type, htype, h⟩ := bind_eq_ok.mp h
      have hexcused := excused_iff_of_listed hpage (by simpa using hword)
        (leadsPast_of_afterAnchors htype)
      split at h
      next hreason =>
        rw [← pure_eq_ok.mp h]
        exact .excused hconnected (hexcused.mpr hreason)
      next hreason =>
        exact .judged hconnected (mt hexcused.mp hreason) (stepsCase_of_judgeSteps h)

/-- The finding has a text. -/
def Finding.Named (finding : Finding) : Prop :=
  ∃ text, finding.name = some text ∧ text ≠ ""

theorem named_error_iff {text : String} {page : Option String} :
    (∀ error ∈ (Findings.error text page).errors, error.Named) ↔ text ≠ "" := by
  simp [Findings.error, Finding.Named]

theorem StepsCase.length_le_one (h : StepsCase navigation action error steps share) :
    share.errors.length + share.warnings.length ≤ 1 := by
  cases h with
  | selects => exact Nat.zero_le 1
  | untargeted | unknown | works => exact Nat.le_refl 1

theorem unawaited_ne_empty (navigation : Element) : unawaited navigation ≠ "" := by
  have hquote : "'" ≠ "" := by decide
  exact fun h => hquote (String.append_eq_empty_iff.mp h).2

/-- An error without a text is left only if it began without one and no step gave it its text. -/
theorem StepsCase.named_iff (h : StepsCase navigation action error steps share) :
    (∀ error ∈ share.errors, error.Named) ↔ ¬(error = "" ∧ ∀ step ∈ steps, Untargeted step) := by
  have htargeted (hsteps : ∃ step ∈ steps, ¬Untargeted step) :
      ¬(error = "" ∧ ∀ step ∈ steps, Untargeted step) := by
    rintro ⟨-, hall⟩
    obtain ⟨step, hstep, hnot⟩ := hsteps
    exact hnot (hall step hstep)
  cases h with
  | untargeted hsteps => rw [named_error_iff, and_iff_left hsteps]
  | selects hsteps => exact iff_of_true nofun (htargeted hsteps)
  | unknown hsteps => exact iff_of_true nofun (htargeted hsteps)
  | works hsteps =>
    exact iff_of_true (named_error_iff.mpr (unawaited_ne_empty navigation)) (htargeted hsteps)

/-- There is no reason not to wait after the navigation, but it works on no element either. -/
structure Unexplained (object : Placed) (navigation : Element) : Prop where
  connected : Connected navigation
  unexcused : ¬Excused object navigation
  untargeted : ∀ step ∈ navigation.childrenNamed "step", Untargeted step

/-- What holds of a navigation's share in the findings. -/
structure Contribution (object : Placed) (navigation : Element) (share : Findings) : Prop where
  /-- The share is what the navigation gives rise to. -/
  given : ∃ pages, PageIndex.of object = .ok pages ∧
    judgeNavigation object pages navigation = .ok share
  length_le_one : share.errors.length + share.warnings.length ≤ 1
  eq_none : Connected navigation → Excused object navigation → share = .none
  named_iff : (∀ error ∈ share.errors, error.Named) ↔ ¬Unexplained object navigation

theorem contribution_of_judgeNavigation {object : Placed} {pages : PageIndex}
    (hpages : PageIndex.of object = .ok pages)
    (h : judgeNavigation object pages navigation = .ok share) :
    Contribution object navigation share := by
  have hgiven : ∃ pages, PageIndex.of object = .ok pages ∧
      judgeNavigation object pages navigation = .ok share := ⟨pages, hpages, h⟩
  cases navigationCase_of_judgeNavigation hpages h with
  | unconnected hlink =>
    exact ⟨hgiven, Nat.le_refl 1, fun hlink' => absurd hlink' hlink,
      iff_of_true (named_error_iff.mpr (by decide)) fun h => hlink h.connected⟩
  | excused hlink hexcused =>
    exact ⟨hgiven, Nat.zero_le 1, fun _ _ => rfl,
      iff_of_true nofun fun h => h.unexcused hexcused⟩
  | judged hlink hexcused hsteps =>
    refine ⟨hgiven, hsteps.length_le_one, fun _ h => absurd h hexcused, ?_⟩
    rw [hsteps.named_iff, eq_self, true_and]
    exact not_congr ⟨fun h => ⟨hlink, hexcused, h⟩, Unexplained.untargeted⟩

/-- All results have a property if all items have another one, when this is so for each of them. -/
theorem forall_mem_iff_of_forall₂ {α β : Type} {R : α → β → Prop} {P : α → Prop} {Q : β → Prop}
    (hR : ∀ a b, R a b → (Q b ↔ P a)) {as : List α} {bs : List β} (h : List.Forall₂ R as bs) :
    (∀ b ∈ bs, Q b) ↔ ∀ a ∈ as, P a := by
  induction h with
  | nil => simp
  | cons hab _ ih => rw [List.forall_mem_cons, List.forall_mem_cons, hR _ _ hab, ih]

theorem named_join_iff {shares : List Findings} :
    (∀ error ∈ (Findings.join shares).errors, error.Named) ↔
      ∀ share ∈ shares, ∀ error ∈ share.errors, error.Named := by
  rw [Findings.errors_join, List.forall_mem_flatMap]

/-- In a base object, each navigation has its share in the findings, in order: one finding at most,
and none if it is connected and there is a reason not to wait after it. The errors all have a text
unless there is a navigation that leads on without such a reason and works on no element. -/
theorem navigations_and_findings {object : Placed} {facts : Facts} {outcome : Outcome}
    (hkind : facts.kind = .ok .base) (h : checkNavigate object facts = .ok outcome) :
    ∃ shares, outcome.findings = .join shares ∧
      List.Forall₂ (fun navigation : Placed => Contribution object navigation)
        (stagesOf object "Navigate") shares ∧
      ((∀ error ∈ outcome.findings.errors, error.Named) ↔
        ∀ navigation ∈ stagesOf object "Navigate", ¬Unexplained object navigation.toElement) := by
  have hshares : ∃ shares, outcome.findings = .join shares ∧
      List.Forall₂ (fun navigation : Placed => Contribution object navigation)
        (stagesOf object "Navigate") shares := by
    rw [checkNavigate, hkind, ok_bind, if_neg (not_not_intro rfl)] at h
    dsimp only at h
    split at h
    next hempty =>
      rw [List.isEmpty_iff.mp hempty, ← pure_eq_ok.mp h]
      exact ⟨[], rfl, .nil⟩
    next =>
      obtain ⟨pages, hpages, h⟩ := bind_eq_ok.mp h
      obtain ⟨findings, hreview, h⟩ := bind_eq_ok.mp h
      obtain ⟨shares, hmap, hjoin⟩ := bind_eq_ok.mp hreview
      rw [← pure_eq_ok.mp h, ← pure_eq_ok.mp hjoin]
      exact ⟨shares, rfl, (mapM_eq_ok_iff.mp hmap).imp fun _ _ hjudge =>
        contribution_of_judgeNavigation hpages hjudge⟩
  obtain ⟨shares, hjoin, hall⟩ := hshares
  refine ⟨shares, hjoin, hall, ?_⟩
  rw [hjoin, named_join_iff]
  exact forall_mem_iff_of_forall₂ (fun _ _ hshare => hshare.named_iff) hall

/-- A navigation that leads nowhere. -/
def looseNavigation : Element where
  name := "stage"
  attributes := [("stageid", "l"), ("type", "Navigate"), ("name", "l")]
  children := [.element "subsheetid" [] [.leaf .text "page"]]

/-- A navigation to an anchor and so to a wait, and one that leads nowhere. -/
def waitingObject : Placed :=
  stagedObject [linkedStage "n" "Navigate" "a", linkedStage "a" "Anchor" "w",
    linkedStage "w" "WaitStart" "e", looseNavigation]

theorem leadsPast_anchor_to_wait :
    LeadsPast waitingObject (linkedStage "n" "Navigate" "a") (some "WaitStart") := by
  have hanchor : successor? (linkedStage "n" "Navigate" "a") waitingObject =
      some (linkedStage "a" "Anchor" "w") := rfl
  have hwait : successor? (linkedStage "a" "Anchor" "w") waitingObject =
      some (linkedStage "w" "WaitStart" "e") := rfl
  exact .anchor hanchor rfl (.direct hwait (by decide))

/-- The navigation that leads to a wait has no share in the findings, and the error on the other has
a text. -/
theorem waiting_navigation_adds_nothing :
    ∃ outcome share, checkNavigate waitingObject ⟨.ok .base, .ok false, .ok false⟩ = .ok outcome ∧
      outcome.findings = .join [.none, share] ∧ ∀ error ∈ outcome.findings.errors, error.Named := by
  obtain ⟨outcome, hcheck⟩ : ∃ outcome,
      checkNavigate waitingObject ⟨.ok .base, .ok false, .ok false⟩ = .ok outcome := ⟨_, rfl⟩
  obtain ⟨shares, hjoin, hall, hnamed⟩ := navigations_and_findings rfl hcheck
  obtain ⟨first, rest, hfirst, hrest, rfl⟩ := List.forall₂_cons_left_iff.mp hall
  obtain ⟨second, none, -, hnone, rfl⟩ := List.forall₂_cons_left_iff.mp hrest
  obtain rfl := List.forall₂_nil_left_iff.mp hnone
  have hexcused : Excused waitingObject (linkedStage "n" "Navigate" "a") :=
    .waits leadsPast_anchor_to_wait
  rw [hfirst.eq_none ⟨_, rfl⟩ hexcused] at hjoin
  refine ⟨outcome, second, hcheck, hjoin, hnamed.mpr fun navigation hnavigation hnot => ?_⟩
  rcases List.mem_pair.mp hnavigation with rfl | rfl
  · exact hnot.unexcused hexcused
  · obtain ⟨link, hlink⟩ := hnot.connected
    cases hlink

/-- A navigation without steps, and a calculation after it. -/
def steplessObject : Placed :=
  stagedObject [linkedStage "n" "Navigate" "c", linkedStage "c" "Calculation" "e"]

/-- The navigation gives rise to an error without a text. -/
theorem stepless_navigation_has_no_text :
    ∃ outcome, checkNavigate steplessObject ⟨.ok .base, .ok false, .ok false⟩ = .ok outcome ∧
      outcome.findings.errors = [⟨some "", some "Page"⟩] :=
  ⟨_, rfl, by decide +kernel⟩

end ReleaseReview
