import Mathlib.Data.List.Nodup
import ReleaseReview.Proofs.Descent
import ReleaseReview.Proofs.StageWalk

/-!
# Two checks of attaching

Two checks ask whether an Action starts with an attach. The one takes the start of a page from the
text next to it and then looks for its link among all references to pages. The other takes it from
the page id below the start and then looks at the first stage with the linked id.

In an object that is `WellStarted`, both come to the same start of a page, and there is only one
(`length_startsOn_le_one`). If the stage behind it is not a reference, no reference has the linked
id (`beginsWithAttach_eq_false`). So where the second check finds that an Action does not start with
an attach, the first does so too, and `attach_findings_agree` counts these findings page by page.
-/

namespace ReleaseReview

open Markup Placed

/-! ## Starts of pages -/

/-- The text of a stage's page id, if there is one. -/
def pageText? (stage : Element) : Option String :=
  (stage.within? "subsheetid").bind Element.soleText?

/-- The start has its page id in front, or it has none and there is no page id next to it. -/
inductive StartsPlainly (object start : Placed) : Prop
  | onPage {attributes : List (String × String)} {children : List Node}
    (hfirst : start.children.head? = some (.element "subsheetid" attributes children))
  | onNone (hid : start.within? "subsheetid" = none)
    (hnext : ∀ next, start.next? = some next →
      ∀ page ∈ pagesOf object, next.soleText? ≠ page.attr? "subsheetid")

/-- The stages and the pages of the object have ids, and no stage is hidden in another. The starts
tell their pages plainly, and there are no two on a page. -/
structure WellStarted (object : Placed) : Prop where
  shallow : object.Shallow "stage"
  stated : ∀ stage ∈ object.childrenNamed "stage", ∃ id, stage.attr? "stageid" = some id
  distinct : ((object.childrenNamed "stage").map fun stage => stage.attr? "stageid").Nodup
  pages : ∀ page ∈ pagesOf object, ∃ id, page.attr? "subsheetid" = some id
  plain : ∀ start ∈ stagesOf object "Start", StartsPlainly object start
  single : ((stagesOf object "Start").filterMap fun start => pageText? start.toElement).Nodup

theorem isOnPage_eq_beq (stage : Element) (id : String) :
    isOnPage stage (some id) = (pageText? stage == some id) := by
  unfold isOnPage pageText?
  cases stage.within? "subsheetid" <;> rfl

theorem eq_of_length_le_one {α : Type} {as : List α} (h : as.length ≤ 1) {a b : α} (ha : a ∈ as)
    (hb : b ∈ as) : a = b := by
  match as, h with
  | [c], _ => rw [List.mem_singleton.mp ha, List.mem_singleton.mp hb]

variable {object : Placed}

namespace WellStarted

variable (h : WellStarted object)

include h

theorem length_startsOn_le_one {page : Placed} (hpage : page ∈ pagesOf object) :
    (startsOn object (page.attr? "subsheetid")).length ≤ 1 := by
  obtain ⟨id, hid⟩ := h.pages page hpage
  have hcount := List.nodup_iff_count_le_one.mp h.single id
  rw [List.count_filterMap] at hcount
  rw [startsOn, hid, ← List.countP_eq_length_filter]
  simpa only [isOnPage_eq_beq] using hcount

/-- A start that a page's id is next to is on that page. -/
theorem mem_startsOn_of_next {start page : Placed} (hstart : start ∈ stagesOf object "Start")
    (hpage : page ∈ pagesOf object) {next : Node} (hnext : start.next? = some next)
    (htext : next.soleText? = page.attr? "subsheetid") :
    start ∈ startsOn object (page.attr? "subsheetid") := by
  refine List.mem_filter.mpr ⟨hstart, ?_⟩
  cases h.plain start hstart with
  | onPage hfirst =>
    rw [next?, hfirst] at hnext
    obtain rfl := Option.some.inj hnext
    simp only [isOnPage, Element.within?_of_head? hfirst, ← htext]
    exact beq_self_eq_true _
  | onNone _ hnone => exact absurd htext (hnone next hnext page hpage)

/-- A reference with the linked id is the stage that the link leads to. -/
theorem eq_of_stageWithId? {id : Option String} {first reference : Element}
    (hfirst : stageWithId? object id = some first) (hreference : reference ∈ pageReferences object)
    (hid : reference.attr? "stageid" = id) : reference = first := by
  have hmem : reference ∈ object.childrenNamed "stage" := by
    rw [← Element.allWithin_eq_childrenNamed h.shallow]
    exact List.mem_of_mem_filter hreference
  have hmem' := List.mem_of_find?_eq_some hfirst
  obtain ⟨own, hown⟩ := h.stated first hmem'
  have hsame : id = first.attr? "stageid" :=
    (eq_some_of_stageWithId? hfirst hown).trans hown.symm
  exact List.inj_on_of_nodup_map h.distinct hmem hmem' (hid.trans hsame)

end WellStarted

/-! ## Starts that lead elsewhere -/

/-- The start leads to a stage that is not a reference to a page. -/
def LeadsElsewhere (object start : Element) : Prop :=
  ∃ first, successor? start object = some first ∧ first.attr? "type" ≠ some "SubSheet"

/-- The finding that an Action starts with something else than a reference to a page. -/
def unattachedStart (action : Option String) : Finding :=
  ⟨"Action doesnt start with Attach", action⟩

theorem unattachedStart_not_mem_error {text : String} (h : text ≠ "Action doesnt start with Attach")
    (location action : Option String) :
    unattachedStart location ∉ (Findings.error text action).errors := by
  intro hmem
  have heq := congrArg Finding.name (List.mem_singleton.mp hmem)
  exact h (Option.some.inj heq).symm

theorem unattachedStart_not_mem_judgeFirstWait (wait : Element) (location action : Option String) :
    Yields (fun share => unattachedStart location ∉ share.errors) (judgeFirstWait wait action) := by
  refine .after fun choices => .ite (fun _ => .pure ?_) fun _ => .after fun tests =>
    .ite (fun _ => .pure ?_) fun _ => .pure ?_
  · exact unattachedStart_not_mem_error (by decide) location action
  · exact List.not_mem_nil
  · exact unattachedStart_not_mem_error (by decide) location action

/-- The finding is made of a start exactly if it leads elsewhere. -/
theorem judgeStart_eq_ok {start : Element} {action : Option String} {share : Findings}
    (h : judgeStart object start action = .ok share) :
    (LeadsElsewhere object start ∧ share.errors = [unattachedStart action]) ∨
      ∀ location, unattachedStart location ∉ share.errors := by
  obtain ⟨first, hfirst, h⟩ := bind_eq_ok.mp h
  split at h
  next =>
    refine .inr fun location => ?_
    obtain ⟨second, -, h⟩ := bind_eq_ok.mp h
    split at h
    next => exact unattachedStart_not_mem_judgeFirstWait second location action share h
    next =>
      obtain rfl := pure_eq_ok.mp h
      exact unattachedStart_not_mem_error (by decide) location action
  next htype =>
    obtain rfl := pure_eq_ok.mp h
    exact .inl ⟨⟨first, need_eq_ok_iff.mp hfirst, by simpa using htype⟩, rfl⟩

/-- If the start of a page leads elsewhere, the page does not begin with an attach. -/
theorem WellStarted.beginsWithAttach_eq_false (h : WellStarted object) {page start : Placed}
    (hpage : page ∈ pagesOf object) (hstart : start ∈ startsOn object (page.attr? "subsheetid"))
    (helsewhere : LeadsElsewhere object start) {begins : Bool}
    (hbegins : beginsWithAttach (stagesOf object "Start") (pageReferences object) page =
      .ok begins) : begins = false := by
  refine Bool.eq_false_iff.mpr fun htrue => ?_
  rw [htrue] at hbegins
  obtain ⟨found, hfound, hleads⟩ := anyM_eq_ok_true hbegins
  obtain ⟨next, hnext, hleads⟩ := bind_eq_ok.mp hleads
  split at hleads
  next htext =>
    -- The start that was found is on the page, so it is the one that leads elsewhere.
    have hon := h.mem_startsOn_of_next hfound hpage (need_eq_ok_iff.mp hnext)
      (beq_iff_eq.mp htext)
    obtain rfl := eq_of_length_le_one (h.length_startsOn_le_one hpage) hstart hon
    obtain ⟨link, hlink, hattaches⟩ := bind_eq_ok.mp hleads
    obtain ⟨reference, hreference, hattaches⟩ := anyM_eq_ok_true hattaches
    obtain ⟨first, hfirst, htype⟩ := helsewhere
    rw [successor?, need_eq_ok_iff.mp hlink] at hfirst
    split at hattaches
    next hid =>
      obtain rfl := h.eq_of_stageWithId? hfirst hreference (beq_iff_eq.mp hid)
      exact htype (by simpa using (List.mem_filter.mp hreference).2)
    next => cases hattaches
  next => cases hleads

/-! ## Findings page by page -/

/-- Shares that are at most as many for each item are so together. -/
theorem countP_errors_le {α : Type} {R S : α → Findings → Prop} {p q : Finding → Bool}
    {as : List α} (h : ∀ a ∈ as, ∀ x y, R a x → S a y → x.errors.countP p ≤ y.errors.countP q)
    {xs ys : List Findings} (hxs : List.Forall₂ R as xs) (hys : List.Forall₂ S as ys) :
    (Findings.join xs).errors.countP p ≤ (Findings.join ys).errors.countP q := by
  induction hxs generalizing ys with
  | nil =>
    cases hys
    exact Nat.le_refl _
  | @cons a x as xs hx _ ih =>
    obtain ⟨y, rest, hy, hrest, rfl⟩ := List.forall₂_cons_left_iff.mp hys
    rw [List.forall_mem_cons] at h
    have hfirst := h.1 x y hx hy
    have hothers := ih h.2 hrest
    rw [Findings.join_cons, Findings.join_cons, Findings.errors_append, Findings.errors_append,
      List.countP_append, List.countP_append]
    omega

/-- What an Action comes to: nothing if it is exempt, and otherwise what it is judged to. -/
inductive ActionShare (judge : Placed → Option String → Except Fault Findings) (page : Placed) :
    Findings → Prop
  | exempt {name : Option String} (hname : pageName page = .ok name)
    (hlisted : nameNotBlacklisted unattachedWords name = .ok false) :
    ActionShare judge page .none
  | judged {name : Option String} {share : Findings} (hname : pageName page = .ok name)
    (hlisted : nameNotBlacklisted unattachedWords name = .ok true)
    (hjudge : judge page name = .ok share) : ActionShare judge page share

theorem reviewActions_eq_ok {judge : Placed → Option String → Except Fault Findings}
    {findings : Findings} (h : reviewActions object judge = .ok findings) :
    ∃ shares, findings = .join shares ∧
      List.Forall₂ (ActionShare judge) (pagesOf object) shares := by
  obtain ⟨shares, hjoin, hshares⟩ := review_eq_ok h
  refine ⟨shares, hjoin, hshares.imp fun page share h => ?_⟩
  obtain ⟨name, hname, h⟩ := bind_eq_ok.mp h
  obtain ⟨listed, hlisted, h⟩ := bind_eq_ok.mp h
  cases listed with
  | true => exact .judged hname hlisted h
  | false =>
    obtain rfl := pure_eq_ok.mp h
    exact .exempt hname hlisted

/-- An Action is judged by both checks or by neither, and has the same name for both. -/
theorem ActionShare.cases_both {judge judge' : Placed → Option String → Except Fault Findings}
    {page : Placed} {share share' : Findings} (h : ActionShare judge page share)
    (h' : ActionShare judge' page share') :
    (share = .none ∧ share' = .none) ∨
      ∃ name, judge page name = .ok share ∧ judge' page name = .ok share' := by
  cases h with
  | exempt hname hlisted =>
    cases h' with
    | exempt => exact .inl ⟨rfl, rfl⟩
    | judged hname' hlisted' =>
      cases hname.symm.trans hname'
      cases hlisted.symm.trans hlisted'
  | judged hname hlisted hjudge =>
    cases h' with
    | exempt hname' hlisted' =>
      cases hname.symm.trans hname'
      cases hlisted.symm.trans hlisted'
    | judged hname' _ hjudge' =>
      cases hname.symm.trans hname'
      exact .inr ⟨_, hjudge, hjudge'⟩

theorem WellStarted.countP_judgeStarts_le (h : WellStarted object) {page : Placed}
    (hpage : page ∈ pagesOf object) {name : Option String} {waits attaches : Findings}
    (hwaits : judgeStarts object page name = .ok waits)
    (hattaches : judgeAttach object page name = .ok attaches) (location : Option String) :
    waits.errors.count (unattachedStart location) ≤
      attaches.errors.countP (·.location == location) := by
  obtain ⟨begins, hbegins, hattaches⟩ := bind_eq_ok.mp hattaches
  obtain ⟨shares, rfl, hshares⟩ := review_eq_ok hwaits
  match hstarts : startsOn object (page.attr? "subsheetid"), h.length_startsOn_le_one hpage with
  | [], _ =>
    rw [hstarts] at hshares
    cases hshares
    exact Nat.zero_le _
  | [start], _ =>
    have hstart : start ∈ startsOn object (page.attr? "subsheetid") :=
      hstarts ▸ List.mem_singleton_self start
    rw [hstarts] at hshares
    obtain ⟨share, rest, hshare, hrest, rfl⟩ := List.forall₂_cons_left_iff.mp hshares
    cases hrest
    rw [Findings.errors_join, List.flatMap_singleton]
    rcases judgeStart_eq_ok hshare with ⟨helsewhere, herrors⟩ | hnone
    · obtain rfl := h.beginsWithAttach_eq_false hpage hstart helsewhere hbegins
      obtain rfl := pure_eq_ok.mp hattaches
      rw [herrors]
      simp [unattachedStart, Findings.error, List.count_cons, List.countP_cons]
    · rw [List.count_eq_zero.mpr (hnone location)]
      exact Nat.zero_le _

/-- At every location, the check for a wait finds no more Actions that do not start with an attach
than the check for an attach does. -/
theorem attach_findings_agree (h : WellStarted object) {facts : Facts}
    {attaching waiting : Outcome} (hattaching : checkUseAttach object facts = .ok attaching)
    (hwaiting : checkStartWait object facts = .ok waiting) (location : Option String) :
    waiting.findings.errors.count ⟨some "Action doesnt start with Attach", location⟩ ≤
      attaching.findings.errors.countP (·.location == location) := by
  obtain ⟨kind, hkind, hattaching⟩ := bind_eq_ok.mp hattaching
  rw [checkStartWait, hkind, ok_bind] at hwaiting
  split at hwaiting
  next =>
    obtain rfl := pure_eq_ok.mp hwaiting
    exact Nat.zero_le _
  next hwrapper =>
    rw [if_neg hwrapper] at hattaching
    obtain ⟨attaches, hattaches, hattaching⟩ := bind_eq_ok.mp hattaching
    obtain ⟨waits, hwaits, hwaiting⟩ := bind_eq_ok.mp hwaiting
    obtain rfl := pure_eq_ok.mp hattaching
    obtain rfl := pure_eq_ok.mp hwaiting
    obtain ⟨attachShares, rfl, hattachShares⟩ := reviewActions_eq_ok hattaches
    obtain ⟨waitShares, rfl, hwaitShares⟩ := reviewActions_eq_ok hwaits
    refine countP_errors_le (fun page hpage wait attach hwait hattach => ?_) hwaitShares
      hattachShares
    rcases hwait.cases_both hattach with ⟨rfl, rfl⟩ | ⟨name, hwait, hattach⟩
    · exact Nat.le_refl _
    · exact h.countP_judgeStarts_le hpage hwait hattach location

/-- A stage with its id and its link, on a page or on none. -/
def stageOn (page : Option String) (id type next : String) : Node :=
  .element "stage" [("stageid", id), ("type", type), ("name", id)]
    ((page.toList.map fun text => .element "subsheetid" [] [.leaf .text text]) ++
      [.element "onsuccess" [] [.leaf .text next]])

/-- Two pages of one name, each with a start that leads to a calculation, and a start on the initial
page. -/
def calculatingObject : Placed :=
  let page (id : String) : Node :=
    .element "subsheet" [("subsheetid", id)] [.element "name" [] [.leaf .text "Read"]]
  .alone ⟨"process", [("name", "Base A")], [page "1", page "2", stageOn none "s" "Start" "c",
    stageOn (some "1") "t" "Start" "c", stageOn (some "2") "u" "Start" "c",
    stageOn (some "1") "c" "Calculation" "e"]⟩

theorem calculatingObject_wellStarted : WellStarted calculatingObject where
  shallow := by decide +kernel
  stated stage hstage := Option.isSome_iff_exists.mp ((by decide +kernel :
    ∀ stage ∈ calculatingObject.childrenNamed "stage", (stage.attr? "stageid").isSome) stage hstage)
  distinct := by decide +kernel
  pages page hpage := by
    rcases List.mem_pair.mp hpage with rfl | rfl
    · exact ⟨"1", rfl⟩
    · exact ⟨"2", rfl⟩
  plain start hstart := by
    rcases List.mem_cons.mp hstart with rfl | hstart
    · refine .onNone rfl fun next hnext page hpage => ?_
      obtain rfl := Option.some.inj hnext
      rcases List.mem_pair.mp hpage with rfl | rfl <;> decide
    · rcases List.mem_pair.mp hstart with rfl | rfl <;> exact .onPage rfl
  single := by decide +kernel

/-- Both pages do not start with an attach, for either check. -/
theorem calculating_pages_are_found_twice :
    WellStarted calculatingObject ∧ ∃ attaching waiting,
      checkUseAttach calculatingObject ⟨.ok .base, .ok false, .ok false⟩ = .ok attaching ∧
      checkStartWait calculatingObject ⟨.ok .base, .ok false, .ok false⟩ = .ok waiting ∧
      waiting.findings.errors.count ⟨some "Action doesnt start with Attach", some "Read"⟩ = 2 ∧
      2 ≤ attaching.findings.errors.countP (·.location == some "Read") := by
  obtain ⟨attaching, hattaching⟩ : ∃ attaching,
      checkUseAttach calculatingObject ⟨.ok .base, .ok false, .ok false⟩ = .ok attaching :=
    exists_of_toBool (by decide +kernel)
  obtain ⟨waiting, hwaiting, htwo⟩ : ∃ waiting,
      checkStartWait calculatingObject ⟨.ok .base, .ok false, .ok false⟩ = .ok waiting ∧
      waiting.findings.errors.count ⟨some "Action doesnt start with Attach", some "Read"⟩ = 2 :=
    ⟨_, rfl, by decide +kernel⟩
  have hle := attach_findings_agree calculatingObject_wellStarted hattaching hwaiting (some "Read")
  exact ⟨calculatingObject_wellStarted, attaching, waiting, hattaching, hwaiting, htwo,
    htwo ▸ hle⟩

end ReleaseReview
