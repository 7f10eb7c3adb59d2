import Mathlib.Data.List.Nodup
import ReleaseReview.Proofs.StageWalk

/-!
# Timeouts and the stages they lead to

The check of timeouts does not look at each stage on the way from the end of a wait. It tells
exceptions, ends and calculations by lists of their ids: a link leads to such a stage if one of the
ids stands in it. This is to come to the same as the plain walk from stage to stage, which
`WalkStep` and `WalkStop` describe.

In an object whose stages have distinct ids of one length (`UniformIds`), the only id that stands in
the id of a stage is that id itself (`holdsId_iff`). So the two agree for as long as the links are
ids of stages. They differ at a link that is the id of no stage but holds that of a calculation,
after one calculation has been passed: it is taken for a second one (`Strays`), where the walk has
no stage to go to and so does not fail. As such a wait comes to no exception and no end, an error is
in order. `timeout_errors_of_check` says that this is all the difference.
-/

namespace ReleaseReview

open Markup Placed Relation Text

/-! ## The plain walk -/

/-- The walk goes on over an anchor, or over its first calculation. The flag of its state tells
whether it has passed a calculation. -/
inductive WalkStep (object : Element) : Bool × Element → Bool × Element → Prop
  | anchor {calculated : Bool} {stage next : Element} (hnext : successor? stage object = some next)
    (htype : next.attr? "type" = some "Anchor") :
    WalkStep object (calculated, stage) (calculated, next)
  | calculation {stage next : Element} (hnext : successor? stage object = some next)
    (htype : next.attr? "type" = some "Calculation") :
    WalkStep object (false, stage) (true, next)

/-- The walk stops at a stage of this type: a second calculation, or neither an anchor nor a
calculation. -/
inductive WalkStop (object : Element) : Bool × Element → Option String → Prop
  | other {calculated : Bool} {stage next : Element} (hnext : successor? stage object = some next)
    (htype : ¬(next.attr? "type" = some "Anchor" ∨ next.attr? "type" = some "Calculation")) :
    WalkStop object (calculated, stage) (next.attr? "type")
  | secondCalculation {stage next : Element} (hnext : successor? stage object = some next)
    (htype : next.attr? "type" = some "Calculation") :
    WalkStop object (true, stage) (some "Calculation")

/-- The walk from the end of a wait stops at a stage of this type, which is neither an exception nor
an end. -/
def WalkFails (object waitEnd : Element) (type : Option String) : Prop :=
  (∃ s, ReflTransGen (WalkStep object) (false, waitEnd) s ∧ WalkStop object s type) ∧
    type ≠ some "Exception" ∧ type ≠ some "End"

theorem walkStep_rightUnique (object : Element) : Relator.RightUnique (WalkStep object) := by
  intro s t u ht hu
  cases ht with
  | anchor hnext htype =>
    cases hu with
    | anchor hnext' _ => cases hnext.symm.trans hnext'; rfl
    | calculation hnext' htype' =>
      cases hnext.symm.trans hnext'
      exact absurd (htype.symm.trans htype') (by decide)
  | calculation hnext htype =>
    cases hu with
    | anchor hnext' htype' =>
      cases hnext.symm.trans hnext'
      exact absurd (htype.symm.trans htype') (by decide)
    | calculation hnext' _ => cases hnext.symm.trans hnext'; rfl

theorem not_walkStep_of_stop {object : Element} {s : Bool × Element} {type : Option String}
    (h : WalkStop object s type) (t : Bool × Element) : ¬WalkStep object s t := by
  intro hstep
  cases h with
  | other hnext htype =>
    cases hstep with
    | anchor hnext' htype' =>
      cases hnext.symm.trans hnext'
      exact htype (.inl htype')
    | calculation hnext' htype' =>
      cases hnext.symm.trans hnext'
      exact htype (.inr htype')
  | secondCalculation hnext htype =>
    cases hstep with
    | anchor hnext' htype' =>
      cases hnext.symm.trans hnext'
      exact absurd (htype.symm.trans htype') (by decide)

theorem walkStop_unique {object : Element} {s : Bool × Element} {type other : Option String}
    (h : WalkStop object s type) (hother : WalkStop object s other) : type = other := by
  cases h with
  | other hnext htype =>
    cases hother with
    | other hnext' _ => cases hnext.symm.trans hnext'; rfl
    | secondCalculation hnext' htype' =>
      cases hnext.symm.trans hnext'
      exact absurd (.inr htype') htype
  | secondCalculation hnext htype =>
    cases hother with
    | other hnext' htype' =>
      cases hnext.symm.trans hnext'
      exact absurd (.inr htype) htype'
    | secondCalculation _ _ => rfl

theorem successor?_ne_none_of_stop {object : Element} {s : Bool × Element} {type : Option String}
    (h : WalkStop object s type) : successor? s.2 object ≠ none := by
  cases h with
  | other hnext _ | secondCalculation hnext _ => simp [hnext]

/-- Where there is no stage to go to, the walk takes no step. -/
theorem not_walkStep_of_lost {object : Element} {s : Bool × Element}
    (h : successor? s.2 object = none) (t : Bool × Element) : ¬WalkStep object s t := by
  intro hstep
  cases hstep with
  | anchor hnext _ | calculation hnext _ => simp [hnext] at h

/-- The walk has only one place to end. -/
theorem eq_of_walks {object : Element} {s t u : Bool × Element}
    (ht : ReflTransGen (WalkStep object) s t) (hu : ReflTransGen (WalkStep object) s u)
    (htend : ∀ v, ¬WalkStep object t v) (huend : ∀ v, ¬WalkStep object u v) : t = u := by
  rcases ReflTransGen.total_of_right_unique (walkStep_rightUnique object) ht hu with h | h
  · rcases h.cases_head with rfl | ⟨v, hstep, -⟩
    · rfl
    · exact absurd hstep (htend v)
  · rcases h.cases_head with rfl | ⟨v, hstep, -⟩
    · rfl
    · exact absurd hstep (huend v)

/-! ## Ids in links -/

/-- Every stage of the object has an id of its own, and all ids are equally long. -/
structure UniformIds (object : Element) (length : Nat) : Prop where
  stated : ∀ stage ∈ object.childrenNamed "stage", ∃ id, stage.attr? "stageid" = some id ∧
    id ≠ "" ∧ id.length = length
  distinct : ((object.childrenNamed "stage").map fun stage => stage.attr? "stageid").Nodup

/-- The id of a stage of this type stands in the text. -/
def HoldsId (object : Placed) (type text : String) : Prop :=
  ∃ stage ∈ stagesOf object type, ∃ id, stage.attr? "stageid" = some id ∧ occurs id text = true

variable {object : Placed} {length : Nat}

theorem mem_childrenNamed_of_mem_stagesOf {stage : Placed} {type : String}
    (h : stage ∈ stagesOf object type) :
    stage.toElement ∈ object.childrenNamed "stage" ∧ stage.attr? "type" = some type := by
  have hmem : stage.toElement ∈ (stagesOf object type).map toElement := List.mem_map_of_mem h
  rw [map_toElement_stagesOf, List.mem_filter, beq_iff_eq] at hmem
  exact hmem

/-- The stage that is found by an id has it. -/
theorem UniformIds.attr?_of_stageWithId? (hids : UniformIds object length) {id : Option String}
    {stage : Element} (h : stageWithId? object id = some stage) :
    ∃ own, id = some own ∧ stage.attr? "stageid" = some own ∧ own.length = length := by
  obtain ⟨own, hown, -, hlength⟩ := hids.stated stage (List.mem_of_find?_eq_some h)
  exact ⟨own, eq_some_of_stageWithId? h hown, hown, hlength⟩

/-- Of ids that are equally long, none stands in another. -/
theorem eq_of_occurs {id other : String} (hlength : id.length = other.length)
    (h : occurs id other = true) : id = other := by
  refine String.toList_inj.mp ((occursIn_iff.mp h).eq_of_length ?_)
  rw [String.length_toList, String.length_toList, hlength]

/-- An id that stands in the id of a stage is its own. -/
theorem UniformIds.holdsId_iff (hids : UniformIds object length) {text type : String}
    {stage : Element} (h : stageWithId? object (some text) = some stage) :
    HoldsId object type text ↔ stage.attr? "type" = some type := by
  obtain ⟨own, htext, hown, hlength⟩ := hids.attr?_of_stageWithId? h
  cases htext
  constructor
  · rintro ⟨found, hfound, id, hid, hoccurs⟩
    obtain ⟨hmem, htype⟩ := mem_childrenNamed_of_mem_stagesOf hfound
    obtain ⟨id', hid', -, hlength'⟩ := hids.stated _ hmem
    obtain rfl : id = id' := Option.some.inj (hid.symm.trans hid')
    obtain rfl := eq_of_occurs (hlength'.trans hlength.symm) hoccurs
    have heq : found.toElement = stage := List.inj_on_of_nodup_map hids.distinct hmem
      (List.mem_of_find?_eq_some h) (hid.trans hown.symm)
    rw [← heq, htype]
  · intro htype
    obtain ⟨found, hfound, rfl⟩ := mem_stagesOf_of_stageWithId? h htype
    exact ⟨found, hfound, _, hown, occurs_self _⟩

theorem leadsTo_some_iff {text type : String} {leads : Bool}
    (h : leadsTo ((stagesOf object type).map fun s => s.attr? "stageid") (some text) = .ok leads) :
    leads = true ↔ HoldsId object type text := by
  constructor
  · rintro rfl
    obtain ⟨id, hid, hname⟩ := anyM_eq_ok_true h
    obtain ⟨stage, hstage, rfl⟩ := List.mem_map.mp hid
    cases hown : stage.attr? "stageid" with
    | none => simp [nameIn, hown] at hname
    | some own => exact ⟨stage, hstage, own, hown, by simpa [nameIn, hown] using hname⟩
  · rintro ⟨stage, hstage, id, hid, hoccurs⟩
    cases leads with
    | true => rfl
    | false =>
      have hnot := anyM_eq_ok_false h _ (List.mem_map_of_mem hstage)
      simp [nameIn, hid, hoccurs] at hnot

theorem not_holdsId_of_leadsTo {text type : String}
    (h : leadsTo ((stagesOf object type).map fun s => s.attr? "stageid") (some text) = .ok false) :
    ¬HoldsId object type text :=
  fun hholds => Bool.false_ne_true ((leadsTo_some_iff h).mpr hholds)

/-- Only a text can be told to lead to a stage. -/
theorem exists_text_of_leadsTo {ids : List (Option String)} {id : Option String}
    (h : leadsTo ids id = .ok true) : ∃ text, id = some text := by
  cases id with
  | some text => exact ⟨text, rfl⟩
  | none =>
    obtain ⟨id, -, hname⟩ := anyM_eq_ok_true h
    cases hname

/-! ## Rounds of the check and steps of the walk -/

/-- The stage's link is a text that is the id of no stage. -/
structure Astray (object : Placed) (stage : Element) (text : String) : Prop where
  link : ∃ link, stage.within? "onsuccess" = some link ∧ link.soleText? = some text
  lost : stageWithId? object (some text) = none

/-- There is no stage to go to, but the ids in the link tell a type all the same. -/
inductive Lost (object : Placed) : Bool × Element → Option String → Prop
  | exception {calculated : Bool} {stage : Element} {text : String}
    (hastray : Astray object stage text) (hexception : HoldsId object "Exception" text) :
    Lost object (calculated, stage) (some "Exception")
  | ending {calculated : Bool} {stage : Element} {text : String}
    (hastray : Astray object stage text) (hexception : ¬HoldsId object "Exception" text)
    (hending : HoldsId object "End" text) : Lost object (calculated, stage) (some "End")
  | calculation {stage : Element} {text : String} (hastray : Astray object stage text)
    (hexception : ¬HoldsId object "Exception" text) (hending : ¬HoldsId object "End" text)
    (hcalculation : HoldsId object "Calculation" text) :
    Lost object (true, stage) (some "Calculation")

/-- The walk from the end of a wait passes a calculation and then comes to a link that is the id of
no stage, but holds that of a calculation. -/
def Strays (object : Placed) (waitEnd : Element) : Prop :=
  ∃ s, ReflTransGen (WalkStep object) (false, waitEnd) s ∧ Lost object s (some "Calculation")

theorem Astray.successor?_eq_none {stage : Element} {text : String}
    (h : Astray object stage text) : successor? stage object = none := by
  obtain ⟨link, hlink, htext⟩ := h.link
  simp only [successor?, hlink, htext, h.lost]

theorem Astray.unique {stage : Element} {text other : String} (h : Astray object stage text)
    (hother : Astray object stage other) : text = other := by
  obtain ⟨link, hlink, htext⟩ := h.link
  obtain ⟨link', hlink', htext'⟩ := hother.link
  cases hlink.symm.trans hlink'
  exact Option.some.inj (htext.symm.trans htext')

theorem Lost.successor?_eq_none {s : Bool × Element} {type : Option String}
    (h : Lost object s type) : successor? s.2 object = none := by
  cases h with
  | exception hastray | ending hastray | calculation hastray => exact hastray.successor?_eq_none

theorem Lost.unique {s : Bool × Element} {type other : Option String} (h : Lost object s type)
    (hother : Lost object s other) : type = other := by
  cases h with
  | exception hastray hexception =>
    cases hother with
    | exception => rfl
    | ending hastray' hexception' | calculation hastray' hexception' =>
      obtain rfl := hastray.unique hastray'
      exact absurd hexception hexception'
  | ending hastray hexception hending =>
    cases hother with
    | exception hastray' hexception' =>
      obtain rfl := hastray.unique hastray'
      exact absurd hexception' hexception
    | ending => rfl
    | calculation hastray' _ hending' =>
      obtain rfl := hastray.unique hastray'
      exact absurd hending hending'
  | calculation hastray hexception hending =>
    cases hother with
    | exception hastray' hexception' =>
      obtain rfl := hastray.unique hastray'
      exact absurd hexception' hexception
    | ending hastray' _ hending' =>
      obtain rfl := hastray.unique hastray'
      exact absurd hending' hending
    | calculation => rfl

variable {calculated : Bool} {stage link : Element}

theorem successor?_eq_stageWithId? {object : Element} {id : Option String}
    (hlink : stage.within? "onsuccess" = some link) (hid : link.soleText? = id) :
    successor? stage object = stageWithId? object id := by
  simp only [successor?, hlink, hid]

/-- A round that has a next one is a step of the walk. -/
theorem UniformIds.walkStep_of_case (hids : UniformIds object length)
    {state : Bool × Option Element} (hlink : stage.within? "onsuccess" = some link)
    (h : TimeoutCase object (.of object) calculated link (.next state)) :
    ∃ next, WalkStep object (calculated, stage) (state.1, next) ∧
      state.2 = next.within? "onsuccess" := by
  cases h with
  | @pass calculation next _ _ hcalculation hfirst hnext htype =>
    obtain ⟨own, hown, -⟩ := hids.attr?_of_stageWithId? hnext
    have hsuccessor := (successor?_eq_stageWithId? hlink rfl).trans hnext
    rw [hown] at hnext hcalculation
    have hleads := (leadsTo_some_iff hcalculation).trans (hids.holdsId_iff hnext)
    refine ⟨next, ?_, rfl⟩
    rcases htype with htype | htype
    · obtain rfl : calculation = false := by
        rw [htype] at hleads
        simpa using hleads
      rw [Bool.or_false]
      exact .anchor hsuccessor htype
    · obtain rfl : calculation = true := hleads.mpr htype
      obtain rfl : calculated = false := by simpa using hfirst
      exact .calculation hsuccessor htype

/-- A link that holds the id of a stage leads to a stage of its type, or to none. -/
theorem UniformIds.successor?_or_astray (hids : UniformIds object length) {text type : String}
    (hlink : stage.within? "onsuccess" = some link) (htext : link.soleText? = some text)
    (h : HoldsId object type text) :
    (∃ next, successor? stage object = some next ∧ next.attr? "type" = some type) ∨
      Astray object stage text := by
  cases hnext : stageWithId? object (some text) with
  | some next =>
    exact .inl ⟨next, (successor?_eq_stageWithId? hlink htext).trans hnext,
      (hids.holdsId_iff hnext).mp h⟩
  | none => exact .inr ⟨⟨link, hlink, htext⟩, hnext⟩

/-- In the last round, the walk stops at a stage of the type that is told, or has none to go to. -/
theorem UniformIds.walkStop_of_case (hids : UniformIds object length) {type : Option String}
    (hlink : stage.within? "onsuccess" = some link)
    (h : TimeoutCase object (.of object) calculated link (.done type)) :
    WalkStop object (calculated, stage) type ∨ Lost object (calculated, stage) type := by
  cases h with
  | exception hexception =>
    obtain ⟨text, htext⟩ := exists_text_of_leadsTo hexception
    rw [htext] at hexception
    have hholds := (leadsTo_some_iff hexception).mp rfl
    rcases hids.successor?_or_astray hlink htext hholds with ⟨next, hnext, htype⟩ | hastray
    · exact .inl (htype ▸ .other hnext (by simp [htype]))
    · exact .inr (.exception hastray hholds)
  | ending hexception hending =>
    obtain ⟨text, htext⟩ := exists_text_of_leadsTo hending
    rw [htext] at hexception hending
    have hholds := (leadsTo_some_iff hending).mp rfl
    rcases hids.successor?_or_astray hlink htext hholds with ⟨next, hnext, htype⟩ | hastray
    · exact .inl (htype ▸ .other hnext (by simp [htype]))
    · exact .inr (.ending hastray (not_holdsId_of_leadsTo hexception) hholds)
  | secondCalculation hexception hending hcalculation hcalculated =>
    subst hcalculated
    obtain ⟨text, htext⟩ := exists_text_of_leadsTo hcalculation
    rw [htext] at hexception hending hcalculation
    have hholds := (leadsTo_some_iff hcalculation).mp rfl
    rcases hids.successor?_or_astray hlink htext hholds with ⟨next, hnext, htype⟩ | hastray
    · exact .inl (.secondCalculation hnext htype)
    · exact .inr (.calculation hastray (not_holdsId_of_leadsTo hexception)
        (not_holdsId_of_leadsTo hending) hholds)
  | stop _ _ _ hnext htype =>
    exact .inl (.other ((successor?_eq_stageWithId? hlink rfl).trans hnext) htype)

/-- What the check tells of a walk is the type of the stage that it stops at, or what the ids tell
where it has no stage to go to. -/
theorem UniformIds.walk_of_timeoutTarget (hids : UniformIds object length) {fuel : Nat}
    {type : Option String}
    (h : timeoutTarget object (.of object) fuel calculated (stage.within? "onsuccess") = .ok type) :
    ∃ s, ReflTransGen (WalkStep object) (calculated, stage) s ∧
      (WalkStop object s type ∨ Lost object s type) := by
  rw [timeoutTarget_eq_loop] at h
  induction fuel generalizing calculated stage with
  | zero => cases h
  | succ fuel ih =>
    obtain ⟨outcome, hround, h⟩ := bind_eq_ok.mp h
    obtain ⟨link, hlink, hcase⟩ := timeoutRound_cases hround
    cases outcome with
    | done result =>
      rw [pure_eq_ok] at h
      subst h
      exact ⟨_, .refl, hids.walkStop_of_case hlink hcase⟩
    | next state =>
      obtain ⟨next, hstep, hnext⟩ := hids.walkStep_of_case hlink hcase
      obtain ⟨s, hwalk, hend⟩ := @ih state.1 next (hnext ▸ h)
      exact ⟨s, .head hstep hwalk, hend⟩

/-! ## Errors of the check -/

/-- The end of a wait is said to time out to a stage of this type: the walk fails at one, or it
strays and is taken to have come to a second calculation. -/
def TimedOut (object : Placed) (waitEnd : Element) (type : Option String) : Prop :=
  WalkFails object waitEnd type ∨ (Strays object waitEnd ∧ type = some "Calculation")

theorem not_walkStep_of_end {s : Bool × Element} {type : Option String}
    (h : WalkStop object s type ∨ Lost object s type) (t : Bool × Element) :
    ¬WalkStep object s t := by
  rcases h with hstop | hlost
  · exact not_walkStep_of_stop hstop t
  · exact not_walkStep_of_lost hlost.successor?_eq_none t

/-- A walk that ends times out to the type that it ends with, if at all. -/
theorem timedOut_iff {waitEnd : Element} {s : Bool × Element} {type : Option String}
    (hwalk : ReflTransGen (WalkStep object) (false, waitEnd) s)
    (hend : WalkStop object s type ∨ Lost object s type) (other : Option String) :
    TimedOut object waitEnd other ↔
      other = type ∧ type ≠ some "Exception" ∧ type ≠ some "End" := by
  constructor
  · rintro (⟨⟨t, ht, hstop⟩, hne⟩ | ⟨⟨t, ht, hlost⟩, rfl⟩)
    · obtain rfl := eq_of_walks hwalk ht (not_walkStep_of_end hend) (not_walkStep_of_stop hstop)
      rcases hend with hstop' | hlost
      · obtain rfl := walkStop_unique hstop hstop'
        exact ⟨rfl, hne⟩
      · exact absurd hlost.successor?_eq_none (successor?_ne_none_of_stop hstop)
    · obtain rfl := eq_of_walks hwalk ht (not_walkStep_of_end hend)
        (not_walkStep_of_end (.inr hlost))
      rcases hend with hstop | hlost'
      · exact absurd hlost.successor?_eq_none (successor?_ne_none_of_stop hstop)
      · obtain rfl := hlost.unique hlost'
        exact ⟨rfl, by decide, by decide⟩
  · rintro ⟨rfl, hne⟩
    rcases hend with hstop | hlost
    · exact .inl ⟨⟨s, hwalk, hstop⟩, hne⟩
    · cases hlost with
      | exception => exact absurd rfl hne.1
      | ending => exact absurd rfl hne.2
      | calculation hastray hexception hending hcalculation =>
        exact .inr ⟨⟨_, hwalk, .calculation hastray hexception hending hcalculation⟩, rfl⟩

/-- The errors for the end of a wait, each way to come to them. -/
inductive WaitEndErrors (object : Placed) (waitEnd : Element) : List Finding → Prop
  | unconnected {page : Option String} (hlink : waitEnd.within? "onsuccess" = none)
    (hpage : pageOf object waitEnd = .ok page) :
    WaitEndErrors object waitEnd
      [⟨some ("'" ++ shown (waitEnd.attr? "name") ++ "' timeout has no connection"), page⟩]
  | timedOut {type page : Option String} (hlink : waitEnd.within? "onsuccess" ≠ none)
    (htype : ∀ other, TimedOut object waitEnd other ↔ other = type)
    (hpage : pageOf object waitEnd = .ok page) :
    WaitEndErrors object waitEnd
      [⟨some ("'" ++ shown (waitEnd.attr? "name") ++ "' timed out to a " ++ shown type ++ " stage"),
        page⟩]
  | handled (hlink : waitEnd.within? "onsuccess" ≠ none)
    (hnever : ∀ type, ¬TimedOut object waitEnd type) : WaitEndErrors object waitEnd []

/-- The end of a wait gives rise to no warnings, and to the errors that its walk calls for. -/
theorem UniformIds.errors_of_judgeWaitEnd (hids : UniformIds object length) {waitEnd : Element}
    {found : Findings} (h : judgeWaitEnd object (.of object) waitEnd = .ok found) :
    found.warnings = [] ∧ WaitEndErrors object waitEnd found.errors := by
  unfold judgeWaitEnd at h
  cases hlink : waitEnd.within? "onsuccess" with
  | none =>
    simp only [hlink] at h
    obtain ⟨page, hpage, h⟩ := bind_eq_ok.mp h
    rw [← pure_eq_ok.mp h]
    exact ⟨rfl, .unconnected hlink hpage⟩
  | some link =>
    simp only [hlink] at h
    obtain ⟨type, htarget, h⟩ := bind_eq_ok.mp h
    rw [← hlink] at htarget
    obtain ⟨s, hwalk, hend⟩ := hids.walk_of_timeoutTarget htarget
    have hlinked : waitEnd.within? "onsuccess" ≠ none := by simp [hlink]
    split at h
    next hhandled =>
      rw [← pure_eq_ok.mp h]
      refine ⟨rfl, .handled hlinked fun other hother => ?_⟩
      obtain ⟨-, hexception, hending⟩ := (timedOut_iff hwalk hend other).mp hother
      exact hhandled.elim hending hexception
    next hhandled =>
      obtain ⟨page, hpage, h⟩ := bind_eq_ok.mp h
      rw [← pure_eq_ok.mp h]
      refine ⟨rfl, .timedOut hlinked (fun other => ?_) hpage⟩
      rw [timedOut_iff hwalk hend, and_iff_left]
      exact ⟨fun h => hhandled (.inr h), fun h => hhandled (.inl h)⟩

/-- In an object whose stages have distinct ids of one length, the check finds nothing but errors,
at most one for the end of each wait and in the order of these. The end of a wait without a link is
not connected, and one with a link times out to a stage if the walk from it fails at one, or strays.
-/
theorem timeout_errors_of_check {facts : Facts} {kind : Kind} {outcome : Outcome}
    (hids : UniformIds object length) (hkind : facts.kind = .ok kind) (hwrapper : kind ≠ .wrapper)
    (h : checkWaitTimeout object facts = .ok outcome) :
    outcome.ruling = none ∧ outcome.findings.warnings = [] ∧
    ∃ errors : List (List Finding), outcome.findings.errors = errors.flatten ∧
      List.Forall₂ (fun waitEnd : Placed => WaitEndErrors object waitEnd)
        (stagesOf object "WaitEnd") errors := by
  rw [checkWaitTimeout, hkind, ok_bind, if_neg hwrapper] at h
  obtain ⟨findings, hreview, h⟩ := bind_eq_ok.mp h
  obtain ⟨parts, hparts, hjoin⟩ := bind_eq_ok.mp hreview
  rw [← pure_eq_ok.mp h, ← pure_eq_ok.mp hjoin]
  have hnone : ∀ part ∈ parts, part.warnings = [] :=
    Yields.mapM (fun waitEnd _ part hpart => (hids.errors_of_judgeWaitEnd hpart).1) parts hparts
  refine ⟨rfl, List.flatMap_eq_nil_iff.mpr hnone, parts.map Findings.errors, ?_, ?_⟩
  · rw [Outcome.found, Findings.errors_join, List.flatMap_def]
  · rw [List.forall₂_map_right_iff]
    exact (mapM_eq_ok_iff.mp hparts).imp fun _ _ hpart => (hids.errors_of_judgeWaitEnd hpart).2

theorem circlingObject_uniformIds : UniformIds circlingObject 1 where
  stated stage hstage := by
    simp only [stages_circlingObject, circlingStages, List.mem_cons, List.not_mem_nil,
      or_false] at hstage
    rcases hstage with rfl | rfl | rfl | rfl <;> exact ⟨_, rfl, by decide, by decide⟩
  distinct := by decide +kernel

/-- The walk passes the circle's calculation once, and fails when it comes to it again. -/
theorem circling_walk_fails :
    WalkFails circlingObject (linkedStage "w" "WaitEnd" "a") (some "Calculation") := by
  refine ⟨⟨(true, linkedStage "b" "Anchor" "c"), ?_, .secondCalculation rfl rfl⟩, by decide,
    by decide⟩
  exact .head (.anchor rfl rfl) (.head (.anchor rfl rfl) (.head (.calculation rfl rfl)
    (.head (.anchor rfl rfl) (.head (.anchor rfl rfl) .refl))))

/-- The calculation that comes twice is what the wait is said to time out to. -/
theorem circling_timeout_is_reported :
    UniformIds circlingObject 1 ∧ ∃ outcome page,
      checkWaitTimeout circlingObject ⟨.ok .base, .ok false, .ok false⟩ = .ok outcome ∧
      outcome.findings.errors = [⟨some "'w' timed out to a Calculation stage", page⟩] := by
  obtain ⟨outcome, hcheck⟩ : ∃ outcome,
      checkWaitTimeout circlingObject ⟨.ok .base, .ok false, .ok false⟩ = .ok outcome := ⟨_, rfl⟩
  obtain ⟨-, -, errors, herrors, hall⟩ :=
    timeout_errors_of_check circlingObject_uniformIds rfl (by decide) hcheck
  obtain ⟨found, rest, hfound, hrest, rfl⟩ := List.forall₂_cons_left_iff.mp hall
  obtain rfl := List.forall₂_nil_left_iff.mp hrest
  rw [List.flatten_singleton] at herrors
  cases hfound with
  | unconnected hlink => cases hlink
  | handled _ hnever => exact absurd (.inl circling_walk_fails) (hnever _)
  | @timedOut type page _ htype _ =>
    obtain rfl := (htype _).mp (.inl circling_walk_fails)
    exact ⟨circlingObject_uniformIds, outcome, page, hcheck, herrors⟩

/-- The end of a wait, and a calculation whose link is the id of no stage. -/
def strayObject : Placed :=
  stagedObject [linkedStage "w" "WaitEnd" "c", linkedStage "c" "Calculation" "cc"]

/-- The wait is said to time out to a calculation, though the walk passes the only one there is and
then has no stage to go to. -/
theorem stray_link_counts_as_calculation :
    UniformIds strayObject 1 ∧ NoAnchorCircle strayObject ∧
    (∃ outcome, checkWaitTimeout strayObject ⟨.ok .base, .ok false, .ok false⟩ = .ok outcome ∧
      outcome.findings.errors = [⟨some "'w' timed out to a Calculation stage", some "Page"⟩]) ∧
    (stagesOf strayObject "WaitEnd").map toElement = [linkedStage "w" "WaitEnd" "c"] ∧
    ∀ type, ¬WalkFails strayObject (linkedStage "w" "WaitEnd" "c") type := by
  have hstages : strayObject.childrenNamed "stage" =
    [linkedStage "w" "WaitEnd" "c", linkedStage "c" "Calculation" "cc"] := rfl
  refine ⟨⟨fun stage hstage => ?_, by decide +kernel⟩, noAnchorCircle_of_rank (fun _ => 0) ?_,
    ⟨_, rfl, by decide +kernel⟩, rfl, ?_⟩
  · rw [hstages] at hstage
    rcases List.mem_pair.mp hstage with rfl | rfl <;> exact ⟨_, rfl, by decide, by decide⟩
  · rintro a b ⟨hmem, htype, -, -⟩
    rw [hstages] at hmem
    rcases List.mem_pair.mp hmem with rfl | rfl <;> exact absurd htype (by decide)
  · rintro type ⟨⟨s, hwalk, hstop⟩, -⟩
    have hlost : successor? (linkedStage "c" "Calculation" "cc") strayObject = none := rfl
    have hend := eq_of_walks hwalk (.single (.calculation rfl rfl)) (not_walkStep_of_stop hstop)
      (not_walkStep_of_lost hlost)
    rw [hend] at hstop
    exact successor?_ne_none_of_stop hstop hlost

end ReleaseReview
