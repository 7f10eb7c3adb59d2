import Mathlib.Data.List.Sublists
import ReleaseReview.Check.Technology
import ReleaseReview.Proofs.ModelElements

/-!
# Recommended attributes

In some technologies there are attributes by which each element should be found. The check counts
them down over the whole model: an attribute that one element uses is no longer missed on the
elements of its technology that come after it.

So the warning on an element goes by those before it. It names the recommended attributes that
neither the element nor any before it in its technology uses (`missedAfter`), and
`recommended_missed_by_history` says that these are the check's warnings. It also says which
elements are warned about as if each were judged by itself: those that use every recommended
attribute that is used before them.
-/

namespace ReleaseReview

open Markup Text

/-! ## Elements that are examined -/

/-- The names of the attributes that an element is found by. -/
def namesInUse (element : Element) : List String :=
  ((attributesOf element).filter (·.isSet "inuse")).filterMap (·.attr? "name")

/-- An element with rules on its attributes: those of its technology. -/
structure Examined where
  element : Element
  type : String
  mode : SpyMode

/-- The element, if it is of a technology with rules. An SAP element has none after the root. -/
def examined? (rootFound : Bool) (element : Element) : Option Examined :=
  match baseType element with
  | .ok (some type) =>
    if rootFound && occurs "SAP" type then none
    else (SpyMode.ofType? type).map fun mode => ⟨element, type, mode⟩
  | _ => none

/-- The elements of a model that are examined, in order. -/
def examined (elements : List Element) : List Examined :=
  (aboveRoot elements).filterMap (examined? false) ++
    (belowRoot elements).filterMap (examined? true)

theorem examined_cons_of_root {element : Element} (elements : List Element)
    (h : isRoot element = true) :
    examined (element :: elements) = elements.filterMap (examined? true) := by
  rw [examined, aboveRoot_cons_of_root elements h, belowRoot_cons_of_root elements h]
  rfl

theorem examined_cons_of_not_root {element : Element} (elements : List Element)
    (h : isRoot element = false) :
    examined (element :: elements) =
      [element].filterMap (examined? false) ++ examined elements := by
  rw [examined, aboveRoot_cons_of_not_root elements h, belowRoot_cons_of_not_root elements h,
    examined, ← List.append_assoc, ← List.filterMap_append, List.singleton_append]

theorem judgeTechnology_cons_of_root {missed : Missed} {element : Element}
    {elements : List Element} (hroot : isRoot element = true) :
    judgeTechnology missed false (element :: elements) = judgeTechnology missed true elements := by
  rw [judgeTechnology, baseType_of_isRoot hroot]
  rfl

/-- Any other element is passed over if there are no rules for it. If there are, it is examined, and
the elements after it go on with what it leaves of the recommended attributes. -/
theorem judgeTechnology_cons_eq_ok {missed : Missed} {rootFound : Bool} {element : Element}
    {elements : List Element} {findings : Findings}
    (h : judgeTechnology missed rootFound (element :: elements) = .ok findings)
    (hroot : rootFound = true ∨ isRoot element = false) :
    (examined? rootFound element = none ∧
      judgeTechnology missed rootFound elements = .ok findings) ∨
    ∃ item left first rest, examined? rootFound element = some item ∧
      examineElement item.type item.mode.unwanted (missed.of item.mode) item.element =
        (left, .ok first) ∧
      judgeTechnology (missed.set item.mode left) rootFound elements = .ok rest ∧
      findings = first ++ rest := by
  obtain ⟨stated, hstated, h⟩ := bind_eq_ok.mp h
  rw [not_first_root hstated hroot, if_neg Bool.false_ne_true] at h
  cases stated with
  | none => cases h
  | some type =>
    dsimp only at h
    rw [examined?, hstated]
    dsimp only
    split at h
    next hsap => exact .inl ⟨if_pos hsap, h⟩
    next hsap =>
      rw [if_neg hsap]
      cases hmode : SpyMode.ofType? type with
      | none =>
        rw [hmode] at h
        exact .inl ⟨rfl, h⟩
      | some mode =>
        rw [hmode] at h
        obtain ⟨first, hfirst, h⟩ := bind_eq_ok.mp h
        obtain ⟨rest, hrest, h⟩ := bind_eq_ok.mp h
        exact .inr ⟨⟨element, type, mode⟩, _, first, rest, rfl, Prod.ext rfl hfirst, hrest,
          (pure_eq_ok.mp h).symm⟩

/-! ## What is missed -/

/-- The recommended attributes of a technology that none of these elements of it uses. -/
def missedAfter (items : List Examined) (mode : SpyMode) : List String :=
  (Missed.all.of mode).filter fun name =>
    ∀ item ∈ items, item.mode = mode → name ∉ namesInUse item.element

/-- The warnings on an element that comes after these: one, if there is something missed. -/
def warningsOn (before : List Examined) (item : Examined) : List Finding :=
  (judgeMissed item.element item.type (missedAfter (before ++ [item]) item.mode)).warnings

/-- The warnings on elements that come one after another after these. -/
def warningsAfter (before : List Examined) : List Examined → List Finding
  | [] => []
  | item :: items => warningsOn before item ++ warningsAfter (before ++ [item]) items

theorem warningsAfter_append (before items others : List Examined) :
    warningsAfter before (items ++ others) =
      warningsAfter before items ++ warningsAfter (before ++ items) others := by
  induction items generalizing before with
  | nil => simp [warningsAfter]
  | cons item items ih =>
    rw [List.cons_append, warningsAfter, ih, warningsAfter, List.append_assoc, List.append_assoc,
      List.singleton_append]

/-! ## One element -/

/-- The attributes in use are struck off the recommended ones, unless there is a fault. -/
theorem examineUsed_eq_ok {unwanted recommended names : List String} {attributes : List Element}
    (h : (examineUsed unwanted recommended attributes).2 = .ok names) :
    (examineUsed unwanted recommended attributes).1 =
      recommended.diff (attributes.filterMap (·.attr? "name")) := by
  induction attributes generalizing recommended names with
  | nil => rfl
  | cons attr attributes ih =>
    rw [examineUsed] at h ⊢
    split at h
    next => cases h
    next =>
      obtain ⟨rest, hrest, -⟩ := map_eq_ok h
      refine (ih hrest).trans ?_
      rw [strike, List.filterMap_cons]
      cases attr.attr? "name" with
      | none => rfl
      | some name => exact (List.diff_cons recommended _ name).symm

theorem attributesInUse_eq_ok {element : Element} {used : List Element}
    (h : attributesInUse element = .ok used) :
    used = (attributesOf element).filter (·.isSet "inuse") := by
  obtain ⟨attributes, hattributes, h⟩ := bind_eq_ok.mp h
  obtain ⟨all, hall, h⟩ := bind_eq_ok.mp h
  rw [attributesOf_eq (need_eq_ok_iff.mp hattributes) hall]
  exact (pure_eq_ok.mp h).symm

theorem warnings_judgeMisused (element : Element) (type : String) (names : List String) :
    (judgeMisused element type names).warnings = [] := by
  unfold judgeMisused
  split <;> rfl

/-- An element strikes off the attributes that it is found by, and what is left is missed. -/
theorem examineElement_eq_ok {type : String} {unwanted recommended : List String}
    {element : Element} {findings : Findings}
    (h : (examineElement type unwanted recommended element).2 = .ok findings) :
    (examineElement type unwanted recommended element).1 =
        recommended.diff (namesInUse element) ∧
      findings.warnings =
        (judgeMissed element type (recommended.diff (namesInUse element))).warnings := by
  unfold examineElement at h ⊢
  split at h
  next => cases h
  next used hused =>
    obtain ⟨names, hnames, rfl⟩ := map_eq_ok h
    have hleft : (examineUsed unwanted recommended used).1 =
        recommended.diff (namesInUse element) := by
      rw [examineUsed_eq_ok hnames, attributesInUse_eq_ok hused]
      rfl
    refine ⟨hleft, ?_⟩
    rw [Findings.warnings_append, warnings_judgeMisused, hleft, List.nil_append]

/-! ## Counting down -/

theorem Missed.of_set_diff (missed : Missed) (mode mode' : SpyMode) (used : List String) :
    (missed.set mode ((missed.of mode).diff used)).of mode' =
      if mode = mode' then (missed.of mode').diff used else missed.of mode' := by
  cases mode <;> cases mode' <;> simp [Missed.set, Missed.of]

theorem nodup_of_all (mode : SpyMode) : (Missed.all.of mode).Nodup := by
  cases mode <;> decide

theorem mem_missedAfter {items : List Examined} {mode : SpyMode} {name : String} :
    name ∈ missedAfter items mode ↔ name ∈ Missed.all.of mode ∧
      ∀ item ∈ items, item.mode = mode → name ∉ namesInUse item.element := by
  simp [missedAfter]

theorem missedAfter_nil (mode : SpyMode) : missedAfter [] mode = Missed.all.of mode := by
  simp [missedAfter]

theorem missedAfter_append (before : List Examined) (item : Examined) (mode : SpyMode) :
    missedAfter (before ++ [item]) mode =
      if item.mode = mode then (missedAfter before mode).diff (namesInUse item.element)
      else missedAfter before mode := by
  have hnodup : (missedAfter before mode).Nodup := (nodup_of_all mode).filter _
  rw [hnodup.sdiff_eq_filter, missedAfter, missedAfter]
  simp only [List.forall_mem_append, List.forall_mem_singleton]
  split
  next hmode =>
    rw [List.filter_filter]
    refine List.filter_congr fun name _ => ?_
    simp [hmode, and_comm]
  next hmode => simp [hmode]

/-- What is missed is kept up to date from element to element. -/
theorem missedAfter_step {missed : Missed} {before : List Examined}
    (hmissed : ∀ mode, missed.of mode = missedAfter before mode) (item : Examined)
    (mode : SpyMode) :
    (missed.set item.mode ((missed.of item.mode).diff (namesInUse item.element))).of mode =
      missedAfter (before ++ [item]) mode := by
  rw [Missed.of_set_diff, missedAfter_append, hmissed]

/-- Going through the elements, whatever came before them, gives the warnings on these of them. -/
def CountsDown (rootFound : Bool) (elements : List Element) (items : List Examined) : Prop :=
  ∀ missed before findings, (∀ mode, missed.of mode = missedAfter before mode) →
    judgeTechnology missed rootFound elements = .ok findings →
    findings.warnings = warningsAfter before items

namespace CountsDown

variable {rootFound : Bool} {element : Element} {elements : List Element} {items : List Examined}

theorem nil (rootFound : Bool) : CountsDown rootFound [] [] := by
  intro missed before findings _ h
  cases h
  rfl

/-- The first root is passed over. -/
theorem root (h : CountsDown true elements items) (hroot : isRoot element = true) :
    CountsDown false (element :: elements) items := by
  intro missed before findings hmissed hfindings
  rw [judgeTechnology_cons_of_root hroot] at hfindings
  exact h missed before findings hmissed hfindings

/-- Any other element is examined before those after it, if there are rules for it. -/
theorem cons (h : CountsDown rootFound elements items)
    (hroot : rootFound = true ∨ isRoot element = false) :
    CountsDown rootFound (element :: elements)
      ([element].filterMap (examined? rootFound) ++ items) := by
  intro missed before findings hmissed hfindings
  obtain ⟨hnone, hfindings⟩ | ⟨item, left, first, rest, hsome, hfirst, hrest, rfl⟩ :=
    judgeTechnology_cons_eq_ok hfindings hroot
  · rw [List.filterMap_cons_none hnone]
    exact h missed before findings hmissed hfindings
  · rw [List.filterMap_cons_some hsome]
    obtain ⟨hleft, hwarnings⟩ := examineElement_eq_ok (congrArg Prod.snd hfirst)
    rw [hfirst] at hleft
    subst hleft
    -- What the element leaves is what is missed after it, which is where the others go on.
    have hnext := missedAfter_step hmissed item
    have hon : warningsOn before item = first.warnings := by
      rw [warningsOn, missedAfter_append, if_pos rfl, ← hmissed, hwarnings]
    rw [Findings.warnings_append, h _ _ rest hnext hrest, ← hon]
    rfl

theorem of_true (elements : List Element) :
    CountsDown true elements (elements.filterMap (examined? true)) := by
  induction elements with
  | nil => exact nil true
  | cons element elements ih =>
    rw [← List.singleton_append, List.filterMap_append]
    exact ih.cons (.inl rfl)

theorem of_false (elements : List Element) : CountsDown false elements (examined elements) := by
  induction elements with
  | nil => exact nil false
  | cons element elements ih =>
    cases hroot : isRoot element with
    | true =>
      rw [examined_cons_of_root elements hroot]
      exact (of_true elements).root hroot
    | false =>
      rw [examined_cons_of_not_root elements hroot]
      exact ih.cons (.inr hroot)

end CountsDown

/-! ## Elements by themselves -/

/-- Different recommended attributes are listed differently. -/
theorem listed_injOn (mode : SpyMode) : ∀ names ∈ (Missed.all.of mode).sublists,
    ∀ others ∈ (Missed.all.of mode).sublists, listed names = listed others → names = others := by
  cases mode <;> decide +kernel

theorem missedAfter_mem_sublists (items : List Examined) (mode : SpyMode) :
    missedAfter items mode ∈ (Missed.all.of mode).sublists :=
  List.mem_sublists.mpr List.filter_sublist

theorem names_eq_of_warnings_judgeMissed {element : Element} {type : String} {mode : SpyMode}
    {names others : List String} (hnames : names ∈ (Missed.all.of mode).sublists)
    (hothers : others ∈ (Missed.all.of mode).sublists)
    (h : (judgeMissed element type names).warnings = (judgeMissed element type others).warnings) :
    names = others := by
  unfold judgeMissed at h
  split at h <;> split at h
  next hempty hempty' => rw [List.isEmpty_iff.mp hempty, List.isEmpty_iff.mp hempty']
  next => cases h
  next => cases h
  next =>
    obtain ⟨hmessage, -⟩ := List.cons.inj h
    have hlisted := Option.some.inj (congrArg Finding.name hmessage)
    exact listed_injOn mode names hnames others hothers ((String.append_right_inj _).mp hlisted)

/-- An element is warned about as if it came first exactly if it uses every recommended attribute
that is used before it in its technology. -/
theorem warningsOn_eq_iff (before : List Examined) (item : Examined) :
    warningsOn before item = warningsOn [] item ↔
      ∀ name ∈ Missed.all.of item.mode,
        (∃ other ∈ before, other.mode = item.mode ∧ name ∈ namesInUse other.element) →
          name ∈ namesInUse item.element := by
  have hnames : warningsOn before item = warningsOn [] item ↔
      missedAfter (before ++ [item]) item.mode = missedAfter [item] item.mode := by
    refine ⟨names_eq_of_warnings_judgeMissed (missedAfter_mem_sublists _ _)
      (missedAfter_mem_sublists _ _), fun h => ?_⟩
    rw [warningsOn, h]
    rfl
  rw [hnames]
  constructor
  · rintro h name hname ⟨other, hother, hmode, huses⟩
    by_contra hnot
    have hmissed : name ∈ missedAfter [item] item.mode := by
      rw [mem_missedAfter]
      exact ⟨hname, by simpa using hnot⟩
    rw [← h, mem_missedAfter] at hmissed
    exact hmissed.2 other (List.mem_append_left _ hother) hmode huses
  · intro h
    refine List.filter_congr fun name hname => ?_
    have hitem : name ∉ namesInUse item.element →
        ∀ other ∈ before, other.mode = item.mode → name ∉ namesInUse other.element :=
      fun hnot other hother hmode huses => hnot (h name hname ⟨other, hother, hmode, huses⟩)
    rw [decide_eq_decide, List.forall_mem_append, List.forall_mem_singleton]
    simpa using hitem

/-! ## The check -/

theorem warnings_judgeApplication (application : String) :
    (judgeApplication application).findings.warnings = [] := by
  unfold judgeApplication
  split <;> rfl

/-- The warnings are those on the settings, and then for each element that is examined the one on
what is missed, given the elements before it. It is the one that the element would have by itself
exactly if it uses every recommended attribute that is used before it in its technology. -/
theorem recommended_missed_by_history {object : Placed} {facts : Facts} {kind : Kind}
    {model : Element} {outcome : Outcome} (hkind : facts.kind = .ok kind)
    (hwrapper : kind ≠ .wrapper) (hmodel : model? object = some model)
    (howned : inheritsModel object = false) (h : checkTechnology object facts = .ok outcome) :
    ∃ application settings, applicationType model = .ok application ∧
      judgeSettings model application = .ok settings ∧
      outcome.findings.warnings =
        settings.warnings ++ warningsAfter [] (examined (modelElements model)) ∧
      ∀ before item after, examined (modelElements model) = before ++ item :: after →
        warningsAfter [] (examined (modelElements model)) = warningsAfter [] before ++
          (warningsOn before item ++ warningsAfter (before ++ [item]) after) ∧
        (warningsOn before item = warningsOn [] item ↔
          ∀ name ∈ Missed.all.of item.mode,
            (∃ other ∈ before, other.mode = item.mode ∧ name ∈ namesInUse other.element) →
              name ∈ namesInUse item.element) := by
  rw [checkTechnology, checkModel_of_model hkind hwrapper hmodel howned] at h
  obtain ⟨application, happlication, h⟩ := bind_eq_ok.mp h
  obtain ⟨settings, hsettings, h⟩ := bind_eq_ok.mp h
  obtain ⟨findings, hfindings, h⟩ := bind_eq_ok.mp h
  obtain rfl := pure_eq_ok.mp h
  have hwarnings := CountsDown.of_false (modelElements model) .all [] findings
    (fun mode => (missedAfter_nil mode).symm) hfindings
  refine ⟨application, settings, happlication, hsettings, ?_, fun before item after hsplit => ?_⟩
  · simp only [Outcome.add, Findings.warnings_append, warnings_judgeApplication, List.nil_append,
      hwarnings]
  · refine ⟨?_, warningsOn_eq_iff before item⟩
    rw [hsplit, warningsAfter_append, List.nil_append, warningsAfter]

/-- A button that is found by these attributes. -/
def foundButton (name : String) (used : List String) : Element :=
  spiedElement name "AAButton" (used.map fun attr =>
    ⟨"attribute", [("name", attr), ("inuse", "True")], []⟩)

/-- The button as it is examined. -/
def examinedButton (name : String) (used : List String) : Examined :=
  ⟨foundButton name used, "AAButton", .activeAccessibility⟩

/-- The first button uses one of the recommended attributes and the second the other: there is a
warning on the first only, though by itself the second would have one. -/
theorem second_button_is_not_warned_about :
    ∃ outcome, checkTechnology (objectWithElements
        [foundButton "A" ["MatchIndex"], foundButton "B" ["Invisible"]])
          ⟨.ok .base, .ok false, .ok false⟩ = .ok outcome ∧
      outcome.findings.warnings = warningsOn [] (examinedButton "A" ["MatchIndex"]) ∧
      warningsOn [examinedButton "A" ["MatchIndex"]] (examinedButton "B" ["Invisible"]) ≠
        warningsOn [] (examinedButton "B" ["Invisible"]) := by
  obtain ⟨outcome, hcheck⟩ : ∃ outcome, checkTechnology (objectWithElements
      [foundButton "A" ["MatchIndex"], foundButton "B" ["Invisible"]])
        ⟨.ok .base, .ok false, .ok false⟩ = .ok outcome := ⟨_, rfl⟩
  obtain ⟨application, settings, happlication, hsettings, hwarnings, hiff⟩ :=
    recommended_missed_by_history rfl (by decide) rfl rfl hcheck
  cases happlication
  cases hsettings
  refine ⟨outcome, hcheck, hwarnings, fun h => ?_⟩
  have huses := (hiff [examinedButton "A" ["MatchIndex"]] (examinedButton "B" ["Invisible"]) []
    rfl).2.mp h "MatchIndex" (by decide) ⟨_, List.mem_singleton.mpr rfl, rfl, by decide⟩
  exact absurd huses (by decide)

/-- The first button uses all that is recommended, and then nothing is missed on the second, which
uses none of it. -/
theorem bare_button_is_not_warned_about :
    ∃ outcome, checkTechnology (objectWithElements
        [foundButton "Button - A" ["MatchIndex", "Invisible"], foundButton "Button - B" []])
          ⟨.ok .base, .ok false, .ok false⟩ = .ok outcome ∧
      outcome.findings.warnings = [] ∧
      namesInUse (foundButton "Button - B" []) = [] ∧
      warningsOn [] (examinedButton "Button - B" []) =
        [⟨some ("Attribute(s) are recommended to be be used for element type 'AAButton'.\n" ++
          "Attributes: 'MatchIndex', 'Invisible'"), some "Button - B"⟩] :=
  ⟨_, rfl, rfl, rfl, by decide +kernel⟩

end ReleaseReview
