import ReleaseReview.Check.Documentation
import ReleaseReview.Proofs.Success

/-!
# Where missing conditions are filed

The check of documentation goes through an object four times: for descriptions, for inputs, for
outputs and for conditions. Only the last looks at the kind of the object, and only to file what it
found. `checkDocumentation_eq` takes the two apart: what is noted before (`judgeNarratives`) and
what is missing from each start (`missingEntry`) do not depend on the kind, and `filed` puts the
entries among the errors, among the warnings or nowhere.

So the same object comes to the same fault whatever its kind, or to findings that only differ by
these entries, which is `conditions_filed_by_kind`.
-/

namespace ReleaseReview

open Markup

/-! ## What is missing from a start -/

/-- The name of the page that a start is on, if it is on one with a name. -/
def startPage? (pages : PageIndex) (start : Element) : Option String :=
  (start.within? "subsheetid").bind fun id => pages.nameOf id.soleText?

/-- The start is on a page that needs documentation, and has not both conditions. -/
structure LacksConditions (pages : PageIndex) (start : Element) : Prop where
  onPage : ∃ name, startPage? pages start = some name ∧
    notBlacklisted undocumentedWords name = true
  lacking : start.within? "preconditions" = none ∨ start.within? "postconditions" = none

/-- What is to be said of a start without its conditions, and on which page. -/
def missingFinding (pages : PageIndex) (start : Element) : Finding :=
  ⟨missingConditions? start, startPage? pages start⟩

/-- What there is to be said of a start, if anything. -/
def missingEntry (pages : PageIndex) (start : Element) : Except Fault (Option Finding) := do
  match start.within? "subsheetid" with
  | none => return none
  | some id =>
    if ← nameNotBlacklisted undocumentedWords (pages.nameOf id.soleText?) then
      return if (missingConditions? start).isSome then some (missingFinding pages start) else none
    else return none

theorem isSome_missingConditions? (start : Element) :
    (missingConditions? start).isSome = true ↔
      start.within? "preconditions" = none ∨ start.within? "postconditions" = none := by
  unfold missingConditions?
  cases start.within? "preconditions" <;> cases start.within? "postconditions" <;> simp

instance (pages : PageIndex) (start : Element) : Decidable (LacksConditions pages start) :=
  decidable_of_iff ((startPage? pages start).any (notBlacklisted undocumentedWords) = true ∧
      (missingConditions? start).isSome = true) <| by
    rw [isSome_missingConditions?, Option.any_eq_true]
    exact ⟨fun h => ⟨h.1, h.2⟩, fun h => ⟨h.onPage, h.lacking⟩⟩

/-- If the page of a start can be told, there is an entry for it exactly if it lacks conditions. -/
theorem missingEntry_eq_ok {pages : PageIndex} {start : Element} {entry : Option Finding}
    (h : missingEntry pages start = .ok entry) :
    entry = if LacksConditions pages start then some (missingFinding pages start) else none := by
  unfold missingEntry at h
  split at h
  next hnone =>
    have hnot : ¬LacksConditions pages start := by
      rintro ⟨⟨name, hname, -⟩, -⟩
      simp [startPage?, hnone] at hname
    rw [if_neg hnot, ← pure_eq_ok.mp h]
  next id hid =>
    obtain ⟨listed, hlisted, h⟩ := bind_eq_ok.mp h
    obtain ⟨name, hname, hlisted⟩ := bind_eq_ok.mp hlisted
    obtain rfl := pure_eq_ok.mp hlisted
    have hpage : startPage? pages start = some name := by
      rw [startPage?, hid]
      exact need_eq_ok_iff.mp hname
    have hiff : LacksConditions pages start ↔ notBlacklisted undocumentedWords name = true ∧
        (missingConditions? start).isSome = true := by
      rw [isSome_missingConditions?]
      refine ⟨fun ⟨⟨other, hother, hlisted⟩, hlacking⟩ => ?_, fun h => ⟨⟨name, hpage, h.1⟩, h.2⟩⟩
      cases hpage.symm.trans hother
      exact ⟨hlisted, hlacking⟩
    split at h
    next htrue =>
      rw [← pure_eq_ok.mp h]
      simp only [hiff, htrue, true_and]
    next hfalse =>
      rw [← pure_eq_ok.mp h, if_neg fun hlacks => hfalse (hiff.mp hlacks).1]

theorem filterMap_ite_eq_map_filter {α β : Type} {p : α → Prop} [DecidablePred p] (f : α → β)
    (as : List α) :
    as.filterMap (fun a => if p a then some (f a) else none) = (as.filter (p ·)).map f := by
  induction as with
  | nil => rfl
  | cons a as ih => by_cases h : p a <;> simp [h, ih]

theorem entries_of_mapM {pages : PageIndex} {starts : List Placed} {found : List (Option Finding)}
    (h : starts.mapM (fun start => missingEntry pages start.toElement) = .ok found) :
    found.filterMap id = (starts.filter fun start => LacksConditions pages start.toElement).map
      fun start => missingFinding pages start.toElement := by
  rw [eq_map_of_mapM_eq_ok (fun _ _ => missingEntry_eq_ok) h, List.filterMap_map]
  exact filterMap_ite_eq_map_filter _ starts

/-! ## Filing -/

/-- The entry as it is worded for a wrapper. -/
def inWrapper (entry : Finding) : Finding :=
  { entry with name := entry.name.map (· ++ " in Wrapper") }

/-- The entries, filed by the kind of the object. -/
def filed (kind : Kind) (entries : List Finding) : Findings :=
  match kind with
  | .wrapper => ⟨[], entries.map inWrapper⟩
  | .base => ⟨entries, []⟩
  | _ => .none

theorem filed_nil (kind : Kind) : filed kind [] = .none := by
  cases kind <;> rfl

theorem filed_append (kind : Kind) (entries others : List Finding) :
    filed kind (entries ++ others) = filed kind entries ++ filed kind others := by
  cases kind <;> simp [filed] <;> rfl

/-- To judge a start is to find what is missing and then to file it. -/
theorem judgeConditions_eq (facts : Facts) (kind : Kind) (pages : PageIndex) (start : Element) :
    judgeConditions { facts with kind := .ok kind } pages start =
      (missingEntry pages start).map fun entry => filed kind entry.toList := by
  unfold judgeConditions missingEntry
  cases hid : start.within? "subsheetid" with
  | none => exact congrArg Except.ok (filed_nil kind).symm
  | some id =>
    dsimp only
    cases hlisted : nameNotBlacklisted undocumentedWords (pages.nameOf id.soleText?) with
    | error fault => rfl
    | ok listed =>
      rw [ok_bind, ok_bind]
      cases listed with
      | false => exact congrArg Except.ok (filed_nil kind).symm
      | true =>
        have hpage : startPage? pages start = pages.nameOf id.soleText? := by
          rw [startPage?, hid]
          rfl
        cases hmissing : missingConditions? start with
        | none => exact congrArg Except.ok (filed_nil kind).symm
        | some missing =>
          simp only [missingFinding, hmissing, hpage]
          cases kind <;> rfl

/-- A review that finds something of each item and then files it can file it all at the end. -/
theorem review_eq_map {α β : Type} {judge : α → Except Fault Findings} {find : α → Except Fault β}
    {file : β → Findings} (h : ∀ a, judge a = (find a).map file) (as : List α) :
    review as judge = (as.mapM find).map fun found => .join (found.map file) := by
  induction as with
  | nil => rfl
  | cons a as ih =>
    have ha := h a
    rw [List.mapM_cons]
    cases hfind : find a with
    | error fault =>
      rw [hfind] at ha
      exact review_cons_error as ha
    | ok b =>
      rw [hfind] at ha
      rw [review_cons_ok as ha, ih, ok_bind]
      cases as.mapM find <;> rfl

theorem join_map_filed (kind : Kind) (found : List (Option Finding)) :
    .join (found.map fun entry => filed kind entry.toList) = filed kind (found.filterMap id) := by
  induction found with
  | nil => exact (filed_nil kind).symm
  | cons entry found ih =>
    rw [List.map_cons, Findings.join_cons, ih, ← filed_append]
    cases entry <;> rfl

theorem review_judgeConditions (facts : Facts) (kind : Kind) (pages : PageIndex)
    (starts : List Placed) :
    review starts (fun start => judgeConditions { facts with kind := .ok kind } pages start) =
      (starts.mapM fun start => missingEntry pages start.toElement).map fun found =>
        filed kind (found.filterMap id) := by
  rw [review_eq_map fun start : Placed => judgeConditions_eq facts kind pages start.toElement]
  simp only [join_map_filed]

/-! ## What is noted before -/

/-- The kind of the object only matters for filing the entries. -/
theorem checkDocumentation_eq (object : Placed) (facts : Facts) (kind : Kind) :
    checkDocumentation object { facts with kind := .ok kind } = (do
      let (pages, narratives) ← judgeNarratives object
      let found ← (stagesOf object "Start").mapM fun start => missingEntry pages start.toElement
      return .found (narratives ++ filed kind (found.filterMap id))) := by
  unfold checkDocumentation judgeNarratives
  simp only [bind_assoc, pure_bind, review_judgeConditions]
  refine bind_congr fun pages => bind_congr fun _ => bind_congr fun _ => bind_congr fun _ => ?_
  cases (stagesOf object "Start").mapM fun start => missingEntry pages start.toElement <;> rfl

theorem warnings_review {α : Type} {judge : α → Except Fault Findings} {items : List α}
    (h : ∀ item, Yields (fun share => share.warnings = []) (judge item)) :
    Yields (fun findings => findings.warnings = []) (review items judge) :=
  .bind (.mapM fun item _ => h item) fun _ hshares => .pure (List.flatMap_eq_nil_iff.mpr hshares)

theorem warnings_judgeDescription (info : Element) :
    Yields (fun share => share.warnings = []) (judgeDescription info) := by
  refine .after fun description => .ite (fun _ => .pure rfl) fun _ => .after fun listed => ?_
  exact .ite (fun _ => .pure rfl) fun _ => .pure rfl

theorem warnings_judgeParameters (pages : PageIndex) (list heading : String)
    (stages : List Placed) :
    Yields (fun share => share.warnings = []) (judgeParameters pages list heading stages) := by
  refine warnings_review fun stage => warnings_review fun parameter => ?_
  exact .ite (fun _ => .pure rfl) fun _ => .after fun id => .pure rfl

theorem warnings_judgeNarratives (object : Placed) :
    Yields (fun noted => PageIndex.of object = .ok noted.1 ∧ noted.2.warnings = [])
      (judgeNarratives object) := by
  refine .bind_ok fun pages hpages => ?_
  refine .bind (warnings_review warnings_judgeDescription) fun descriptions hdescriptions => ?_
  refine .bind (warnings_judgeParameters _ _ _ _) fun inputs hinputs => ?_
  refine .bind (warnings_judgeParameters _ _ _ _) fun outputs houtputs => .pure ⟨hpages, ?_⟩
  simp [hdescriptions, hinputs, houtputs]

/-! ## The check -/

/-- An object comes to the same fault whatever its kind, or it has findings for each kind. The
entries for those starts that lack conditions are then the last errors of a base object, the only
warnings of a wrapper, and nowhere for surface automation. The other errors are the same for all
three. -/
theorem conditions_filed_by_kind (object : Placed) (facts : Facts) :
    (∃ fault, ∀ kind,
      checkDocumentation object { facts with kind := .ok kind } = .error fault) ∨
    ∃ pages errors entries, PageIndex.of object = .ok pages ∧
      entries = ((stagesOf object "Start").filter fun start =>
        LacksConditions pages start.toElement).map
          (fun start => missingFinding pages start.toElement) ∧
      checkDocumentation object { facts with kind := .ok .base } =
        .ok (.found ⟨errors ++ entries, []⟩) ∧
      checkDocumentation object { facts with kind := .ok .surfaceBase } =
        .ok (.found ⟨errors, []⟩) ∧
      checkDocumentation object { facts with kind := .ok .wrapper } =
        .ok (.found ⟨errors, entries.map inWrapper⟩) := by
  simp only [checkDocumentation_eq]
  cases hnarratives : judgeNarratives object with
  | error fault => exact .inl ⟨fault, fun _ => rfl⟩
  | ok noted =>
    obtain ⟨pages, errors, warnings⟩ := noted
    obtain ⟨hpages, rfl⟩ := warnings_judgeNarratives object _ hnarratives
    simp only [ok_bind]
    cases hfound : (stagesOf object "Start").mapM
        fun start => missingEntry pages start.toElement with
    | error fault => exact .inl ⟨fault, fun _ => rfl⟩
    | ok found =>
      refine .inr ⟨pages, errors, found.filterMap id, hpages, entries_of_mapM hfound, rfl, ?_, ?_⟩
      · exact congrArg (fun noted => Except.ok (Outcome.found ⟨noted, []⟩)) (List.append_nil errors)
      · exact congrArg (fun noted => Except.ok (Outcome.found ⟨noted, _⟩)) (List.append_nil errors)

/-- A start on the initial page, and one on a page that lacks its postcondition. -/
def halfDocumentedObject : Placed :=
  .alone ⟨"process", [("name", "Base A")],
    [.element "subsheet" [("subsheetid", "page")] [.element "name" [] [.leaf .text "Read"]],
     .element "stage" [("type", "Start")] [],
     .element "stage" [("type", "Start")]
      [.element "subsheetid" [] [.leaf .text "page"], .element "preconditions" [] []]]⟩

/-- The missing postcondition is an error of a base object and a warning of a wrapper. -/
theorem missing_postcondition_is_filed :
    ∃ errors,
      checkDocumentation halfDocumentedObject ⟨.ok .base, .ok false, .ok false⟩ =
        .ok (.found ⟨errors ++ [⟨"No Postcondition", "Read"⟩], []⟩) ∧
      checkDocumentation halfDocumentedObject ⟨.ok .surfaceBase, .ok false, .ok false⟩ =
        .ok (.found ⟨errors, []⟩) ∧
      checkDocumentation halfDocumentedObject ⟨.ok .wrapper, .ok false, .ok false⟩ =
        .ok (.found ⟨errors, [⟨"No Postcondition in Wrapper", "Read"⟩]⟩) := by
  rcases conditions_filed_by_kind halfDocumentedObject ⟨.ok .base, .ok false, .ok false⟩ with
    ⟨fault, hfault⟩ | ⟨pages, errors, entries, hpages, hentries, hbase, hsurface, hwrapper⟩
  · cases hfault .base
  · obtain rfl : [(some "page", some "Read")] = pages := Except.ok.inj hpages
    obtain rfl : entries = [⟨"No Postcondition", "Read"⟩] := hentries.trans (by decide +kernel)
    exact ⟨errors, hbase, hsurface, hwrapper⟩

end ReleaseReview
