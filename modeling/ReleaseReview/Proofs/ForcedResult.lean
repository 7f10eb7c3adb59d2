import ReleaseReview.Proofs.Assessment
import ReleaseReview.Proofs.Entries

/-!
# Forced results

A record can force the result of its considerations and the scale of their scores. Such a record is
entered without a look at the object. But a scale of zero does not count for anything, so a record
with such a scale forces nothing: the object passes in full. `forced_result_is_shown` says that this
is the only exception.
-/

namespace ReleaseReview

open Markup Text

/-- The record forces a result, a text that is not empty, and a scale, a text that is a number. -/
structure Forces (record : Json) (result : List Point) (scale : Float) : Prop where
  result_eq : record.member "Force Result" = .ok (.str result)
  result_ne : result ≠ []
  scale_eq : ∃ text, record.member "Score Scale" = .ok (.str text) ∧
    readScale text = .ok (.float scale)

/-- The entry of a consideration with nothing found. -/
def blankEntry (c : Consideration) (score : Number) (verdict : Verdict) : Entry :=
  ⟨c.title, .none, score, .int c.maxScore, verdict⟩

/-- The entry that a record asks for which forces a result and a scale. -/
def forcedEntry (c : Consideration) (result : List Point) (scale : Float) : Entry :=
  blankEntry c (.float (Float.ofInt c.maxScore * scale)) (.stated (.str result))

/-- The entry of a consideration that is passed in full. -/
def passedEntry (c : Consideration) : Entry :=
  blankEntry c (.int c.maxScore) .yes

theorem issues?_zero (r : Rubric) : r.issues? 0 0 = none := by
  unfold Rubric.issues?
  cases r.counting <;> rfl

/-- With nothing found, a sheet is graded in full. -/
theorem evaluate_full (r : Rubric) (maxScore : Number) :
    (Grade.full maxScore).evaluate r 0 0 = .ok (.full maxScore) := by
  simp only [Grade.evaluate, Grade.full, Rubric.outcome, issues?_zero]
  rfl

/-- A stated verdict is the grade, with the full score scaled, unless the scale is zero. -/
theorem evaluateWith_full (c : Consideration) (scale : Float) {verdict : Json}
    (h : verdict.isTrue = true) :
    (Grade.full (.int c.maxScore)).evaluateWith c.rubric 0 0 (some (.float scale)) verdict =
      .ok (if scale == 0 then .full (.int c.maxScore) else
        ⟨.float (Float.ofInt c.maxScore * scale), .int c.maxScore, .stated verdict, false⟩) := by
  simp only [Grade.evaluateWith, Number.isNonzero, h, Bool.and_true]
  cases scale == 0 with
  | true =>
    simp only [Bool.not_true, Bool.false_eq_true, if_false, if_true]
    exact evaluate_full c.rubric _
  | false =>
    simp only [Bool.not_false, if_true, Grade.state, Grade.full, c.scaled_maxScore scale]
    rfl

/-- The entry under a record that forces a result: the forced one, unless the scale is zero. -/
theorem entry_of_forces {isDate : DateReader} {configuration : Json} {object : Placed}
    {c : Consideration} {record : Json} {entry : Entry} {result : List Point} {scale : Float}
    (h : Forces record result scale)
    (hentry : Enters isDate configuration object (c, record) entry) :
    entry = if scale == 0 then passedEntry c else forcedEntry c result scale := by
  obtain ⟨sheet, hsheet, rfl⟩ := hentry
  obtain ⟨text, htext, hscale⟩ := h.scale_eq
  have hempty : (Json.str result).isText "" = false :=
    decide_eq_false h.result_ne
  have htrue : (Json.str result).isTrue = true := by
    simpa [Json.isTrue] using h.result_ne
  dsimp only at hsheet
  rw [sheetUnder, h.result_eq, ok_bind, htext, ok_bind, hempty] at hsheet
  obtain ⟨factor, hfactor, hsheet⟩ := bind_eq_ok.mp hsheet
  obtain rfl : Number.float scale = factor := Except.ok.inj (hscale.symm.trans hfactor)
  obtain ⟨grade, hgrade, hsheet⟩ := bind_eq_ok.mp hsheet
  obtain rfl := Except.ok.inj ((evaluateWith_full c scale htrue).symm.trans hgrade)
  rw [← pure_eq_ok.mp hsheet]
  cases scale == 0 <;> rfl

theorem toJson_passedEntry_ne (c : Consideration) (result : List Point) (scale : Float) :
    (passedEntry c).toJson ≠ (forcedEntry c result scale).toJson := by
  intro h
  simp [passedEntry, forcedEntry, blankEntry, Entry.toJson, Json.object] at h

/-- An active record is among those that entries are made of. -/
theorem mem_assignments {items : List Json} {record : Json} (hrecord : record ∈ items)
    {c : Consideration} (hactive : isActive record = true)
    (hheld : heldTitle? record = some c.title) :
    (c, record) ∈ assignments (items.filterMap chosen?) items := by
  have hchosen := chosen?_eq_some_iff.mpr ⟨hactive, hheld⟩
  refine List.mem_flatMap.mpr ⟨c, List.mem_filterMap.mpr ⟨record, hrecord, hchosen⟩, ?_⟩
  refine List.mem_map.mpr ⟨record, List.mem_filter.mpr ⟨hrecord, ?_⟩, rfl⟩
  rw [hheld, beq_self_eq_true]

/-- Each active record with a consideration's title has an entry, and what is shown for a record
that forces a result is that result, the full score scaled and no findings, if and only if the scale
is not zero. With a scale of zero it is a pass in full. -/
theorem forced_result_is_shown {isDate : DateReader}
    {processCandidates onProcesses : List Registered} {configuration : Json}
    {active : List Consideration} {object : Placed} {page : Page}
    (hactive : activeConsiderations processCandidates configuration = .ok (active, onProcesses))
    (hpage : objectPage isDate configuration active object = .ok page)
    (hblack : ¬Blacklists configuration object) :
    ∃ records items, configuration.member objectRecordsKey = .ok records ∧
      records.parts = .ok items ∧
      (∀ record ∈ items, ∀ c : Consideration, isActive record = true →
        heldTitle? record = some c.title → (c, record) ∈ assignments active items) ∧
      List.Forall₂ (fun (assigned : Consideration × Json) (shown : Json) =>
        ∀ result scale, Forces assigned.2 result scale →
          (shown = (forcedEntry assigned.1 result scale).toJson ↔ (scale == 0) = false) ∧
          ((scale == 0) = true → shown = (passedEntry assigned.1).toJson))
        (assignments active items) page.entries := by
  obtain ⟨records, items, hrecords, hitems, rfl⟩ := records_of_activeConsiderations hactive
  obtain ⟨kind, entries, hentries, hall⟩ := entries_of_objectPage hblack hrecords hitems hpage
  refine ⟨records, items, hrecords, hitems, fun record hrecord c => mem_assignments hrecord, ?_⟩
  rw [hentries, List.forall₂_map_right_iff]
  refine hall.imp fun assigned entry hentry result scale hforces => ?_
  rw [entry_of_forces hforces hentry]
  cases scale == 0 with
  | true => simp [toJson_passedEntry_ne]
  | false => simp

theorem activeConsiderations_singleton {record : Json} {c : Consideration}
    (hactive : isActive record = true) (hheld : heldTitle? record = some c.title) :
    activeConsiderations [] (plainConfiguration [record]) = .ok ([c], []) := by
  have hobjects : (plainConfiguration [record]).member objectRecordsKey = .ok (.arr [record]) := rfl
  have hprocesses : (plainConfiguration [record]).member processRecordsKey = .ok (.arr []) := rfl
  rw [activeConsiderations, hobjects, ok_bind, hprocesses, ok_bind,
    selectActive_singleton hactive hheld]
  rfl

theorem assignments_singleton {record : Json} {c : Consideration}
    (hheld : heldTitle? record = some c.title) : assignments [c] [record] = [(c, record)] := by
  simp [assignments, hheld]

/-- A record that forces a result with a scale of one half. -/
def halvingRecord : Json :=
  objectRecord Consideration.exposure.title true "Frequently" "0.5"

/-- A forced result with a scale of one half is shown, with half the score. -/
theorem half_scale_is_shown :
    ∃ page, objectPage Calendar.recognise (plainConfiguration [halvingRecord]) [.exposure]
        emptyObject = .ok page ∧
      page.entries = [(forcedEntry .exposure (points "Frequently") 0.5).toJson] := by
  obtain ⟨page, hpage⟩ := exists_of_toBool (x := objectPage Calendar.recognise
    (plainConfiguration [halvingRecord]) [.exposure] emptyObject) (by decide +kernel)
  have hactive : activeConsiderations [] (plainConfiguration [halvingRecord]) =
      .ok ([.exposure], []) := activeConsiderations_singleton rfl rfl
  obtain ⟨records, items, hrecords, hitems, -, hall⟩ :=
    forced_result_is_shown hactive hpage (not_blacklists_plainConfiguration _ _)
  cases hrecords
  cases hitems
  rw [assignments_singleton rfl, List.forall₂_cons_left_iff] at hall
  obtain ⟨shown, rest, hshown, hrest, hentries⟩ := hall
  have hforces : Forces halvingRecord (points "Frequently") 0.5 :=
    ⟨rfl, by decide, points "0.5", rfl, rfl⟩
  refine ⟨page, hpage, ?_⟩
  rw [hentries, List.forall₂_nil_left_iff.mp hrest, (hshown _ _ hforces).1.mpr (by decide +kernel)]

/-- A record that forces a result with a scale of zero. -/
def voidingRecord : Json :=
  objectRecord Consideration.exposure.title true "No" "0"

/-- A forced result with a scale of zero is not shown: the object passes in full. -/
theorem zero_scale_is_not_shown :
    Forces voidingRecord (points "No") 0 ∧
    activeConsiderations [] (plainConfiguration [voidingRecord]) = .ok ([.exposure], []) ∧
    ∃ page, objectPage Calendar.recognise (plainConfiguration [voidingRecord]) [.exposure]
        emptyObject = .ok page ∧
      page.entries = [(passedEntry .exposure).toJson] ∧
      page.entries ≠ [(forcedEntry .exposure (points "No") 0).toJson] := by
  have hforces : Forces voidingRecord (points "No") 0 := ⟨rfl, by decide, points "0", rfl, rfl⟩
  obtain ⟨page, hpage⟩ := exists_of_toBool (x := objectPage Calendar.recognise
    (plainConfiguration [voidingRecord]) [.exposure] emptyObject) (by decide +kernel)
  obtain ⟨kind, entries, hentries, hall⟩ :=
    entries_of_objectPage (not_blacklists_plainConfiguration _ _) rfl rfl hpage
  rw [assignments_singleton rfl, List.forall₂_cons_left_iff] at hall
  obtain ⟨entry, rest, hentry, hrest, rfl⟩ := hall
  have hzero : ((0 : Float) == 0) = true := by decide +kernel
  rw [List.forall₂_nil_left_iff.mp hrest, List.map_singleton, entry_of_forces hforces hentry, hzero,
    if_pos rfl] at hentries
  refine ⟨hforces, activeConsiderations_singleton rfl rfl, page, hpage, hentries, ?_⟩
  rw [hentries, ne_eq, List.singleton_inj]
  exact toJson_passedEntry_ne _ _ _

end ReleaseReview
