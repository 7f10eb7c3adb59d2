import Mathlib.Data.List.Nodup
import Mathlib.Data.List.Pairwise
import ReleaseReview.Calendar.Recognise
import ReleaseReview.Proofs.Success
import ReleaseReview.Report.Configuration
import ReleaseReview.Report.ObjectPage

/-!
# Entries of an object's page

A configuration is searched twice for what a page about an object holds. First each active record
chooses the consideration whose title it holds (`chosen?`). Then each chosen consideration is
entered once for every record with its title, whether or not that record is active. `assignments`
pairs the considerations with their records in this order, and `entries_of_objectPage` says that the
entries of a page are those of the pairs.

So the entries with a title are as many as the records that choose it times the records that hold
it. `titles_of_objectPage` says which titles a page shows, and that each shows once if no title is
held twice.
-/

namespace ReleaseReview

open Markup Text

/-! ## Records -/

/-- Is the record active? -/
def isActive (record : Json) : Bool :=
  match record.member "Active" with
  | .ok active => active.isTrue
  | .error _ => false

/-- The title that a record on objects holds, if it is a plain text. -/
def heldTitle? (record : Json) : Option String :=
  match record.member objectTitleKey with
  | .ok title => title.plain?
  | .error _ => none

/-- The titles of all considerations. -/
def titles : List String :=
  Consideration.all.map Consideration.title

theorem nodup_titles : titles.Nodup := by
  decide +kernel

theorem title_injective : Function.Injective Consideration.title :=
  fun c d h => List.inj_on_of_nodup_map nodup_titles c.mem_all d.mem_all h

theorem trimPoints_points {s : String} {cs : List Char} (hs : s = String.ofList cs)
    (h : cs.head?.any isBlank = false ∧ cs.getLast?.any isBlank = false) :
    trimPoints (points s) = points s := by
  subst hs
  rw [points, String.toList_ofList]
  refine trimBoth_eq_self ?_ ?_
  · rw [List.head?_map, Option.any_map]
    exact h.1
  · rw [List.getLast?_map, Option.any_map]
    exact h.2

/-- No title has blanks around it. -/
theorem trimPoints_title (c : Consideration) : trimPoints (points c.title) = points c.title := by
  cases c with
  | documentation | globalTimeout | hasAttach | notArbitrary =>
    exact trimPoints_points String.ofList_append.symm (by decide)
  | _ => exact trimPoints_points rfl (by decide)

/-- The consideration that a record chooses: the one whose title it holds, if it is active. -/
def chosen? (record : Json) : Option Consideration :=
  if isActive record then Consideration.all.find? fun c => heldTitle? record = some c.title
  else none

theorem chosen?_eq_some_iff {record : Json} {c : Consideration} :
    chosen? record = some c ↔ isActive record = true ∧ heldTitle? record = some c.title := by
  unfold chosen?
  split
  next hactive =>
    rw [and_iff_right hactive]
    constructor
    · intro h
      simpa using List.find?_some h
    · intro h
      cases hfound : Consideration.all.find? fun d => heldTitle? record = some d.title with
      | none => exact absurd (List.find?_eq_none.mp hfound c c.mem_all) (by simp [h])
      | some d =>
        have hd : heldTitle? record = some d.title := by simpa using List.find?_some hfound
        rw [title_injective (Option.some.inj (hd.symm.trans h))]
  next hactive => simp [hactive]

/-- The considerations that a configuration selects are those that its records choose. -/
theorem selectActive_eq {records : Json} {items : List Json} {active : List Consideration}
    (hitems : records.parts = .ok items)
    (h : selectActive Consideration.all Consideration.title objectTitleKey records = .ok active) :
    active = items.filterMap chosen? := by
  rw [selectActive, hitems, ok_bind] at h
  obtain ⟨chosen, hchosen, h⟩ := bind_eq_ok.mp h
  have hchoice : chosen = items.map chosen? := by
    refine eq_map_of_mapM_eq_ok (fun record choice hrecord => ?_) hchosen
    obtain ⟨stated, hstated, hrecord⟩ := bind_eq_ok.mp hrecord
    have hactive : isActive record = stated.isTrue := by rw [isActive, hstated]
    unfold chosen?
    rw [hactive]
    split at hrecord
    next hnot =>
      rw [if_neg (by simpa using hnot)]
      exact (pure_eq_ok.mp hrecord).symm
    next hnot =>
      obtain ⟨name, hname, hrecord⟩ := bind_eq_ok.mp hrecord
      rw [if_pos (by simpa using hnot), ← pure_eq_ok.mp hrecord]
      congr 1
      funext c
      rw [heldTitle?, hname, Bool.eq_iff_iff, Json.isText_iff, decide_eq_true_iff]
  rw [← pure_eq_ok.mp h, hchoice, List.filterMap_map, Function.id_comp]

/-! ## Entries -/

/-- What entries are made of: each active consideration with every record that holds its title. -/
def assignments (active : List Consideration) (items : List Json) : List (Consideration × Json) :=
  active.flatMap fun c =>
    (items.filter fun record => heldTitle? record == some c.title).map fun record => (c, record)

/-- The entry is the one that a consideration gives under a record. -/
def Enters (isDate : DateReader) (configuration : Json) (object : Placed)
    (assigned : Consideration × Json) (entry : Entry) : Prop :=
  ∃ sheet, sheetUnder isDate configuration object assigned.1 assigned.2 = .ok sheet ∧
    entry = .ofSheet sheet

variable {isDate : DateReader}

theorem entries_of_entriesFor {configuration : Json} {object : Placed} {records : Json}
    {items : List Json} {c : Consideration} {entries : List Entry}
    (hitems : records.parts = .ok items)
    (h : entriesFor isDate configuration object records c = .ok entries) :
    List.Forall₂ (Enters isDate configuration object)
      ((items.filter fun record => heldTitle? record == some c.title).map fun record => (c, record))
      entries := by
  rw [entriesFor, hitems, ok_bind] at h
  obtain ⟨found, hfound, h⟩ := bind_eq_ok.mp h
  rw [← pure_eq_ok.mp h, List.forall₂_map_left_iff]
  refine forall₂_filterMap ((mapM_eq_ok_iff.mp hfound).imp fun record entry? hrecord => ?_)
  obtain ⟨name, hname, hrecord⟩ := bind_eq_ok.mp hrecord
  have hheld : heldTitle? record = name.plain? := by rw [heldTitle?, hname]
  rw [hheld]
  split at hrecord
  next htitle =>
    obtain ⟨sheet, hsheet, hrecord⟩ := bind_eq_ok.mp hrecord
    exact Or.inl ⟨by simpa [Json.isText_iff] using htitle, _, (pure_eq_ok.mp hrecord).symm, sheet,
      hsheet, rfl⟩
  next htitle =>
    exact Or.inr ⟨by simpa [Json.isText_iff] using htitle, (pure_eq_ok.mp hrecord).symm⟩

/-- The configuration's blacklist keeps the object out of the review. -/
def Blacklists (configuration : Json) (object : Placed) : Prop :=
  ∃ blacklist name, configuration.member "blacklist" = .ok blacklist ∧
    object.attr? "name" = some name ∧ isBlacklisted blacklist name = .ok true

theorem entries_of_objectEntries {configuration : Json} {active : List Consideration}
    {object : Placed} {name : String} {records : Json} {items : List Json} {entries : List Entry}
    (hname : object.attr? "name" = some name) (hblack : ¬Blacklists configuration object)
    (hrecords : configuration.member objectRecordsKey = .ok records)
    (hitems : records.parts = .ok items)
    (h : objectEntries isDate configuration active object name = .ok entries) :
    List.Forall₂ (Enters isDate configuration object) (assignments active items) entries := by
  obtain ⟨blacklist, hblacklist, h⟩ := bind_eq_ok.mp h
  rw [hrecords, ok_bind] at h
  obtain ⟨parts, hparts, h⟩ := bind_eq_ok.mp h
  rw [← pure_eq_ok.mp h]
  refine forall₂_flatMap ((mapM_eq_ok_iff.mp hparts).imp fun c found hfound => ?_)
  obtain ⟨excluded, hexcluded, hfound⟩ := bind_eq_ok.mp hfound
  cases excluded with
  | true => exact absurd ⟨blacklist, name, hblacklist, hname, hexcluded⟩ hblack
  | false => exact entries_of_entriesFor hitems hfound

theorem name_of_introduce {object : Placed} {intro : Introduction}
    (h : introduce object = .ok intro) : object.attr? "name" = some intro.name := by
  obtain ⟨actions, -, h⟩ := bind_eq_ok.mp h
  obtain ⟨name, hname, h⟩ := bind_eq_ok.mp h
  obtain ⟨classified, -, h⟩ := bind_eq_ok.mp h
  rw [← pure_eq_ok.mp h]
  exact need_eq_ok_iff.mp hname

/-- The entries of a page are those of the active considerations with the records that hold their
titles, in order. -/
theorem entries_of_introduce {configuration : Json} {active : List Consideration}
    {object : Placed} {intro : Introduction} {page : Page} {records : Json} {items : List Json}
    (hintro : introduce object = .ok intro) (hblack : ¬Blacklists configuration object)
    (hrecords : configuration.member objectRecordsKey = .ok records)
    (hitems : records.parts = .ok items)
    (h : objectPage isDate configuration active object = .ok page) :
    ∃ entries, page.entries = entries.map Entry.toJson ∧
      List.Forall₂ (Enters isDate (withKind configuration intro.classified.kind) object)
        (assignments active items) entries := by
  rw [objectPage, hintro, ok_bind] at h
  obtain ⟨entries, hentries, h⟩ := bind_eq_ok.mp h
  rw [← pure_eq_ok.mp h]
  refine ⟨entries, rfl,
    entries_of_objectEntries (name_of_introduce hintro) ?_ ?_ hitems hentries⟩
  · unfold Blacklists
    rwa [member_withKind_of_ne (by decide)]
  · rwa [member_withKind_of_ne (by decide)]

/-- The same of an object that is not known yet. -/
theorem entries_of_objectPage {configuration : Json} {active : List Consideration}
    {object : Placed} {page : Page} {records : Json} {items : List Json}
    (hblack : ¬Blacklists configuration object)
    (hrecords : configuration.member objectRecordsKey = .ok records)
    (hitems : records.parts = .ok items)
    (h : objectPage isDate configuration active object = .ok page) :
    ∃ kind entries, page.entries = entries.map Entry.toJson ∧
      List.Forall₂ (Enters isDate (withKind configuration kind) object) (assignments active items)
        entries := by
  obtain ⟨intro, hintro, -⟩ := bind_eq_ok.mp h
  exact ⟨intro.classified.kind, entries_of_introduce hintro hblack hrecords hitems h⟩

/-! ## Titles of entries -/

theorem rubric_of_evaluate {s t : Sheet} (h : s.evaluate = .ok t) : t.rubric = s.rubric := by
  obtain ⟨grade, -, h⟩ := bind_eq_ok.mp h
  rw [← pure_eq_ok.mp h]

theorem rubric_of_evaluateWith {s t : Sheet} {scale : Option Number} {verdict : Json}
    (h : s.evaluateWith scale verdict = .ok t) : t.rubric = s.rubric := by
  obtain ⟨grade, -, h⟩ := bind_eq_ok.mp h
  rw [← pure_eq_ok.mp h]

theorem rubric_record (s : Sheet) (outcome : Outcome) : (s.record outcome).rubric = s.rubric := by
  unfold Sheet.record
  cases outcome.ruling <;> rfl

/-- A consideration's sheet keeps its rubric, whether it is checked or forced. -/
theorem rubric_of_sheetUnder {configuration : Json} {object : Placed} {c : Consideration}
    {record : Json} {sheet : Sheet}
    (h : sheetUnder isDate configuration object c record = .ok sheet) :
    sheet.rubric = c.rubric := by
  obtain ⟨result, -, h⟩ := bind_eq_ok.mp h
  obtain ⟨scale, -, h⟩ := bind_eq_ok.mp h
  split at h
  · obtain ⟨outcome, -, h⟩ := bind_eq_ok.mp h
    rw [rubric_of_evaluate h, rubric_record]
    rfl
  · obtain ⟨factor, -, h⟩ := bind_eq_ok.mp h
    rw [rubric_of_evaluateWith h]
    rfl

theorem title_of_enters {configuration : Json} {object : Placed}
    {assigned : Consideration × Json} {entry : Entry}
    (h : Enters isDate configuration object assigned entry) : entry.title = assigned.1.title := by
  obtain ⟨sheet, hsheet, rfl⟩ := h
  rw [Entry.ofSheet, rubric_of_sheetUnder hsheet]
  rfl

/-- The titles that the active records hold, in order, as far as they are those of considerations.
-/
def selectedTitles (items : List Json) : List String :=
  ((items.filter isActive).filterMap heldTitle?).filter (· ∈ titles)

/-- The selected titles, each as often as records hold it, be they active or not. -/
def listedTitles (items : List Json) : List String :=
  (selectedTitles items).flatMap fun title =>
    List.replicate (items.countP fun record => heldTitle? record == some title) title

theorem map_title_chosen? (record : Json) :
    (chosen? record).map Consideration.title =
      (if isActive record then heldTitle? record else none).filter (· ∈ titles) := by
  cases hchosen : chosen? record with
  | some c =>
    obtain ⟨hactive, hheld⟩ := chosen?_eq_some_iff.mp hchosen
    have hmem : c.title ∈ titles := List.mem_map_of_mem c.mem_all
    rw [if_pos hactive, hheld, Option.filter_some, if_pos (decide_eq_true hmem), Option.map_some]
  | none =>
    have hnot : ∀ c : Consideration, isActive record = true → heldTitle? record ≠ some c.title := by
      intro c hactive hheld
      rw [chosen?_eq_some_iff.mpr ⟨hactive, hheld⟩] at hchosen
      cases hchosen
    symm
    rw [Option.map_none, Option.filter_eq_none_iff]
    intro title htitle hmem
    obtain ⟨c, -, rfl⟩ := List.mem_map.mp (of_decide_eq_true hmem)
    split at htitle
    · exact hnot c ‹_› htitle
    · cases htitle

theorem map_title_filterMap_chosen? (items : List Json) :
    (items.filterMap chosen?).map Consideration.title = selectedTitles items := by
  rw [selectedTitles, List.filterMap_filter, List.filter_filterMap, List.map_filterMap]
  exact List.filterMap_congr fun record _ => map_title_chosen? record

theorem map_title_assignments (active : List Consideration) (items : List Json) :
    (assignments active items).map (fun assigned => assigned.1.title) =
      (active.map Consideration.title).flatMap fun title =>
        List.replicate (items.countP fun record => heldTitle? record == some title) title := by
  rw [assignments, List.map_flatMap, List.flatMap_map]
  refine List.flatMap_congr fun c _ => ?_
  simp only [List.map_map, Function.comp_def, List.map_const', List.countP_eq_length_filter]

theorem records_of_activeConsiderations {processCandidates onProcesses : List Registered}
    {configuration : Json} {active : List Consideration}
    (h : activeConsiderations processCandidates configuration = .ok (active, onProcesses)) :
    ∃ records items, configuration.member objectRecordsKey = .ok records ∧
      records.parts = .ok items ∧ active = items.filterMap chosen? := by
  obtain ⟨records, hrecords, h⟩ := bind_eq_ok.mp h
  obtain ⟨processRecords, -, h⟩ := bind_eq_ok.mp h
  obtain ⟨onObjects, hselect, h⟩ := bind_eq_ok.mp h
  obtain ⟨others, -, h⟩ := bind_eq_ok.mp h
  obtain ⟨rfl, -⟩ := Prod.mk.inj (pure_eq_ok.mp h)
  obtain ⟨items, hitems, -⟩ := bind_eq_ok.mp hselect
  exact ⟨records, items, hrecords, hitems, selectActive_eq hitems hselect⟩

/-- If no title is held twice, the selected titles are listed once each. -/
theorem listedTitles_of_nodup {items : List Json} (h : (items.filterMap heldTitle?).Nodup) :
    listedTitles items = selectedTitles items := by
  have honce : ∀ title ∈ selectedTitles items,
      items.countP (fun record => heldTitle? record == some title) = 1 := by
    intro title htitle
    obtain ⟨record, hrecord, hheld⟩ := List.mem_filterMap.mp (List.mem_filter.mp htitle).1
    have hmem : title ∈ items.filterMap heldTitle? :=
      List.mem_filterMap.mpr ⟨record, (List.mem_filter.mp hrecord).1, hheld⟩
    rw [← List.count_filterMap]
    exact List.count_eq_one_of_mem h hmem
  have hsingle : listedTitles items = (selectedTitles items).flatMap fun title => [title] :=
    List.flatMap_congr fun title htitle => by rw [honce title htitle, List.replicate_one]
  rw [hsingle, List.flatMap_singleton']

theorem nodup_selectedTitles {items : List Json} (h : (items.filterMap heldTitle?).Nodup) :
    (selectedTitles items).Nodup :=
  (h.sublist (List.filter_sublist.filterMap heldTitle?)).filter _

/-- If no title is held twice, that of an inactive record is not selected. -/
theorem not_mem_selectedTitles {items : List Json} (h : (items.filterMap heldTitle?).Nodup)
    {record : Json} (hrecord : record ∈ items) (hactive : isActive record = false) {title : String}
    (hheld : heldTitle? record = some title) : title ∉ selectedTitles items := by
  intro hmem
  obtain ⟨other, hother, hotherHeld⟩ := List.mem_filterMap.mp (List.mem_filter.mp hmem).1
  obtain ⟨hotherMem, hotherActive⟩ := List.mem_filter.mp hother
  have hne : record ≠ other := by
    rintro rfl
    rw [hactive] at hotherActive
    cases hotherActive
  -- Two records of the configuration hold the title, though all titles in it are distinct.
  have hdistinct := List.pairwise_filterMap.mp h
  have : Std.Symm fun a b : Json => ∀ s, heldTitle? a = some s →
      ∀ t, heldTitle? b = some t → s ≠ t :=
    ⟨fun a b hab s hs t ht => (hab t ht s hs).symm⟩
  exact hdistinct.forall hrecord hotherMem hne title hheld title hotherHeld rfl

theorem member_toJson_entry (entry : Entry) :
    entry.toJson.member "Consideration Name" = .ok (.text entry.title) :=
  rfl

/-- An active record that holds a consideration's title is enough to select it. -/
theorem selectActive_singleton {c : Consideration} {record : Json}
    (hactive : isActive record = true) (hheld : heldTitle? record = some c.title) :
    selectActive Consideration.all Consideration.title objectTitleKey (.arr [record]) =
      .ok [c] := by
  obtain ⟨active, hselect⟩ : ∃ active, selectActive Consideration.all Consideration.title
      objectTitleKey (.arr [record]) = .ok active := by
    unfold isActive at hactive
    unfold heldTitle? at hheld
    split at hactive
    next stated hstated =>
      split at hheld
      next name hname => simp [selectActive, Json.parts, hstated, hname, hactive]
      next => cases hheld
    next => cases hactive
  rw [hselect, selectActive_eq rfl hselect,
    List.filterMap_cons_some (chosen?_eq_some_iff.mpr ⟨hactive, hheld⟩), List.filterMap_nil]

/-- The titles that a page shows are the listed ones, and each selected title once if no title is
held twice. As the titles of considerations are distinct and have no blanks around them, each
consideration can be selected. -/
theorem titles_of_objectPage :
    (∀ (isDate : DateReader) (processCandidates onProcesses : List Registered)
        (configuration : Json) (active : List Consideration) (object : Placed) (page : Page),
      activeConsiderations processCandidates configuration = .ok (active, onProcesses) →
      objectPage isDate configuration active object = .ok page →
      ¬Blacklists configuration object →
      ∃ records items, configuration.member objectRecordsKey = .ok records ∧
        records.parts = .ok items ∧
        page.entries.map (Json.member "Consideration Name") =
          (listedTitles items).map (fun title => .ok (.text title)) ∧
        ((items.filterMap heldTitle?).Nodup →
          listedTitles items = selectedTitles items ∧ (selectedTitles items).Nodup ∧
          ∀ record ∈ items, isActive record = false →
            ∀ title, heldTitle? record = some title → title ∉ listedTitles items)) ∧
    titles.Nodup ∧ (∀ c : Consideration, trimPoints (points c.title) = points c.title) ∧
    ∀ (c : Consideration) (record : Json), isActive record = true →
      heldTitle? record = some c.title →
      selectActive Consideration.all Consideration.title objectTitleKey (.arr [record]) =
        .ok [c] := by
  refine ⟨?_, nodup_titles, trimPoints_title, ?_⟩
  · intro isDate processCandidates onProcesses configuration active object page hactive hpage hblack
    obtain ⟨records, items, hrecords, hitems, rfl⟩ := records_of_activeConsiderations hactive
    refine ⟨records, items, hrecords, hitems, ?_, fun h => ?_⟩
    · obtain ⟨kind, entries, hentries, hall⟩ := entries_of_objectPage hblack hrecords hitems hpage
      have htitles : entries.map Entry.title = listedTitles items := by
        rw [listedTitles, ← map_title_filterMap_chosen?, ← map_title_assignments]
        exact (map_eq_map_of_forall₂ (hall.imp fun _ _ h => (title_of_enters h).symm)).symm
      rw [hentries, ← htitles, List.map_map, List.map_map]
      exact List.map_congr_left fun entry _ => member_toJson_entry entry
    · rw [listedTitles_of_nodup h]
      exact ⟨rfl, nodup_selectedTitles h, fun record hrecord hinactive title hheld =>
        not_mem_selectedTitles h hrecord hinactive hheld⟩
  · intro c record hactive hheld
    exact selectActive_singleton hactive hheld

/-- A record on objects. -/
def objectRecord (title : String) (active : Bool) (result scale : String) : Json :=
  .object [(objectTitleKey, .text title), ("Active", .bool active), ("Force Result", .text result),
    ("Score Scale", .text scale)]

/-- A configuration with records on objects and nothing else. -/
def plainConfiguration (records : List Json) : Json :=
  .object [("blacklist", .arr []), (objectRecordsKey, .arr records), (processRecordsKey, .arr [])]

theorem not_blacklists_plainConfiguration (records : List Json) (object : Placed) :
    ¬Blacklists (plainConfiguration records) object := by
  rintro ⟨blacklist, name, hblacklist, -, h⟩
  cases hblacklist
  cases h

/-- An object with a name and nothing else. -/
def emptyObject : Placed :=
  .alone ⟨"process", [("name", "Base A")], []⟩

/-- Two records hold a title, and the second of them is active. Another title is held by an inactive
record only. -/
def doubledRecords : List Json :=
  [objectRecord Consideration.startWait.title false "" "",
   objectRecord Consideration.reuse.title false "" "",
   objectRecord Consideration.startWait.title true "" ""]

/-- An inactive record is entered along with the active one that holds the same title. -/
theorem inactive_record_is_entered :
    ∃ page, objectPage Calendar.recognise (plainConfiguration doubledRecords) [.startWait]
        emptyObject = .ok page ∧
      page.entries.map (Json.member "Consideration Name") =
        List.replicate 2 (.ok (.text Consideration.startWait.title)) := by
  have hactive : activeConsiderations [] (plainConfiguration doubledRecords) =
      .ok ([.startWait], []) := by
    decide +kernel
  obtain ⟨page, hpage⟩ := exists_of_toBool (x := objectPage Calendar.recognise
    (plainConfiguration doubledRecords) [.startWait] emptyObject) (by decide +kernel)
  obtain ⟨records, items, hrecords, hitems, htitles, -⟩ := titles_of_objectPage.1 _ [] [] _ _ _
    page hactive hpage (not_blacklists_plainConfiguration _ _)
  cases hrecords
  cases hitems
  have hlisted : listedTitles doubledRecords = List.replicate 2 Consideration.startWait.title := by
    decide +kernel
  refine ⟨page, hpage, ?_⟩
  rw [htitles, hlisted]
  rfl

end ReleaseReview
