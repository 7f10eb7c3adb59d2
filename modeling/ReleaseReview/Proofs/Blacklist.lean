import ReleaseReview.Proofs.Entries
import ReleaseReview.Proofs.LowerCase

/-!
# Blacklisted objects

There are two tests of a name against a blacklist. `notBlacklisted` puts both sides into lower case.
The page about an object only does so with the name, and so misses the words of the blacklist that
are not in lower case themselves: as everything that stands in a name in lower case is in lower case
(`lower_of_occurs`), such a word is found nowhere.

`pages_by_blacklist` compares the two. An object that passes the first test has the page that it
would have without a blacklist. One that fails it has a page without entries only if a word in lower
case makes it fail.
-/

namespace ReleaseReview

open Markup Text

/-! ## The two tests -/

/-- The words of a blacklist. A text with a lone half in it is no word, as it stands in no name. -/
def blacklistWords (texts : List (List Point)) : List String :=
  texts.filterMap plain?

/-- A word of the blacklist is in lower case and stands in the name. -/
def Shuns (words : List String) (name : String) : Prop :=
  ∃ word ∈ words, lower word = word ∧ occurs word (lower name) = true

theorem notBlacklisted_eq_false_iff {words : List String} {name : String} :
    notBlacklisted words name = false ↔
      ∃ word ∈ words, occurs (lower word) (lower name) = true := by
  simp [notBlacklisted]

/-- A word in lower case is a word for both tests. -/
theorem Shuns.notBlacklisted {words : List String} {name : String} (h : Shuns words name) :
    ReleaseReview.notBlacklisted words name = false := by
  obtain ⟨word, hword, hlower, hoccurs⟩ := h
  exact notBlacklisted_eq_false_iff.mpr ⟨word, hword, hlower.symm ▸ hoccurs⟩

theorem isBlacklisted_texts (texts : List (List Point)) (name : String) :
    isBlacklisted (.arr (texts.map .str)) name =
      .ok ((blacklistWords texts).any fun word => occurs word (lower name)) := by
  suffices h : (texts.map Json.str).anyM (standsIn (lower name)) =
      .ok ((blacklistWords texts).any fun word => occurs word (lower name)) from h
  induction texts with
  | nil => rfl
  | cons text texts ih =>
    rw [List.map_cons, List.anyM_cons, standsIn, ok_bind, ih]
    unfold blacklistWords
    cases hplain : plain? text with
    | none =>
      rw [List.filterMap_cons_none hplain]
      rfl
    | some word =>
      rw [List.filterMap_cons_some hplain, List.any_cons]
      cases hoccurs : occurs word (lower name) <;> simp [hoccurs, pure, Except.pure]

/-- The test of the page finds a word if it is in lower case and stands in the name. -/
theorem any_occurs_iff_shuns {words : List String} {name : String} :
    (words.any fun word => occurs word (lower name)) = true ↔ Shuns words name := by
  rw [List.any_eq_true]
  constructor
  · rintro ⟨word, hword, hoccurs⟩
    exact ⟨word, hword, lower_of_occurs hoccurs, hoccurs⟩
  · rintro ⟨word, hword, -, hoccurs⟩
    exact ⟨word, hword, hoccurs⟩

/-! ## The page without a blacklist -/

/-- The configuration with these items as its blacklist. -/
def withBlacklist (configuration : Json) (items : List Json) : Json :=
  match configuration with
  | .obj fields => .obj (Json.put (points "blacklist") (.arr items) fields)
  | other => other

theorem member_withBlacklist {configuration value : Json} {key : String}
    (h : configuration.member key = .ok value) (items : List Json) :
    (withBlacklist configuration items).member "blacklist" = .ok (.arr items) := by
  cases configuration with
  | obj fields => exact Json.member_obj_of_find? (Json.find?_put_self _ _ _)
  | _ => cases h

theorem member_withKind_withBlacklist {key : String} (h : points key ≠ points "blacklist")
    (configuration : Json) (items : List Json) (kind : Kind) :
    (withKind (withBlacklist configuration items) kind).member key =
      (withKind configuration kind).member key := by
  cases configuration with
  | obj fields =>
    by_cases hkind : points key = points kindKey
    · simp only [withKind, withBlacklist, Json.member, ← hkind, Json.find?_put_self]
    · simp only [withKind, withBlacklist, Json.member, Json.find?_put_of_ne h,
        Json.find?_put_of_ne hkind]
  | _ => rfl

/-- The facts that checks depend on have nothing to do with the blacklist. -/
theorem facts_withBlacklist (configuration : Json) (items : List Json) (kind : Kind) :
    Facts.ofJson (withKind (withBlacklist configuration items) kind) =
      Facts.ofJson (withKind configuration kind) := by
  unfold Facts.ofJson
  rw [member_withKind_withBlacklist (by decide), member_withKind_withBlacklist (by decide)]

theorem entriesFor_withBlacklist (isDate : DateReader) (configuration : Json)
    (items : List Json) (kind : Kind) (object : Placed) (records : Json) :
    entriesFor isDate (withKind (withBlacklist configuration items) kind) object records =
      entriesFor isDate (withKind configuration kind) object records := by
  funext c
  unfold entriesFor sheetUnder
  rw [facts_withBlacklist]

variable {isDate : DateReader}

/-- An object that is blacklisted has no entries, whatever is active. -/
theorem objectEntries_of_blacklisted {configuration blacklist records : Json} {object : Placed}
    {name : String} (hblacklist : configuration.member "blacklist" = .ok blacklist)
    (hrecords : configuration.member objectRecordsKey = .ok records)
    (h : isBlacklisted blacklist name = .ok true) (active : List Consideration) :
    objectEntries isDate configuration active object name = .ok [] := by
  have hnone : (active.mapM fun c => do
      if ← isBlacklisted blacklist name then return []
      entriesFor isDate configuration object records c) = .ok (active.map fun _ => []) :=
    mapM_eq_ok_map fun c _ => by rw [h]; rfl
  rw [objectEntries, hblacklist, ok_bind, hrecords, ok_bind, hnone, ok_bind, pure_eq_ok]
  simp

/-- An object that is not blacklisted has the entries of all that is active. -/
theorem objectEntries_of_not_blacklisted {configuration blacklist : Json} {object : Placed}
    {name : String} (hblacklist : configuration.member "blacklist" = .ok blacklist)
    (h : isBlacklisted blacklist name = .ok false) (active : List Consideration) :
    objectEntries isDate configuration active object name = do
      let records ← configuration.member objectRecordsKey
      let entries ← active.mapM (entriesFor isDate configuration object records)
      return entries.flatten := by
  rw [objectEntries, hblacklist, ok_bind, h]
  rfl

/-! ## The tests and the page -/

section

variable {configuration records : Json} {texts : List (List Point)} {object : Placed}
  {intro : Introduction}

theorem objectPage_of_shuns
    (hblacklist : configuration.member "blacklist" = .ok (.arr (texts.map .str)))
    (hrecords : configuration.member objectRecordsKey = .ok records)
    (hintro : introduce object = .ok intro) (h : Shuns (blacklistWords texts) intro.name)
    (active : List Consideration) :
    ∃ page, objectPage isDate configuration active object = .ok page ∧ page.entries = [] := by
  have hlisted : isBlacklisted (.arr (texts.map .str)) intro.name = .ok true := by
    rw [isBlacklisted_texts, any_occurs_iff_shuns.mpr h]
  have hentries : objectEntries isDate (withKind configuration intro.classified.kind) active object
      intro.name = .ok [] :=
    objectEntries_of_blacklisted (by rwa [member_withKind_of_ne (by decide)])
      (by rwa [member_withKind_of_ne (by decide)]) hlisted active
  rw [objectPage, hintro, ok_bind]
  dsimp only
  rw [hentries, ok_bind]
  exact ⟨_, rfl, rfl⟩

theorem objectPage_of_not_shuns
    (hblacklist : configuration.member "blacklist" = .ok (.arr (texts.map .str)))
    (hintro : introduce object = .ok intro) (h : ¬Shuns (blacklistWords texts) intro.name)
    (active : List Consideration) :
    objectPage isDate configuration active object =
      objectPage isDate (withBlacklist configuration []) active object := by
  have hlisted : isBlacklisted (.arr (texts.map .str)) intro.name = .ok false := by
    rw [isBlacklisted_texts, Bool.eq_false_iff.mpr (mt any_occurs_iff_shuns.mp h)]
  have hempty : isBlacklisted (.arr []) intro.name = .ok false := rfl
  have hentries : objectEntries isDate (withKind configuration intro.classified.kind) active object
        intro.name =
      objectEntries isDate (withKind (withBlacklist configuration []) intro.classified.kind) active
        object intro.name := by
    rw [objectEntries_of_not_blacklisted (by rwa [member_withKind_of_ne (by decide)]) hlisted,
      objectEntries_of_not_blacklisted (by
        rw [member_withKind_of_ne (by decide), member_withBlacklist hblacklist]) hempty,
      member_withKind_withBlacklist (by decide)]
    simp only [entriesFor_withBlacklist]
  rw [objectPage, objectPage, hintro, ok_bind, ok_bind]
  dsimp only
  rw [hentries]

/-- An object that `notBlacklisted` passes has the page that it has without a blacklist. An object
that it fails has a page without entries if a word in lower case stands in the name, and the page
that it has without a blacklist if none does. -/
theorem pages_by_blacklist (isDate : DateReader)
    (hblacklist : configuration.member "blacklist" = .ok (.arr (texts.map .str)))
    (hrecords : configuration.member objectRecordsKey = .ok records)
    (hintro : introduce object = .ok intro) :
    (notBlacklisted (blacklistWords texts) intro.name = true → ∀ active,
      objectPage isDate configuration active object =
        objectPage isDate (withBlacklist configuration []) active object) ∧
    (notBlacklisted (blacklistWords texts) intro.name = false →
      (Shuns (blacklistWords texts) intro.name → ∀ active,
        ∃ page, objectPage isDate configuration active object = .ok page ∧ page.entries = []) ∧
      (¬Shuns (blacklistWords texts) intro.name → ∀ active,
        objectPage isDate configuration active object =
          objectPage isDate (withBlacklist configuration []) active object)) := by
  refine ⟨fun h => ?_, fun _ => ⟨?_, ?_⟩⟩
  · have hshuns : ¬Shuns (blacklistWords texts) intro.name := fun hshuns => by
      simp [hshuns.notBlacklisted] at h
    exact objectPage_of_not_shuns hblacklist hintro hshuns
  · exact objectPage_of_shuns hblacklist hrecords hintro
  · exact objectPage_of_not_shuns hblacklist hintro

end

/-- An object that logs in, by its name. -/
def loginObject : Placed :=
  .alone ⟨"process", [("name", "Base Login")], []⟩

/-- A configuration with a blacklist of one word and a record on the waits of actions. -/
def loginConfiguration (word : String) : Json :=
  withBlacklist (plainConfiguration [objectRecord Consideration.startWait.title true "" ""])
    [.str (points word)]

/-- With a word in lower case the blacklist keeps the page of the object empty. -/
theorem lower_word_empties_page :
    notBlacklisted ["login"] "Base Login" = false ∧
    ∃ page, objectPage Calendar.recognise (loginConfiguration "login") [.startWait]
        loginObject = .ok page ∧
      page.entries = [] := by
  have hfails : notBlacklisted ["login"] "Base Login" = false := by decide +kernel
  obtain ⟨intro, hintro⟩ := exists_of_toBool (x := introduce loginObject) (by decide +kernel)
  have hname : intro.name = "Base Login" := (Option.some.inj (name_of_introduce hintro)).symm
  have hwords : blacklistWords [points "login"] = ["login"] := by decide +kernel
  have hshuns : Shuns ["login"] "Base Login" :=
    ⟨"login", List.mem_singleton_self _, by decide +kernel, by decide +kernel⟩
  have hblacklist : (loginConfiguration "login").member "blacklist" =
      .ok (.arr ([points "login"].map .str)) := rfl
  have hpages := pages_by_blacklist Calendar.recognise hblacklist rfl hintro
  rw [hname, hwords] at hpages
  exact ⟨hfails, (hpages.2 hfails).1 hshuns _⟩

/-- A word that is not in lower case fails the name in one test, and leaves the page as it is. -/
theorem capital_word_keeps_entries :
    notBlacklisted ["Login"] "Base Login" = false ∧
    ∃ page, objectPage Calendar.recognise (loginConfiguration "Login") [.startWait]
        loginObject = .ok page ∧
      page.entries ≠ [] := by
  refine ⟨by decide +kernel, ?_⟩
  obtain ⟨page, hpage⟩ := exists_of_toBool
    (x := objectPage Calendar.recognise (loginConfiguration "Login") [.startWait] loginObject)
    (by decide +kernel)
  have hblack : ¬Blacklists (loginConfiguration "Login") loginObject := by
    rintro ⟨blacklist, name, hblacklist, hname, h⟩
    cases hblacklist
    cases hname
    cases h
  obtain ⟨kind, entries, hentries, hall⟩ := entries_of_objectPage hblack rfl rfl hpage
  refine ⟨page, hpage, fun hempty => ?_⟩
  rw [hentries, List.map_eq_nil_iff] at hempty
  rw [hempty, List.forall₂_nil_right_iff] at hall
  exact absurd (congrArg List.length hall) (by decide +kernel)

end ReleaseReview
