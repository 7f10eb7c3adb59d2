import ReleaseReview.Check.ExceptionStage
import ReleaseReview.Proofs.Descent
import ReleaseReview.Proofs.Success

/-!
# Missing details and short ones

Two checks look at the details of exceptions. The one reports those without a detail, and looks for
their page in the whole object. The other reports those with a short detail, and looks up their page
in the index of the object's own pages. An exception that has no detail at all is a fault of the
second, so what is missing for the first is empty for the second, and too short.

The two ways to the page agree if all pages are the object's own and no page id is empty
(`nameOf_of_pageNamed`): an empty id would also be met by a page that has none. Then every finding
of the first check goes with one of the second at the same location, which is
`missing_details_are_short`.
-/

namespace ReleaseReview

open Markup

variable {object : Placed} {exception stage : Element}

/-! ## The page of an exception -/

theorem meets_iff {asked value : Option String} (h : asked ≠ some "") :
    meets asked value = true ↔ value = asked := by
  cases value with
  | none => simp only [meets, Bool.or_eq_true, Option.isNone_iff_eq_none, beq_iff_eq, h, or_false,
      eq_comm (a := none)]
  | some v => simp only [meets, beq_iff_eq, eq_comm (a := some v)]

/-- The two ways to the page with an id come to the same name. -/
theorem nameOf_of_pageNamed {pages : PageIndex} {id name : Option String}
    (hshallow : object.Shallow "subsheet") (hid : id ≠ some "")
    (hpages : PageIndex.of object = .ok pages) (h : pageNamed object id = .ok name) :
    pages.nameOf id = name := by
  obtain ⟨page, hpage, hname⟩ := bind_eq_ok.mp h
  rw [Placed.placedWithin_eq_placedChildren hshallow, need_eq_ok_iff] at hpage
  have hentries : List.Forall₂ (fun (page : Placed) entry =>
      page.attr? "subsheetid" = entry.1 ∧ pageName page = .ok entry.2)
      (object.placedChildren "subsheet") pages := by
    refine (mapM_eq_ok_iff.mp hpages).imp fun page entry hentry => ?_
    obtain ⟨name, hname, hentry⟩ := bind_eq_ok.mp hentry
    obtain rfl := pure_eq_ok.mp hentry
    exact ⟨rfl, hname⟩
  have hfirst := find?_of_forall₂ (k := fun page => meets id (page.attr? "subsheetid"))
    (l := fun entry => entry.1 == id) (fun page entry hentry => by
      rw [Bool.eq_iff_iff, meets_iff hid, beq_iff_eq, hentry.1]) hentries
  rcases hfirst with ⟨hnone, -⟩ | ⟨found, entry, hfound, hentry, -, hname'⟩
  · cases hpage.symm.trans hnone
  · cases hpage.symm.trans hfound
    rw [PageIndex.nameOf, hentry]
    exact Except.ok.inj (hname'.symm.trans hname)

/-! ## One exception -/

/-- What is said of an empty detail. -/
def tooShort (stage : Element) : String :=
  "Exception '" ++ shown (stage.attr? "name") ++ "' has less than 10 characters (0) - "

theorem shortDetail_empty (stage : Element) :
    shortDetail stage minDetailLength "" = tooShort stage := by
  -- over variables, since rewriting between long literals is slow
  have hassoc (named t₁ t₂ t₃ t₄ t₅ t₆ : String) :
      named ++ t₁ ++ t₂ ++ t₃ ++ t₄ ++ t₅ ++ t₆ = named ++ (t₁ ++ t₂ ++ t₃ ++ t₄ ++ t₅ ++ t₆) := by
    simp only [String.append_assoc]
  have htail : "' has less than " ++ counted minDetailLength ++ " characters (" ++
      counted "".length ++ ") - " ++ "" = "' has less than 10 characters (0) - " := by
    decide +kernel
  exact (hassoc ..).trans (congrArg _ htail)

/-- An exception has no share in the findings, or it lacks its detail. -/
theorem judgeDetail_eq_ok {share : Findings} (h : judgeDetail object exception stage = .ok share) :
    share = .none ∨ exception.isSet "detail" = false ∧ passesOn exception = false ∧
      ∃ id page, pageId stage = .ok id ∧ pageNamed object id = .ok page ∧
        share = ⟨[⟨stage.attr? "name", page⟩], []⟩ := by
  unfold judgeDetail at h
  split at h
  next => exact .inl (pure_eq_ok.mp h).symm
  next hneither =>
    obtain ⟨id, hid, h⟩ := bind_eq_ok.mp h
    obtain ⟨page, hpage, h⟩ := bind_eq_ok.mp h
    simp only [Bool.or_eq_true, not_or, Bool.not_eq_true] at hneither
    exact .inr ⟨hneither.1, hneither.2, id, page, hid, hpage, (pure_eq_ok.mp h).symm⟩

theorem judgeDetailLength_of_unset {share : Findings} (hdetail : exception.isSet "detail" = false)
    (h : judgeDetailLength object exception stage = .ok share) :
    ∃ page, pageOf object stage = .ok page ∧ share = .error (tooShort stage) page := by
  unfold judgeDetailLength at h
  unfold Element.isSet at hdetail
  split at h
  next => cases h
  next detail hsome =>
    rw [hsome] at hdetail
    obtain rfl : detail = "" := by simpa using hdetail
    rw [if_pos (by decide)] at h
    obtain ⟨page, hpage, h⟩ := bind_eq_ok.mp h
    rw [shortDetail_empty] at h
    exact ⟨page, hpage, (pure_eq_ok.mp h).symm⟩

/-- What the two checks find on an exception: the first nothing, or both something at the same
location, the second that the detail is too short. -/
inductive DetailShares (stage : Element) (details types : Findings) : Prop
  | given (hdetails : details.errors = [])
  | missing {missing short : Finding} (hdetails : details.errors = [missing])
    (htypes : short ∈ types.errors) (hname : short.name = some (tooShort stage))
    (hlocation : short.location = missing.location)

theorem detailShares_of_judged {facts : Facts} {details types : Findings}
    (hshallow : object.Shallow "subsheet") (hid : Yields (· ≠ some "") (pageId stage))
    (hdetails : judgeDetail object exception stage = .ok details)
    (htypes : judgeTypeDetail object facts exception stage = .ok types) :
    DetailShares stage details types := by
  rcases judgeDetail_eq_ok hdetails with rfl | ⟨hdetail, hpasses, id, page, hid', hpage, rfl⟩
  · exact .given rfl
  · rw [judgeTypeDetail, if_neg (by simp [hpasses])] at htypes
    obtain ⟨business, -, htypes⟩ := bind_eq_ok.mp htypes
    obtain ⟨length, hlength, htypes⟩ := bind_eq_ok.mp htypes
    obtain rfl := pure_eq_ok.mp htypes
    obtain ⟨location, hlocation, rfl⟩ := judgeDetailLength_of_unset hdetail hlength
    obtain ⟨pages, hpages, hlocation⟩ := bind_eq_ok.mp hlocation
    rw [hid', ok_bind, pure_eq_ok] at hlocation
    have hname := nameOf_of_pageNamed hshallow (hid id hid') hpages hpage
    refine .missing rfl (List.mem_append_right _ (List.mem_singleton_self _)) rfl ?_
    exact hlocation.symm.trans hname

/-! ## All exceptions -/

theorem DetailShares.sublist {details types : Findings} (h : DetailShares stage details types) :
    (details.errors.map (·.location)).Sublist (types.errors.map (·.location)) := by
  cases h with
  | given hdetails =>
    rw [hdetails]
    exact List.nil_sublist _
  | missing hdetails htypes _ hlocation =>
    rw [hdetails, List.map_singleton, List.singleton_sublist, ← hlocation]
    exact List.mem_map_of_mem htypes

theorem sublist_of_shares {found : List (Element × Element)} {shares : List (Findings × Findings)}
    (h : List.Forall₂ (fun found share => DetailShares found.2 share.1 share.2) found shares) :
    ((shares.flatMap (·.1.errors)).map (·.location)).Sublist
      ((shares.flatMap (·.2.errors)).map (·.location)) := by
  induction h with
  | nil => exact .slnil
  | cons hshare _ ih =>
    rw [List.flatMap_cons, List.flatMap_cons, List.map_append, List.map_append]
    exact hshare.sublist.append ih

/-- No exception's page id is empty if no page id in the object is. -/
theorem pageId_ne_empty (hids : ∀ id ∈ object.allWithin "subsheetid", id.soleText? ≠ some "") :
    ∀ found ∈ exceptions object, Yields (· ≠ some "") (pageId found.2) := by
  intro found hfound
  refine .bind_ok fun id hid => .pure (hids id ?_)
  have hbelow := Element.descendants_subset_of_mem_allWithinUnder hfound
  exact List.filter_subset _ hbelow (Element.mem_allWithin_of_within? (need_eq_ok_iff.mp hid))

/-- If all pages are the object's own and no page id is empty, each exception has its share in the
errors of both checks, in order. Where the first check reports a missing detail, the second reports
a detail of less than 10 characters at the same location. So the locations of the first check are
among those of the second, in their order. -/
theorem missing_details_are_short {facts : Facts} {details types : Outcome}
    (hshallow : object.Shallow "subsheet")
    (hids : ∀ id ∈ object.allWithin "subsheetid", id.soleText? ≠ some "")
    (hdetails : checkExceptionDetails object facts = .ok details)
    (htypes : checkTypeDetail object facts = .ok types) :
    (∃ shares : List (Findings × Findings),
      details.findings.errors = shares.flatMap (·.1.errors) ∧
      types.findings.errors = shares.flatMap (·.2.errors) ∧
      List.Forall₂ (fun found share => judgeDetail object found.1 found.2 = .ok share.1 ∧
        judgeTypeDetail object facts found.1 found.2 = .ok share.2 ∧
        DetailShares found.2 share.1 share.2) (exceptions object) shares) ∧
    (details.findings.errors.map (·.location)).Sublist
      (types.findings.errors.map (·.location)) := by
  obtain ⟨_, hreview, hdetails⟩ := bind_eq_ok.mp hdetails
  obtain ⟨_, hreview', htypes⟩ := bind_eq_ok.mp htypes
  obtain rfl := pure_eq_ok.mp hdetails
  obtain rfl := pure_eq_ok.mp htypes
  obtain ⟨detailShares, rfl, hdetailShares⟩ := review_eq_ok hreview
  obtain ⟨typeShares, rfl, htypeShares⟩ := review_eq_ok hreview'
  obtain ⟨shares, rfl, rfl, hshares⟩ := exists_pairs_of_forall₂ hdetailShares htypeShares
  have hall : List.Forall₂ (fun found share => judgeDetail object found.1 found.2 = .ok share.1 ∧
      judgeTypeDetail object facts found.1 found.2 = .ok share.2 ∧
      DetailShares found.2 share.1 share.2) (exceptions object) shares := by
    have hmem := (List.forall₂_and_left _ _).mpr ⟨pageId_ne_empty hids, hshares⟩
    exact hmem.imp fun found share h =>
      ⟨h.2.1, h.2.2, detailShares_of_judged hshallow h.1 h.2.1 h.2.2⟩
  have hsublist := sublist_of_shares (hall.imp fun _ _ h => h.2.2)
  simp only [Outcome.found, Findings.errors_join, List.flatMap_map]
  exact ⟨⟨shares, rfl, rfl, hall⟩, hsublist⟩

/-- An exception in a stage on the page "1". -/
def raising (stage type detail : String) : Node :=
  .element "stage" [("type", "Exception"), ("name", stage)]
    [.element "subsheetid" [] [.leaf .text "1"],
     .element "exception" [("type", type), ("detail", detail)] []]

/-- Two pages of one id, a business exception with a detail and two exceptions without. -/
def raisingObject : Placed :=
  let page (name : String) : Node :=
    .element "subsheet" [("subsheetid", "1")] [.element "name" [] [.leaf .text name]]
  .alone ⟨"process", [("name", "Base A")], [page "Read", page "Write",
    raising "Lookup" "Business Exception" "The customer is not known",
    raising "Close" "System Exception" "", raising "Retry" "Business Exception" ""]⟩

/-- The two exceptions without a detail are found by both checks on the first of the pages. -/
theorem unset_details_are_short :
    raisingObject.Shallow "subsheet" ∧
    (∀ id ∈ raisingObject.allWithin "subsheetid", id.soleText? ≠ some "") ∧
    ∃ details types,
      checkExceptionDetails raisingObject ⟨.ok .base, .ok false, .ok false⟩ = .ok details ∧
      checkTypeDetail raisingObject ⟨.ok .base, .ok false, .ok false⟩ = .ok types ∧
      details.findings.errors = [⟨"Close", "Read"⟩, ⟨"Retry", "Read"⟩] ∧
      [some "Read", some "Read"].Sublist (types.findings.errors.map (·.location)) := by
  have hshallow : raisingObject.Shallow "subsheet" := by decide +kernel
  have hids : ∀ id ∈ raisingObject.allWithin "subsheetid", id.soleText? ≠ some "" := by
    decide +kernel
  obtain ⟨details, hdetails, herrors⟩ : ∃ details,
      checkExceptionDetails raisingObject ⟨.ok .base, .ok false, .ok false⟩ = .ok details ∧
      details.findings.errors = [⟨"Close", "Read"⟩, ⟨"Retry", "Read"⟩] :=
    ⟨_, rfl, by decide +kernel⟩
  obtain ⟨types, htypes⟩ : ∃ types,
      checkTypeDetail raisingObject ⟨.ok .base, .ok false, .ok false⟩ = .ok types :=
    exists_of_toBool (by decide +kernel)
  have hsublist := (missing_details_are_short hshallow hids hdetails htypes).2
  rw [herrors] at hsublist
  exact ⟨hshallow, hids, details, types, hdetails, htypes, herrors, hsublist⟩

end ReleaseReview
