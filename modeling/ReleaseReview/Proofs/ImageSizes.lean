import Mathlib.Data.List.TakeWhile
import ReleaseReview.Proofs.Assessment

/-!
# Sizes of images

The value of an image starts with its width and its height, each up to a comma (`WrittenSides`). An
image with a side above 250 is too large, and one with a side above 180 is large. Both are errors:
an image that is too large is also large and gives rise to two of them, and there are no warnings.

`images_by_size` says what each image gives rise to, and how many errors that makes in all. The
grade goes by that number, so a single large image takes the consideration below a Yes.
-/

namespace ReleaseReview

open Markup Text

/-! ## The sides of an image -/

/-- The value is written with these sides: a width up to the first comma and then a height up to the
next or to the end, or only a width. -/
inductive WrittenSides (value : String) : String × String → Prop
  | pair {width height rest : List Char} (hvalue : value.toList = width ++ ',' :: (height ++ rest))
      (hwidth : ',' ∉ width) (hheight : ',' ∉ height) (hrest : ∀ c ∈ rest.head?, c = ',') :
    WrittenSides value (String.ofList width, String.ofList height)
  | bare (hvalue : ',' ∉ value.toList) : WrittenSides value (value, "")

theorem takeWhile_ne_comma {part rest : List Char} (hpart : ',' ∉ part)
    (hrest : ∀ c ∈ rest.head?, c = ',') : (part ++ rest).takeWhile (· != ',') = part := by
  have hne : ∀ c ∈ part, (c != ',') = true := by
    intro c hc
    rw [bne_iff_ne]
    rintro rfl
    exact hpart hc
  rw [List.takeWhile_append_of_pos hne]
  cases rest with
  | nil => exact List.append_nil part
  | cons c rest =>
    obtain rfl := hrest c rfl
    exact List.append_nil part

theorem exists_writtenSides (value : String) : ∃ sides, WrittenSides value sides := by
  by_cases hcomma : ',' ∈ value.toList
  · obtain ⟨width, after, hvalue, hwidth⟩ := List.eq_append_cons_of_mem hcomma
    refine ⟨_, @WrittenSides.pair value width (after.takeWhile (· != ','))
      (after.dropWhile (· != ',')) ?_ hwidth ?_ ?_⟩
    · rw [List.takeWhile_append_dropWhile, hvalue]
    · intro hmem
      exact absurd (List.mem_takeWhile_imp hmem) (by decide)
    · intro c hc
      have hstop := List.head?_dropWhile_not (· != ',') after
      rw [hc] at hstop
      simpa using hstop
  · exact ⟨_, .bare hcomma⟩

theorem WrittenSides.imageSides_eq {value : String} {sides : String × String}
    (h : WrittenSides value sides) : imageSides value = sides := by
  cases h with
  | @pair width height rest hvalue hwidth hheight hrest =>
    have htake : (width ++ ',' :: (height ++ rest)).takeWhile (· != ',') = width :=
      takeWhile_ne_comma hwidth (by simp)
    have hdrop : (width ++ ',' :: (height ++ rest)).drop (width.length + 1) = height ++ rest := by
      simp
    simp only [imageSides, hvalue, htake, hdrop, takeWhile_ne_comma hheight hrest]
  | bare hvalue =>
    have htake := @takeWhile_ne_comma value.toList [] hvalue nofun
    rw [List.append_nil] at htake
    have hdrop : value.toList.drop (value.toList.length + 1) = [] :=
      List.drop_eq_nil_of_le (Nat.le_succ _)
    simp only [imageSides, htake, hdrop, List.takeWhile_nil, String.ofList_toList]

theorem writtenSides_imageSides (value : String) : WrittenSides value (imageSides value) := by
  obtain ⟨sides, h⟩ := exists_writtenSides value
  rw [h.imageSides_eq]
  exact h

/-- The side is a number above the limit. -/
def SideExceeds (side : String) (limit : Nat) : Prop :=
  ∃ n : Int, readInteger side = .ok n ∧ limit < n

/-- One of the sides is a number above the limit. -/
def SidesExceed (sides : String × String) (limit : Nat) : Prop :=
  SideExceeds sides.1 limit ∨ SideExceeds sides.2 limit

instance (side : String) (limit : Nat) : Decidable (SideExceeds side limit) :=
  match h : readInteger side with
  | .ok n => decidable_of_iff ((limit : Int) < n) (by simp [SideExceeds, h])
  | .error _ => isFalse (by simp [SideExceeds, h])

instance (sides : String × String) (limit : Nat) : Decidable (SidesExceed sides limit) :=
  inferInstanceAs (Decidable (_ ∨ _))

theorem SidesExceed.mono {sides : String × String} {limit lower : Nat} (hle : lower ≤ limit)
    (h : SidesExceed sides limit) : SidesExceed sides lower := by
  have hside : ∀ {side}, SideExceeds side limit → SideExceeds side lower := by
    rintro side ⟨n, hn, hlt⟩
    exact ⟨n, hn, by omega⟩
  exact h.imp hside hside

/-- The height is not read if the width is above the limit, which makes no difference. -/
theorem exceeds_eq_ok {sides : String × String} {limit : Nat} {above : Bool}
    (h : exceeds sides limit = .ok above) : above = true ↔ SidesExceed sides limit := by
  obtain ⟨width, hwidth, h⟩ := bind_eq_ok.mp h
  split at h
  next hlt =>
    obtain rfl := pure_eq_ok.mp h
    exact iff_of_true rfl (.inl ⟨width, hwidth, hlt⟩)
  next hle =>
    obtain ⟨height, hheight, h⟩ := bind_eq_ok.mp h
    obtain rfl := pure_eq_ok.mp h
    simp [SidesExceed, SideExceeds, hwidth, hheight, hle]

/-! ## Images -/

/-- A data item that is an image, and its value, which is not empty. -/
structure Image where
  item : Element
  value : String

/-- The image that a data item is. -/
def image? (item : Element) : Option Image :=
  if (item.within? "datatype").bind Element.soleText? = some "image" then
    (((item.within? "initialvalue").bind Element.soleText?).filter (!·.isEmpty)).map
      fun value => ⟨item, value⟩
  else none

/-- The images of an object, in order. -/
def imagesOf (object : Placed) : List Image :=
  (stagesOf object "Data").filterMap fun item => image? item.toElement

namespace Image

/-- One of the sides that the image is written with is above the limit. -/
def Exceeds (image : Image) (limit : Nat) : Prop :=
  ∃ sides, WrittenSides image.value sides ∧ SidesExceed sides limit

theorem exceeds_iff (image : Image) (limit : Nat) :
    image.Exceeds limit ↔ SidesExceed (imageSides image.value) limit := by
  constructor
  · rintro ⟨sides, hsides, h⟩
    rwa [hsides.imageSides_eq]
  · intro h
    exact ⟨_, writtenSides_imageSides image.value, h⟩

instance (image : Image) (limit : Nat) : Decidable (image.Exceeds limit) :=
  decidable_of_iff _ (image.exceeds_iff limit).symm

/-- The image is too large: one of its sides is above 250. -/
def TooLarge (image : Image) : Prop :=
  image.Exceeds 250

/-- The image is large, with a side above 180, but not too large. -/
def Large (image : Image) : Prop :=
  image.Exceeds 180 ∧ ¬image.TooLarge

instance (image : Image) : Decidable image.TooLarge :=
  inferInstanceAs (Decidable (image.Exceeds _))

instance (image : Image) : Decidable image.Large :=
  inferInstanceAs (Decidable (_ ∧ _))

theorem TooLarge.exceeds {image : Image} (h : image.TooLarge) : image.Exceeds 180 := by
  rw [TooLarge, exceeds_iff] at h
  rw [exceeds_iff]
  exact h.mono (by decide)

/-- The error on an image with a side above a limit, on some page. -/
def error (image : Image) (limit : Nat) (what : String) (page : Option String) : Findings :=
  .error ("Data Item '" ++ shown (image.item.attr? "name") ++ "' " ++ what ++ " " ++
    counted limit ++ " x " ++ counted limit ++ " (" ++ (imageSides image.value).2 ++ " x " ++
    (imageSides image.value).1 ++ ")") page

end Image

/-- What an image gives rise to: two errors if it is too large, and one if it is only large. -/
inductive ImageShare (object : Placed) (image : Image) : Findings → Prop
  | tooLarge {page : Option String} (h : image.TooLarge)
      (hpage : pageOf object image.item = .ok page) :
    ImageShare object image (image.error 250 "larger than recommended" page ++
      image.error 180 "size above warning threshold" page)
  | large {page : Option String} (h : image.Large) (hpage : pageOf object image.item = .ok page) :
    ImageShare object image (image.error 180 "size above warning threshold" page)
  | small (h : ¬image.Exceeds 180) : ImageShare object image .none

section

variable {object : Placed} {image : Image}

/-- What is found at one limit. -/
theorem findings_at_limit {limit : Nat} {what : String} {above : Bool} {findings : Findings}
    (habove : exceeds (imageSides image.value) limit = .ok above)
    (h : (if above then largeImage object image.item (imageSides image.value) limit what
      else pure .none) = .ok findings) :
    (image.Exceeds limit ∧ ∃ page, pageOf object image.item = .ok page ∧
      findings = image.error limit what page) ∨ (¬image.Exceeds limit ∧ findings = .none) := by
  have hiff := exceeds_eq_ok habove
  rw [← image.exceeds_iff] at hiff
  split at h
  next htrue =>
    obtain ⟨page, hpage, h⟩ := bind_eq_ok.mp h
    exact .inl ⟨hiff.mp htrue, page, hpage, (pure_eq_ok.mp h).symm⟩
  next hfalse => exact .inr ⟨mt hiff.mpr hfalse, (pure_eq_ok.mp h).symm⟩

theorem ite_bind_eq_ok {α β : Type} {p : Prop} [Decidable p] {x y : Except Fault α}
    {f : α → Except Fault β} {b : β} (h : (if p then x >>= f else y >>= f) = .ok b) :
    ∃ a, (if p then x else y) = .ok a ∧ f a = .ok b := by
  rw [← apply_ite (· >>= f)] at h
  exact bind_eq_ok.mp h

theorem imageShare_of_judgeImage {findings : Findings}
    (h : judgeImage object image.item (imageSides image.value) = .ok findings) :
    ImageShare object image findings := by
  obtain ⟨tooLarge, htooLarge, h⟩ := bind_eq_ok.mp h
  obtain ⟨first, hfirst, h⟩ := ite_bind_eq_ok h
  obtain ⟨large, hlarge, h⟩ := bind_eq_ok.mp h
  obtain ⟨second, hsecond, h⟩ := ite_bind_eq_ok h
  obtain rfl := pure_eq_ok.mp h
  rcases findings_at_limit htooLarge hfirst with ⟨hmax, page, hpage, rfl⟩ | ⟨hmax, rfl⟩
  · rcases findings_at_limit hlarge hsecond with ⟨-, page', hpage', rfl⟩ | ⟨hsmall, -⟩
    · obtain rfl := Except.ok.inj (hpage.symm.trans hpage')
      exact .tooLarge hmax hpage
    · exact absurd (Image.TooLarge.exceeds hmax) hsmall
  · rcases findings_at_limit hlarge hsecond with ⟨hexceeds, page, hpage, rfl⟩ | ⟨hsmall, rfl⟩
    · exact .large ⟨hexceeds, hmax⟩ hpage
    · exact .small hsmall

/-- A data item has a share in the findings if it is an image. -/
theorem judgeItem_eq_ok {item : Element} {found : Option Findings}
    (h : judgeItem object item = .ok found) :
    (∃ image share, image? item = some image ∧ found = some share ∧
      ImageShare object image share) ∨ (image? item = none ∧ found = none) := by
  obtain ⟨datatype, hdatatype, h⟩ := bind_eq_ok.mp h
  rw [image?, need_eq_ok_iff.mp hdatatype, Option.bind_some]
  split at h
  next hother =>
    rw [if_neg hother]
    exact .inr ⟨rfl, (pure_eq_ok.mp h).symm⟩
  next himage =>
    rw [if_pos (not_not.mp himage)]
    obtain ⟨initial, hinitial, h⟩ := bind_eq_ok.mp h
    rw [need_eq_ok_iff.mp hinitial, Option.bind_some]
    cases hvalue : initial.soleText? with
    | none =>
      rw [hvalue] at h
      exact .inr ⟨rfl, (pure_eq_ok.mp h).symm⟩
    | some value =>
      rw [hvalue, Option.getD_some] at h
      rw [Option.filter_some]
      dsimp only at h
      split at h
      next hempty =>
        rw [hempty]
        exact .inr ⟨rfl, (pure_eq_ok.mp h).symm⟩
      next hempty =>
        rw [Bool.eq_false_iff.mpr hempty]
        obtain ⟨share, hshare, h⟩ := bind_eq_ok.mp h
        exact .inl ⟨⟨item, value⟩, share, rfl, (pure_eq_ok.mp h).symm,
          @imageShare_of_judgeImage object ⟨item, value⟩ share hshare⟩

theorem imageShares_of_items {items : List Placed} {found : List (Option Findings)}
    (h : List.Forall₂ (fun item found => judgeItem object item.toElement = .ok found) items
      found) :
    List.Forall₂ (ImageShare object) (items.filterMap fun item => image? item.toElement)
      (found.filterMap id) := by
  induction h with
  | nil => exact .nil
  | cons hitem _ ih =>
    rcases judgeItem_eq_ok hitem with ⟨image, share, himage, rfl, hshare⟩ | ⟨hnone, rfl⟩
    · rw [List.filterMap_cons_some (f := fun item : Placed => image? item.toElement) himage]
      exact .cons hshare ih
    · rw [List.filterMap_cons_none (f := fun item : Placed => image? item.toElement) hnone]
      exact ih

/-- What the check comes to: the shares of the images, and no ruling unless there are none. -/
theorem checkImages_eq_ok {facts : Facts} {outcome : Outcome}
    (h : checkImages object facts = .ok outcome) :
    ∃ shares, List.Forall₂ (ImageShare object) (imagesOf object) shares ∧
      outcome = ⟨.join shares, if imagesOf object = [] then some .notApplicable else none⟩ := by
  obtain ⟨found, hfound, h⟩ := bind_eq_ok.mp h
  have hshares := imageShares_of_items (mapM_eq_ok_iff.mp hfound)
  refine ⟨_, hshares, ?_⟩
  rw [← pure_eq_ok.mp h]
  have hempty : (found.filterMap id).isEmpty = true ↔ imagesOf object = [] := by
    rw [List.isEmpty_iff, ← List.length_eq_zero_iff, ← hshares.length_eq,
      List.length_eq_zero_iff]
    rfl
  simp only [hempty]

/-! ## Numbers of errors -/

theorem Image.exceeds_iff_tooLarge_or_large :
    image.Exceeds 180 ↔ image.TooLarge ∨ image.Large := by
  constructor
  · intro h
    by_cases hmax : image.TooLarge
    · exact .inl hmax
    · exact .inr ⟨h, hmax⟩
  · rintro (h | h)
    · exact h.exceeds
    · exact h.1

theorem ImageShare.warnings_eq_nil {share : Findings} (h : ImageShare object image share) :
    share.warnings = [] := by
  cases h <;> rfl

theorem ImageShare.length_errors {share : Findings} (h : ImageShare object image share) :
    share.errors.length = 2 * (if image.TooLarge then 1 else 0) + if image.Large then 1 else 0 := by
  cases h with
  | tooLarge h =>
    have hlarge : ¬image.Large := fun hlarge => hlarge.2 h
    rw [if_pos h, if_neg hlarge]
    rfl
  | large h =>
    rw [if_neg h.2, if_pos h]
    rfl
  | small h =>
    rw [Image.exceeds_iff_tooLarge_or_large, not_or] at h
    rw [if_neg h.1, if_neg h.2]
    rfl

/-- There are two errors for each image that is too large, and one for each that is only large. -/
theorem length_errors_of_shares {images : List Image} {shares : List Findings}
    (h : List.Forall₂ (ImageShare object) images shares) :
    (Findings.join shares).errors.length =
      2 * images.countP (·.TooLarge) + images.countP (·.Large) := by
  induction h with
  | nil => rfl
  | @cons image share images shares hshare _ ih =>
    rw [Findings.join_cons, Findings.errors_append, List.length_append, hshare.length_errors, ih,
      List.countP_cons, List.countP_cons]
    simp only [decide_eq_true_eq]
    omega

theorem warnings_of_shares {images : List Image} {shares : List Findings}
    (h : List.Forall₂ (ImageShare object) images shares) :
    (Findings.join shares).warnings = [] := by
  rw [Findings.warnings_join, List.flatMap_eq_nil_iff]
  intro share hmem
  obtain ⟨image, -, hshare⟩ := exists_of_forall₂ h share hmem
  exact hshare.warnings_eq_nil

theorem countP_eq_zero_iff_small (images : List Image) :
    images.countP (·.TooLarge) = 0 ∧ images.countP (·.Large) = 0 ↔
      ∀ image ∈ images, ¬image.Exceeds 180 := by
  rw [List.countP_eq_zero, List.countP_eq_zero]
  simp only [decide_eq_true_eq, Image.exceeds_iff_tooLarge_or_large, not_or, imp_and, forall_and]

end

/-! ## Grades -/

/-- The score and the verdict on images by the number of errors. -/
def resultByErrors (errors : Nat) : Number × Verdict :=
  if errors = 0 then (.int 10, .yes)
  else if errors ≤ 2 then (.float (Float.ofInt 10 * 0.7), .frequently)
  else if errors = 3 then (.float (Float.ofInt 10 * 0.3), .infrequently)
  else (.int 0, .no)

theorem resultByErrors_eq_yes_iff {errors : Nat} :
    (resultByErrors errors).2 = .yes ↔ errors = 0 := by
  unfold resultByErrors
  split
  next h => exact iff_of_true rfl h
  next h =>
    refine iff_of_false ?_ h
    split
    · nofun
    · split <;> nofun

theorem band_images (errors : Nat) :
    Consideration.images.rubric.band (.int 10) errors =
      .ok (resultByErrors errors) := by
  unfold Rubric.band resultByErrors
  split
  next h =>
    have hmany : (3 : Int) < errors := h
    rw [if_neg (by omega), if_neg (by omega), if_neg (by omega)]
    rfl
  next h =>
    have hthree : ¬(3 : Int) < errors := h
    split
    next h =>
      have htwo : (2 : Int) < errors := h
      rw [if_neg (by omega), if_neg (by omega), if_pos (by omega)]
      exact bind_eq_ok.mpr ⟨_, Consideration.images.scaled_maxScore 0.3, rfl⟩
    next h =>
      have htwo : ¬(2 : Int) < errors := h
      split
      next h =>
        have hsome : (0 : Int) < errors := h
        rw [if_neg (by omega), if_pos (by omega)]
        exact bind_eq_ok.mpr ⟨_, Consideration.images.scaled_maxScore 0.7, rfl⟩
      next h =>
        have hnone : ¬(0 : Int) < errors := h
        rw [if_pos (by omega)]
        rfl

/-- The grade of an object: images do not apply if there are none, and otherwise the number of
errors decides. -/
def gradeOfImages (object : Placed) (errors : Nat) : Grade :=
  if imagesOf object = [] then ⟨.int 0, .int 0, .notApplicable, true⟩
  else ⟨(resultByErrors errors).1, .int 10, (resultByErrors errors).2, false⟩

theorem verdict_gradeOfImages_eq_yes_iff {object : Placed} {errors : Nat} :
    (gradeOfImages object errors).verdict = .yes ↔ imagesOf object ≠ [] ∧ errors = 0 := by
  unfold gradeOfImages
  split
  next hempty => exact iff_of_false nofun fun h => h.1 hempty
  next hsome => rw [resultByErrors_eq_yes_iff, and_iff_right hsome]

theorem assess_images (isDate : DateReader) {object : Placed} {facts : Facts} {findings : Findings}
    (h : checkImages object facts =
      .ok ⟨findings, if imagesOf object = [] then some .notApplicable else none⟩) :
    Consideration.images.assess isDate object facts = .ok ⟨Consideration.images.rubric,
      gradeOfImages object findings.errors.length, findings⟩ := by
  refine bind_eq_ok.mpr ⟨_, h, ?_⟩
  unfold gradeOfImages
  split
  next => exact Consideration.images.evaluate_record_of_ruling findings .notApplicable
  next =>
    refine Consideration.images.evaluate_record_of_found findings ?_
    rw [Consideration.issues_of_ne (by decide)]
    exact band_images _

/-! ## The check -/

/-- Each image has its share in the findings, in order: two errors if it is too large, and one if it
is only large. There are no warnings. So what is found is one error for each image that is too large
and one warning for each that is only large exactly if there are no such images. The grade goes by
the number of errors, and is a Yes only if no image is large. -/
theorem images_by_size (isDate : DateReader) {object : Placed} {facts : Facts}
    {outcome : Outcome} (h : checkImages object facts = .ok outcome) :
    (∃ shares, outcome.findings = .join shares ∧
      List.Forall₂ (ImageShare object) (imagesOf object) shares) ∧
    outcome.findings.warnings = [] ∧
    outcome.findings.errors.length =
      2 * (imagesOf object).countP (·.TooLarge) + (imagesOf object).countP (·.Large) ∧
    (outcome.findings.errors.length = (imagesOf object).countP (·.TooLarge) ∧
        outcome.findings.warnings.length = (imagesOf object).countP (·.Large) ↔
      ∀ image ∈ imagesOf object, ¬image.Exceeds 180) ∧
    ∃ sheet, Consideration.images.assess isDate object facts = .ok sheet ∧
      sheet.findings = outcome.findings ∧
      sheet.grade = gradeOfImages object outcome.findings.errors.length ∧
      (sheet.grade.verdict = .yes ↔
        imagesOf object ≠ [] ∧ ∀ image ∈ imagesOf object, ¬image.Exceeds 180) := by
  obtain ⟨shares, hshares, rfl⟩ := checkImages_eq_ok h
  have hlength := length_errors_of_shares hshares
  have hwarnings := warnings_of_shares hshares
  have hsmall := countP_eq_zero_iff_small (imagesOf object)
  refine ⟨⟨shares, rfl, hshares⟩, hwarnings, hlength, ?_, _, assess_images isDate h, rfl, rfl, ?_⟩
  · rw [← hsmall, hlength, hwarnings, List.length_nil]
    omega
  · rw [verdict_gradeOfImages_eq_yes_iff, ← hsmall, hlength]
    exact and_congr_right fun _ => by omega

/-- An object with images of these values on its one page. -/
def objectWithImages (values : List String) : Placed :=
  .alone ⟨"process", [("name", "Base A")],
    .element "subsheet" [("subsheetid", "page")] [.element "name" [] [.leaf .text "Page"]] ::
      values.map fun value => .element "stage" [("type", "Data"), ("name", "Logo")]
        [.element "subsheetid" [] [.leaf .text "page"],
         .element "datatype" [] [.leaf .text "image"],
         .element "initialvalue" [] [.leaf .text value]]⟩

/-- Two images, the second with a width just above the lower limit. -/
def narrowImages : Placed :=
  objectWithImages ["180,180,a", "181,20,b"]

/-- Two images, the first too large and the second only large. -/
def wideImages : Placed :=
  objectWithImages ["300,300,a", "200,200,b"]

/-- A side at the lower limit is no error, and the single one above it takes away the Yes. -/
theorem side_above_lower_limit_is_counted :
    ∃ outcome sheet, checkImages narrowImages ⟨.ok .base, .ok false, .ok false⟩ = .ok outcome ∧
      outcome.findings.errors.length = 1 ∧ outcome.findings.warnings = [] ∧
      Consideration.images.assess Calendar.recognise narrowImages
        ⟨.ok .base, .ok false, .ok false⟩ = .ok sheet ∧
      sheet.grade.verdict = .frequently := by
  obtain ⟨outcome, hcheck⟩ : ∃ outcome,
      checkImages narrowImages ⟨.ok .base, .ok false, .ok false⟩ = .ok outcome :=
    exists_of_toBool (by decide +kernel)
  obtain ⟨-, hwarnings, hlength, -, sheet, hassess, -, hgrade, -⟩ :=
    images_by_size Calendar.recognise hcheck
  have htooLarge : (imagesOf narrowImages).countP (·.TooLarge) = 0 := by decide +kernel
  have hlarge : (imagesOf narrowImages).countP (·.Large) = 1 := by decide +kernel
  rw [htooLarge, hlarge] at hlength
  rw [hlength] at hgrade
  refine ⟨outcome, sheet, hcheck, hlength, hwarnings, hassess, ?_⟩
  rw [hgrade]
  rfl

/-- Of two images one is too large and the other only large. The first has two errors, and the other
an error and not a warning. -/
theorem large_image_is_an_error :
    (imagesOf wideImages).map (fun image => (decide image.TooLarge, decide image.Large)) =
      [(true, false), (false, true)] ∧
    ∃ outcome, checkImages wideImages ⟨.ok .base, .ok false, .ok false⟩ = .ok outcome ∧
      outcome.findings.errors.map (·.name) =
        ["Data Item 'Logo' larger than recommended 250 x 250 (300 x 300)",
         "Data Item 'Logo' size above warning threshold 180 x 180 (300 x 300)",
         "Data Item 'Logo' size above warning threshold 180 x 180 (200 x 200)"] ∧
      outcome.findings.warnings = [] := by
  exact ⟨by decide +kernel, _, rfl, by decide +kernel, rfl⟩

end ReleaseReview
