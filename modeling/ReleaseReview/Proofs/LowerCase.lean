import ReleaseReview.Text.Case
import ReleaseReview.Text.Search

/-!
# Lower case is settled

A text in lower case stays as it is when it is put into lower case once more, and so does each part
of it. That is a matter of the table of letters: the partner of a capital is no capital itself
(`apart_caseRuns`). `lower_of_occurs` draws the conclusion for a word that stands in a text in lower
case: it is in lower case too.
-/

namespace ReleaseReview.Text

/-! ## The table -/

namespace CaseRun

/-- Does the run hold the capital with this code? -/
def holds (r : CaseRun) (n : Nat) : Bool :=
  decide (r.first ≤ n) && decide (n ≤ r.last) && (n - r.first) % r.stride == 0

/-- The code of the partner of the run's last capital. -/
def lastTarget (r : CaseRun) : Nat :=
  r.target + (r.last - r.first)

/-- Does the other run hold none of the partners? Either they lie outside of it, or they lie in its
gaps. The comparisons are those that a kernel can do fast. -/
def apart (r other : CaseRun) : Bool :=
  Nat.ble (r.lastTarget + 1) other.first || Nat.ble (other.last + 1) r.target ||
    (Nat.beq other.stride 2 && (Nat.beq r.stride 2 || Nat.beq r.first r.last) &&
      Nat.beq ((r.target + other.first) % 2) 1)

theorem holds_iff {r : CaseRun} {n : Nat} :
    r.holds n = true ↔ r.first ≤ n ∧ n ≤ r.last ∧ (n - r.first) % r.stride = 0 := by
  simp [holds, and_assoc]

theorem not_holds_of_apart {r other : CaseRun} {n : Nat} (h : r.apart other = true)
    (hn : r.holds n = true) : other.holds (r.target + (n - r.first)) = false := by
  obtain ⟨hfirst, hlast, hstride⟩ := holds_iff.mp hn
  simp only [apart, lastTarget, Bool.or_eq_true, Bool.and_eq_true, Nat.ble_eq, Nat.beq_eq] at h
  rw [← Bool.not_eq_true, holds_iff]
  rintro ⟨hfirst', hlast', hstride'⟩
  rcases h with (h | h) | ⟨⟨htwo, hsteps⟩, hodd⟩
  · omega
  · omega
  · rw [htwo] at hstride'
    rcases hsteps with htwo' | hsingle
    · rw [htwo'] at hstride
      omega
    · omega

end CaseRun

/-- No run holds the partner of a capital. -/
theorem apart_caseRuns : ∀ r ∈ caseRuns, ∀ other ∈ caseRuns, r.apart other = true := by
  have h : (caseRuns.all fun r => caseRuns.all r.apart) = true := by decide +kernel
  intro r hr other hother
  exact List.all_eq_true.mp (List.all_eq_true.mp h r hr) other hother

/-- The partners are characters, and the dotted capital I is not among them. -/
theorem target_caseRuns : ∀ r ∈ caseRuns, (r.lastTarget < 0x130 ∨ 0x130 < r.target) ∧
    (r.lastTarget < 0xd800 ∨ 0xdfff < r.target ∧ r.lastTarget < 0x110000) := by
  decide +kernel

/-! ## Characters -/

/-- The character stays as it is in lower case, wherever it stands. -/
def IsLower (c : Char) : Prop :=
  c ≠ 'Σ' ∧ c ≠ 'İ' ∧ lowerChar c = c

theorem lowerChar_eq (c : Char) : lowerChar c =
    if c.toNat < 0x80 then
      if 0x41 ≤ c.toNat ∧ c.toNat ≤ 0x5a then Char.ofNat (c.toNat + 0x20) else c
    else
      match caseRuns.find? (·.holds c.toNat) with
      | some r => Char.ofNat (r.target + (c.toNat - r.first))
      | none => c :=
  rfl

theorem toNat_ofNat {n : Nat} (h : n.isValidChar) : (Char.ofNat n).toNat = n := by
  rw [Char.ofNat, dif_pos h]
  rfl

theorem exists_holds_sigma : ∃ r ∈ caseRuns, r.holds 'Σ'.toNat = true := by
  decide +kernel

/-- A character that no run holds stays as it is. -/
theorem isLower_of_not_held {c : Char} (hdotted : c ≠ 'İ')
    (h : ∀ r ∈ caseRuns, r.holds c.toNat = false) : IsLower c := by
  refine ⟨?_, hdotted, ?_⟩
  · rintro rfl
    obtain ⟨r, hr, hholds⟩ := exists_holds_sigma
    rw [h r hr] at hholds
    cases hholds
  · have hnone : caseRuns.find? (·.holds c.toNat) = none :=
      List.find?_eq_none.mpr fun r hr => by simp [h r hr]
    have hletters := h ⟨0x41, 0x5a, 1, 0x61⟩ List.mem_cons_self
    rw [← Bool.not_eq_true, CaseRun.holds_iff] at hletters
    rw [lowerChar_eq, hnone]
    split
    · rw [if_neg]
      intro hletter
      exact hletters ⟨hletter.1, hletter.2, Nat.mod_one _⟩
    · rfl

/-- The partner of a capital stays as it is. -/
theorem isLower_target {r : CaseRun} (hr : r ∈ caseRuns) {n : Nat} (hn : r.holds n = true) :
    IsLower (Char.ofNat (r.target + (n - r.first))) := by
  obtain ⟨hdotted, hvalid⟩ := target_caseRuns r hr
  obtain ⟨hfirst, hlast, -⟩ := CaseRun.holds_iff.mp hn
  unfold CaseRun.lastTarget at hdotted hvalid
  have hcode : (Char.ofNat (r.target + (n - r.first))).toNat = r.target + (n - r.first) :=
    toNat_ofNat (by unfold Nat.isValidChar; omega)
  refine isLower_of_not_held ?_ fun other hother => ?_
  · intro heq
    rw [heq] at hcode
    have : 'İ'.toNat = 0x130 := rfl
    omega
  · rw [hcode]
    exact CaseRun.not_holds_of_apart (apart_caseRuns r hr other hother) hn

theorem isLower_lowerChar {c : Char} (hsigma : c ≠ 'Σ') (hdotted : c ≠ 'İ') :
    IsLower (lowerChar c) := by
  by_cases hself : lowerChar c = c
  · rw [hself]
    exact ⟨hsigma, hdotted, hself⟩
  · rw [lowerChar_eq] at hself ⊢
    split
    next hascii =>
      rw [if_pos hascii] at hself
      split
      next hletter =>
        -- The letters of the first run are looked up without the table.
        have htarget : c.toNat + 0x20 = 0x61 + (c.toNat - 0x41) := by omega
        rw [htarget]
        refine isLower_target (r := ⟨0x41, 0x5a, 1, 0x61⟩) List.mem_cons_self ?_
        exact CaseRun.holds_iff.mpr ⟨hletter.1, hletter.2, Nat.mod_one _⟩
      next hletter => exact absurd (if_neg hletter) hself
    next hascii =>
      rw [if_neg hascii] at hself
      split
      next r hfound =>
        have hholds : r.holds c.toNat = true := by simpa using List.find?_some hfound
        exact isLower_target (List.mem_of_find?_eq_some hfound) hholds
      next hnone =>
        rw [hnone] at hself
        exact absurd rfl hself

/-! ## Texts -/

/-- What the letters without a partner of their own become stays as it is. -/
theorem isLower_special : ∀ c ∈ ['σ', 'ς', 'i', '\u0307'], IsLower c := by
  have h : (['σ', 'ς', 'i', '\u0307'].all fun c =>
      caseRuns.all fun r => !r.holds c.toNat) = true := by
    decide +kernel
  intro c hc
  refine isLower_of_not_held ?_ fun r hr => ?_
  · rintro rfl
    exact absurd hc (by decide)
  · simpa using List.all_eq_true.mp (List.all_eq_true.mp h c hc) r hr

theorem isLower_of_mem_lowerAfter {before cs : List Char} {c : Char}
    (h : c ∈ lowerAfter before cs) : IsLower c := by
  induction cs generalizing before with
  | nil => simp [lowerAfter] at h
  | cons d cs ih =>
    rw [lowerAfter, List.mem_append] at h
    rcases h with h | h
    · split at h
      next =>
        rw [List.mem_singleton] at h
        subst h
        split <;> exact isLower_special _ (by simp)
      next hsigma =>
        split at h
        next => exact isLower_special c (List.mem_cons_of_mem _ (List.mem_cons_of_mem _ h))
        next hdotted =>
          rw [List.mem_singleton] at h
          subst h
          exact isLower_lowerChar hsigma hdotted
    · exact ih h

theorem lowerAfter_eq_self {before cs : List Char} (h : ∀ c ∈ cs, IsLower c) :
    lowerAfter before cs = cs := by
  induction cs generalizing before with
  | nil => rfl
  | cons c cs ih =>
    obtain ⟨hsigma, hdotted, hself⟩ := h c List.mem_cons_self
    rw [lowerAfter, if_neg hsigma, if_neg hdotted, hself,
      ih fun d hd => h d (List.mem_cons_of_mem _ hd), List.singleton_append]

/-- A word that stands in a text in lower case is in lower case itself. -/
theorem lower_of_occurs {word text : String} (h : occurs word (lower text) = true) :
    lower word = word := by
  rw [occurs, occursIn_iff, lower, String.toList_ofList] at h
  rw [lower, lowerAfter_eq_self fun c hc => isLower_of_mem_lowerAfter (h.subset hc),
    String.ofList_toList]

end ReleaseReview.Text
