import ReleaseReview.Check.Value

/-!
# Words in a value

A value may hold the data of a customer if a word that goes with such data stands in it and has at
least two characters after it. Only the first place of a word is looked at (`FirstAt`), and the
words overlap: a name stands in every username. Still no word is missed. A later place of a word has
less after it than its first, so if there are two characters after any place of it, there are two
after the first (`exists_firstAt_iff`). `customer_words_anywhere` says so of all words together.
-/

namespace ReleaseReview

open Text

/-! ## The first place of a word -/

/-- The word stands in the text from its `i`-th character on, and from none before. -/
def FirstAt (word text : List Char) (i : Nat) : Prop :=
  word <+: text.drop i ∧ ∀ j < i, ¬word <+: text.drop j

variable {word text rest : List Char}

theorem FirstAt.cons {c : Char} {i : Nat} (h : FirstAt word text i) (hc : ¬word <+: c :: text) :
    FirstAt word (c :: text) (i + 1) := by
  refine ⟨h.1, fun j hj => ?_⟩
  cases j with
  | zero => exact hc
  | succ j => exact h.2 j (by omega)

/-- A word has one first place. -/
theorem FirstAt.unique {i j : Nat} (hi : FirstAt word text i) (hj : FirstAt word text j) :
    i = j := by
  rcases Nat.lt_trichotomy i j with hlt | heq | hlt
  · exact absurd hi.1 (hj.2 i hlt)
  · exact heq
  · exact absurd hj.1 (hi.2 j hlt)

/-- What follows the first place is the text from the end of the word on. -/
theorem firstAt_of_afterFirst? (h : afterFirst? word text = some rest) :
    ∃ i, FirstAt word text i ∧ rest = text.drop (i + word.length) := by
  induction text with
  | nil =>
    rw [afterFirst?] at h
    split at h
    next hempty =>
      obtain rfl := List.isEmpty_iff.mp hempty
      exact ⟨0, ⟨List.nil_prefix, nofun⟩, (Option.some.inj h).symm⟩
    next => cases h
  | cons c text ih =>
    rw [afterFirst?] at h
    split at h
    next hfirst =>
      refine ⟨0, ⟨List.isPrefixOf_iff_prefix.mp hfirst, nofun⟩, ?_⟩
      rw [← Option.some.inj h, Nat.zero_add]
    next hnot =>
      obtain ⟨i, hi, rfl⟩ := ih h
      refine ⟨i + 1, hi.cons fun h => hnot (List.isPrefixOf_iff_prefix.mpr h), ?_⟩
      rw [Nat.add_right_comm, List.drop_succ_cons]

/-- If nothing follows a first place, the word stands nowhere. -/
theorem not_prefix_drop_of_afterFirst? (h : afterFirst? word text = none) (i : Nat) :
    ¬word <+: text.drop i := by
  induction text generalizing i with
  | nil =>
    rw [afterFirst?] at h
    split at h
    next => cases h
    next hempty =>
      intro hstands
      rw [List.drop_nil, List.prefix_nil] at hstands
      simp [hstands] at hempty
  | cons c text ih =>
    rw [afterFirst?] at h
    split at h
    next => cases h
    next hnot =>
      cases i with
      | zero => exact fun h => hnot (List.isPrefixOf_iff_prefix.mpr h)
      | succ i => exact ih h i

theorem exists_afterFirst?_iff {n : Nat} :
    (∃ rest, afterFirst? word text = some rest ∧ n < rest.length) ↔
      ∃ i, FirstAt word text i ∧ n < text.length - (i + word.length) := by
  constructor
  · rintro ⟨rest, hrest, hn⟩
    obtain ⟨i, hi, rfl⟩ := firstAt_of_afterFirst? hrest
    exact ⟨i, hi, by rwa [List.length_drop] at hn⟩
  · rintro ⟨i, hi, hn⟩
    cases hrest : afterFirst? word text with
    | none => exact absurd hi.1 (not_prefix_drop_of_afterFirst? hrest i)
    | some rest =>
      obtain ⟨j, hj, rfl⟩ := firstAt_of_afterFirst? hrest
      obtain rfl := hi.unique hj
      exact ⟨_, rfl, by rwa [List.length_drop]⟩

/-! ## Any place of a word -/

/-- A word that stands in a text has a first place there, which is not after it. -/
theorem exists_firstAt_le {before after : List Char} (htext : text = before ++ word ++ after) :
    ∃ i ≤ before.length, FirstAt word text i := by
  have hstands : word <+: text.drop before.length := by
    rw [htext, List.append_assoc, List.drop_left]
    exact List.prefix_append word after
  cases hrest : afterFirst? word text with
  | none => exact absurd hstands (not_prefix_drop_of_afterFirst? hrest before.length)
  | some rest =>
    obtain ⟨i, hi, -⟩ := firstAt_of_afterFirst? hrest
    exact ⟨i, Nat.le_of_not_lt fun hlt => hi.2 before.length hlt hstands, hi⟩

/-- More than `n` characters follow the first place of a word if they follow any. -/
theorem exists_firstAt_iff {n : Nat} :
    (∃ i, FirstAt word text i ∧ n < text.length - (i + word.length)) ↔
      ∃ before after, text = before ++ word ++ after ∧ n < after.length := by
  constructor
  · rintro ⟨i, ⟨⟨after, hafter⟩, -⟩, hn⟩
    have hlength : word.length + after.length = text.length - i := by
      rw [← List.length_append, hafter, List.length_drop]
    refine ⟨text.take i, after, ?_, by omega⟩
    rw [List.append_assoc, hafter, List.take_append_drop]
  · rintro ⟨before, after, htext, hn⟩
    -- the first place is no later, so no less follows it
    obtain ⟨i, hle, hi⟩ := exists_firstAt_le htext
    have hlength : text.length = before.length + word.length + after.length := by
      rw [htext, List.length_append, List.length_append]
    exact ⟨i, hi, by omega⟩

/-! ## Words of customers -/

theorem mayBeCustomerData_iff (value : String) :
    mayBeCustomerData value = true ↔ ∃ word ∈ customerWords, ∃ rest,
      afterFirst? word.toList (lower value).toList = some rest ∧ 1 < rest.length := by
  unfold mayBeCustomerData
  rw [List.any_eq_true]
  refine exists_congr fun word => and_congr_right fun _ => ?_
  cases afterFirst? word.toList (lower value).toList <;> simp

/-- A value may hold the data of a customer if one of the words stands somewhere in it in lower case
with at least two characters after it, and otherwise it may not. It goes by the first place of each
word, and that is enough. -/
theorem customer_words_anywhere (value : String) :
    (mayBeCustomerData value = true ↔ ∃ word ∈ customerWords, ∃ before after,
      (lower value).toList = before ++ word.toList ++ after ∧ 2 ≤ after.length) ∧
    (mayBeCustomerData value = false ↔ ∀ word ∈ customerWords, ∀ before after,
      (lower value).toList = before ++ word.toList ++ after → after.length < 2) ∧
    (mayBeCustomerData value = true ↔ ∃ word ∈ customerWords, ∃ i,
      FirstAt word.toList (lower value).toList i ∧
        1 < (lower value).toList.length - (i + word.toList.length)) := by
  have hfirst : mayBeCustomerData value = true ↔ ∃ word ∈ customerWords, ∃ i,
      FirstAt word.toList (lower value).toList i ∧
        1 < (lower value).toList.length - (i + word.toList.length) := by
    rw [mayBeCustomerData_iff]
    exact exists_congr fun word => and_congr_right fun _ => exists_afterFirst?_iff
  have hany : mayBeCustomerData value = true ↔ ∃ word ∈ customerWords, ∃ before after,
      (lower value).toList = before ++ word.toList ++ after ∧ 2 ≤ after.length := by
    rw [hfirst]
    exact exists_congr fun word => and_congr_right fun _ => exists_firstAt_iff
  refine ⟨hany, ?_, hfirst⟩
  rw [← Bool.not_eq_true, hany]
  simp only [not_exists, not_and, Nat.not_le]

end ReleaseReview
