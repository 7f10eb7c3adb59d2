import Mathlib.Data.List.Count
import Mathlib.Data.List.Induction
import ReleaseReview.Proofs.UnwantedAttributes

/-!
# Striking attributes off a list

Elements that are examined in turn share one list of recommended attributes, and each strikes off it
the names that it uses. A name that stands in the list more than once is struck once for each use,
from the front. So what is left after some elements is told by how often they use each name: an
occurrence stays if the same name stands before it as often as it is used (`survivors`). The list
may be any list of names, with repetitions or without.

`recommended_struck_in_turn` says so of a run without a fault, and that the findings go by it. There
is a warning on an element as long as the list has not run empty by then. The errors go neither by
the list nor by the other elements.
-/

namespace ReleaseReview

open Markup Text

/-! ## What is left of a list -/

/-- The names of the list without the first ones of each, as many as are used: an occurrence stays
if the same name stands before it at least as often as it is used. -/
def survivors (names used : List String) : List String :=
  (names.zipIdx.filter fun place =>
    decide (used.count place.1 ≤ (names.take place.2).count place.1)).map Prod.fst

theorem survivors_concat (names used : List String) (name : String) :
    survivors (names ++ [name]) used =
      survivors names used ++ if used.count name ≤ names.count name then [name] else [] := by
  have hbefore : ∀ place ∈ names.zipIdx,
      decide (used.count place.1 ≤ ((names ++ [name]).take place.2).count place.1) =
        decide (used.count place.1 ≤ (names.take place.2).count place.1) := by
    intro place hplace
    have hlt : place.2 < names.length := by
      simpa using List.snd_lt_of_mem_zipIdx hplace
    rw [List.take_append_of_le_length hlt.le]
  unfold survivors
  rw [List.zipIdx_append, List.filter_append, List.map_append, List.filter_congr hbefore]
  congr 1
  simp only [List.zipIdx_cons, List.zipIdx_nil, Nat.zero_add, List.filter_cons, List.filter_nil,
    List.take_left, decide_eq_true_eq]
  split <;> rfl

/-- Striking the used names one by one leaves a last name if it stands before it as often as it is
used. -/
theorem diff_concat (names used : List String) (name : String) :
    (names ++ [name]).diff used =
      names.diff used ++ if used.count name ≤ names.count name then [name] else [] := by
  induction used generalizing names with
  | nil => simp
  | cons u used ih =>
    rw [List.diff_cons, List.diff_cons]
    by_cases hu : u ∈ names
    · -- it comes off the names before, where the last name then has one less if it is the same
      have hcount : used.count name ≤ (names.erase u).count name ↔
          (u :: used).count name ≤ names.count name := by
        have hpos : 0 < names.count u := List.count_pos_iff.mpr hu
        by_cases hname : u = name
        · subst hname
          rw [List.count_erase_self, List.count_cons_self]
          omega
        · rw [List.count_erase_of_ne (Ne.symm hname), List.count_cons_of_ne hname]
      rw [List.erase_append_left _ hu, ih]
      simp only [hcount]
    · -- only the last name is left to strike
      rw [List.erase_append_right _ hu, List.erase_of_not_mem hu]
      by_cases hname : u = name
      · subst hname
        simp [List.count_eq_zero.mpr hu]
      · rw [List.erase_of_not_mem (by simpa using hname), ih, List.count_cons_of_ne hname]

/-- Striking the used names one by one leaves the occurrences that have enough before them. -/
theorem diff_eq_survivors (names used : List String) : names.diff used = survivors names used := by
  induction names using List.reverseRecOn with
  | nil => exact List.nil_diff used
  | append_singleton names name ih => rw [diff_concat, survivors_concat, ih]

/-! ## Elements in turn -/

/-- The names of attributes that elements use, one after another. -/
def usedBy (calls : List (String × Element)) : List String :=
  calls.flatMap fun call => namesInUse call.2

theorem usedBy_cons (call : String × Element) (calls : List (String × Element)) :
    usedBy (call :: calls) = namesInUse call.2 ++ usedBy calls :=
  List.flatMap_cons

theorem usedBy_take_succ {calls : List (String × Element)} {i : Nat} {call : String × Element}
    (hi : calls[i]? = some call) :
    usedBy (calls.take (i + 1)) = usedBy (calls.take i) ++ namesInUse call.2 := by
  rw [usedBy, List.take_add_one, hi, List.flatMap_append, Option.toList_some,
    List.flatMap_singleton]
  rfl

/-- Each element goes by what is left of the list after those before it. -/
theorem getElem?_examineInTurn {unwanted recommended : List String}
    {calls : List (String × Element)}
    (h : ∀ turn ∈ examineInTurn unwanted recommended calls, ∃ share, turn.2 = .ok share)
    {i : Nat} {type : String} {element : Element} (hi : calls[i]? = some (type, element)) :
    (examineInTurn unwanted recommended calls)[i]? =
      some (examineElement type unwanted (recommended.diff (usedBy (calls.take i))) element) := by
  induction calls generalizing recommended i with
  | nil => cases hi
  | cons call calls ih =>
    rw [examineInTurn, List.forall_mem_cons] at h
    obtain ⟨⟨share, hshare⟩, hrest⟩ := h
    cases i with
    | zero =>
      obtain rfl := Option.some.inj hi
      rfl
    | succ i =>
      have hleft := (examineElement_eq_ok hshare).1
      rw [hleft] at hrest
      rw [examineInTurn, List.getElem?_cons_succ, hleft, ih hrest hi, List.take_succ_cons,
        usedBy_cons, List.diff_append]

/-! ## Findings in turn -/

/-- Which names should not be used does not go by the recommended ones. -/
theorem snd_examineUsed (unwanted recommended others : List String) (attributes : List Element) :
    (examineUsed unwanted recommended attributes).2 =
      (examineUsed unwanted others attributes).2 := by
  induction attributes generalizing recommended others with
  | nil => rfl
  | cons attr attributes ih =>
    rw [examineUsed, examineUsed]
    cases misused? unwanted attr with
    | error fault => rfl
    | ok name => exact congrArg (Except.map _) (ih _ _)

/-- An element that is examined without a fault is so by whatever recommended attributes, with the
same errors. -/
theorem errors_examineElement_eq {type : String} {unwanted recommended : List String}
    {element : Element} {share : Findings}
    (h : (examineElement type unwanted recommended element).2 = .ok share) (others : List String) :
    ∃ alone, (examineElement type unwanted others element).2 = .ok alone ∧
      alone.errors = share.errors := by
  obtain ⟨alone, halone⟩ :
      ∃ alone, (examineElement type unwanted others element).2 = .ok alone := by
    unfold examineElement at h ⊢
    split at h
    next => cases h
    next used hused =>
      obtain ⟨names, hnames, -⟩ := map_eq_ok h
      rw [snd_examineUsed unwanted recommended others] at hnames
      exact ⟨_, congrArg (Except.map _) hnames⟩
  refine ⟨alone, halone, ?_⟩
  rw [errors_examineElement halone, errors_examineElement h]

theorem warnings_judgeMissed (element : Element) (type : String) (names : List String) :
    (judgeMissed element type names).warnings =
      if names = [] then []
      else [⟨some ("Attribute(s) are recommended to be be used for element type '" ++ type ++
        "'.\nAttributes: " ++ listed names), element.attr? "name"⟩] := by
  cases names <;> rfl

/-- The errors of a run without a fault are those of its elements, in order. -/
theorem errors_examineInTurn {unwanted recommended : List String}
    {calls : List (String × Element)} {shares : List Findings}
    (h : (examineInTurn unwanted recommended calls).map Prod.snd = shares.map .ok) :
    (Findings.join shares).errors =
      calls.flatMap fun call => errorsAgainst unwanted call.2 call.1 := by
  induction calls generalizing recommended shares with
  | nil =>
    obtain rfl := List.map_eq_nil_iff.mp h.symm
    rfl
  | cons call calls ih =>
    rw [examineInTurn, List.map_cons] at h
    obtain ⟨share, rest, rfl, hshare, hrest⟩ := List.map_eq_cons_iff.mp h.symm
    rw [Findings.join_cons, Findings.errors_append, ih hrest.symm, List.flatMap_cons,
      errors_examineElement hshare.symm]

/-- A run of elements that is without a fault, by whatever list of recommended attributes. After
each element, a name stands in the list as often as at first less as often as it was used by then,
and it is the first occurrences that were struck: the list is what `survivors` leaves of it. There
is a warning on an element, and then one, if this list is not empty. The errors are those of the
elements, and each of them has its errors by whatever list of recommended attributes. -/
theorem recommended_struck_in_turn {unwanted recommended : List String}
    {calls : List (String × Element)} {shares : List Findings}
    (h : (examineInTurn unwanted recommended calls).map Prod.snd = shares.map .ok) :
    (Findings.join shares).errors =
      calls.flatMap (fun call => errorsAgainst unwanted call.2 call.1) ∧
    ∀ i type element, calls[i]? = some (type, element) →
      ∃ left share, (examineInTurn unwanted recommended calls)[i]? = some (left, .ok share) ∧
        shares[i]? = some share ∧
        (∀ name, left.count name =
          recommended.count name - (usedBy (calls.take (i + 1))).count name) ∧
        left = survivors recommended (usedBy (calls.take (i + 1))) ∧
        share.warnings = (if left = [] then []
          else [⟨some ("Attribute(s) are recommended to be be used for element type '" ++ type ++
            "'.\nAttributes: " ++ listed left), element.attr? "name"⟩]) ∧
        share.errors = errorsAgainst unwanted element type ∧
        ∀ others, ∃ alone, (examineElement type unwanted others element).2 = .ok alone ∧
          alone.errors = share.errors := by
  have hok : ∀ turn ∈ examineInTurn unwanted recommended calls, ∃ share, turn.2 = .ok share := by
    intro turn hturn
    have hmem := List.mem_map_of_mem (f := Prod.snd) hturn
    rw [h] at hmem
    obtain ⟨share, -, hshare⟩ := List.mem_map.mp hmem
    exact ⟨share, hshare.symm⟩
  refine ⟨errors_examineInTurn h, fun i type element hi => ?_⟩
  have hturn := getElem?_examineInTurn hok hi
  obtain ⟨share, hshare⟩ := hok _ (List.mem_of_getElem? hturn)
  have hshares : shares[i]? = some share := by
    have hboth := congrArg (·[i]?) h
    simp only [List.getElem?_map, hturn, Option.map_some, hshare] at hboth
    obtain ⟨other, hother, hsame⟩ := Option.map_eq_some_iff.mp hboth.symm
    rw [hother, Except.ok.inj hsame]
  obtain ⟨hleft, hwarnings⟩ := examineElement_eq_ok hshare
  rw [← List.diff_append, ← usedBy_take_succ hi] at hleft hwarnings
  refine ⟨_, share, hturn.trans (congrArg some (Prod.ext hleft hshare)), hshares, ?_,
    diff_eq_survivors _ _, ?_, errors_examineElement hshare, errors_examineElement_eq hshare⟩
  · exact fun name => List.count_diff name _ _
  · rw [hwarnings, warnings_judgeMissed]

/-- Three buttons. The first and the second use an attribute that is recommended twice, and the
second is also found by its place. The third uses what is recommended besides. -/
def threeButtons : List (String × Element) :=
  [("AAButton", foundButton "Open" ["MatchIndex"]),
   ("AAButton", foundButton "Type" ["MatchIndex", "X", "MatchIndex"]),
   ("AAButton", foundButton "Send" ["Invisible"])]

/-- What is recommended twice is missed until it was used twice. There is one error, a warning after
the second button, and nothing left to warn about after the third. -/
theorem second_use_is_struck :
    ∃ (shares : List Findings) (second third : Findings),
      (examineInTurn ["X"] ["MatchIndex", "Invisible", "MatchIndex"] threeButtons).map Prod.snd =
        shares.map .ok ∧
      shares[1]? = some second ∧ shares[2]? = some third ∧
      (Findings.join shares).errors.length = 1 ∧
      survivors ["MatchIndex", "Invisible", "MatchIndex"] (usedBy (threeButtons.take 2)) =
        ["Invisible"] ∧
      second.warnings.length = 1 ∧ third.warnings = [] := by
  obtain ⟨shares, hshares⟩ : ∃ shares : List Findings, (examineInTurn ["X"]
      ["MatchIndex", "Invisible", "MatchIndex"] threeButtons).map Prod.snd = shares.map .ok :=
    ⟨[_, _, _], rfl⟩
  obtain ⟨herrors, hturns⟩ := recommended_struck_in_turn hshares
  obtain ⟨left, second, -, hsecond, -, hleft, hwarnings, -⟩ := hturns 1 _ _ rfl
  obtain ⟨left', third, -, hthird, -, hleft', hwarnings', -⟩ := hturns 2 _ _ rfl
  have hstruck : survivors ["MatchIndex", "Invisible", "MatchIndex"]
      (usedBy (threeButtons.take 2)) = ["Invisible"] := by decide +kernel
  have hnone : left' = [] := hleft'.trans (by decide +kernel)
  refine ⟨shares, second, third, hshares, hsecond, hthird, ?_, hstruck, ?_, ?_⟩
  · rw [herrors]
    decide +kernel
  · rw [hwarnings, hleft.trans hstruck]
    rfl
  · rw [hwarnings', if_pos hnone]

end ReleaseReview
