import ReleaseReview.Proofs.Rulings

/-!
# Entries share their sheet's lists

An entry on a page keeps the grade that its sheet had when it was made. Its findings it does not
keep: it shows the very lists that the sheet goes on with, until the sheet starts on new ones.

A `Store` says so literally. It holds all lists that were ever started, and a sheet or an entry has
the numbers of two of them. A desk has no store: it adds to the findings of the entries that still
follow their sheet. `Store.Started.run` says that the two come to the same for every run. The
invariant is `Store.Started`: the lists of the sheet are the last two of the store, and those of an
entry are the two of some start up to then.

`entries_share_lists` says what the entries are: as many as were made, and each of them with the
findings of its moment and those that were added until the next start. `ShowsSheet` is how this
stands on the page.
-/

namespace ReleaseReview

/-! ## Lists in a store -/

/-- The numbers of the two lists of a sheet or an entry. -/
structure Lists where
  errors : Nat
  warnings : Nat
  deriving DecidableEq

namespace Lists

/-- The lists of the `n`-th start. -/
def nth (n : Nat) : Lists := ⟨2 * n, 2 * n + 1⟩

/-- What the lists hold. -/
def read (lists : Lists) (contents : List (List Finding)) : Findings :=
  ⟨contents[lists.errors]?.getD [], contents[lists.warnings]?.getD []⟩

/-- The lists of a store after findings were added to two of them. -/
def extend (lists : Lists) (contents : List (List Finding)) (more : Findings) :
    List (List Finding) :=
  (contents.modify lists.errors (· ++ more.errors)).modify lists.warnings (· ++ more.warnings)

variable {contents : List (List Finding)} {k n : Nat}

theorem nth_inj : nth k = nth n ↔ k = n := by
  simp only [nth, Lists.mk.injEq]
  omega

@[simp] theorem length_extend (lists : Lists) (contents : List (List Finding)) (more : Findings) :
    (lists.extend contents more).length = contents.length := by
  rw [extend, List.length_modify, List.length_modify]

theorem getD_modify_self {i : Nat} (hi : i < contents.length) (more : List Finding) :
    (contents.modify i (· ++ more))[i]?.getD [] = contents[i]?.getD [] ++ more := by
  rw [List.getElem?_modify_eq, List.getElem?_eq_getElem hi]
  rfl

/-- The lists of a start hold more once findings were added to them. -/
theorem read_extend_self (hn : 2 * n + 1 < contents.length) (more : Findings) :
    (nth n).read ((nth n).extend contents more) = (nth n).read contents ++ more := by
  have hne : 2 * n ≠ 2 * n + 1 := by omega
  have hlength : 2 * n + 1 < (contents.modify (2 * n) (· ++ more.errors)).length := by
    rwa [List.length_modify]
  simp only [read, extend, nth]
  rw [getD_modify_self hlength, List.getElem?_modify_ne _ _ hne.symm, getD_modify_self (by omega),
    List.getElem?_modify_ne _ _ hne]
  rfl

/-- The lists of any other start hold what they held. -/
theorem read_extend_of_ne (hne : k ≠ n) (contents : List (List Finding)) (more : Findings) :
    (nth k).read ((nth n).extend contents more) = (nth k).read contents := by
  simp only [read, extend, nth]
  rw [List.getElem?_modify_ne _ _ (by omega), List.getElem?_modify_ne _ _ (by omega),
    List.getElem?_modify_ne _ _ (by omega), List.getElem?_modify_ne _ _ (by omega)]

theorem read_append (hk : 2 * k + 1 < contents.length) (others : List (List Finding)) :
    (nth k).read (contents ++ others) = (nth k).read contents := by
  simp only [read, nth]
  rw [List.getElem?_append_left hk, List.getElem?_append_left (by omega)]

/-- New lists are empty. -/
theorem read_new (hlength : contents.length = 2 * n) :
    (nth n).read (contents ++ [[], []]) = .none := by
  simp only [read, nth]
  rw [List.getElem?_append_right (by omega), List.getElem?_append_right (by omega), hlength]
  simp [Findings.none]

end Lists

/-- An entry that copied the grade of its sheet, and of its findings the numbers of the lists. -/
structure SharedEntry where
  title : String
  lists : Lists
  score : Number
  maxScore : Number
  verdict : Verdict

namespace SharedEntry

/-- The entry as it shows, with what its lists hold. -/
def shown (e : SharedEntry) (contents : List (List Finding)) : Entry :=
  ⟨e.title, e.lists.read contents, e.score, e.maxScore, e.verdict⟩

/-- The entry on a desk: it follows the sheet as long as both have the same lists. -/
def live (e : SharedEntry) (contents : List (List Finding)) (lists : Lists) : LiveEntry :=
  ⟨e.shown contents, e.lists = lists⟩

variable {e : SharedEntry} {contents : List (List Finding)} {k n : Nat}

theorem live_extend (he : e.lists = .nth k) (hn : 2 * n + 1 < contents.length) (more : Findings) :
    e.live ((Lists.nth n).extend contents more) (.nth n) = (e.live contents (.nth n)).add more := by
  simp only [live, shown, LiveEntry.add, he, Lists.nth_inj]
  by_cases hkn : k = n
  · subst hkn
    simp [Lists.read_extend_self hn]
  · simp [Lists.read_extend_of_ne hkn, hkn]

theorem live_append (he : e.lists = .nth k) (hk : k ≤ n) (hlength : contents.length = 2 * n + 2)
    (others : List (List Finding)) :
    e.live (contents ++ others) (.nth (n + 1)) =
      { e.live contents (.nth n) with follows := false } := by
  have hne : k ≠ n + 1 := by omega
  have hroom : 2 * k + 1 < contents.length := by omega
  simp [live, shown, he, Lists.read_append hroom, Lists.nth_inj, hne]

end SharedEntry

/-! ## A store -/

/-- A sheet and the entries made from it, and all lists that were ever started. -/
structure Store where
  contents : List (List Finding)
  rubric : Rubric
  grade : Grade
  lists : Lists
  entries : List SharedEntry

namespace Store

/-- A new sheet on two new lists. -/
def new (r : Rubric) : Store :=
  ⟨[[], []], r, .full r.maxScore, .nth 0, []⟩

/-- The sheet with what its lists hold. -/
def sheet (s : Store) : Sheet :=
  ⟨s.rubric, s.grade, s.lists.read s.contents⟩

/-- The entries as they show. -/
def shown (s : Store) : List Entry :=
  s.entries.map (·.shown s.contents)

/-- The store after a step, if the step succeeds. -/
def attempt (s : Store) : Step → Except Fault Store
  | .add findings => .ok { s with contents := s.lists.extend s.contents findings }
  | .clear =>
    .ok { s with
      contents := s.contents ++ [[], []]
      lists := ⟨s.contents.length, s.contents.length + 1⟩ }
  | .rule ruling => .ok { s with grade := s.grade.rule ruling }
  | .evaluate => do return { s with grade := (← s.sheet.evaluate).grade }
  | .evaluateWith scale verdict => do
    return { s with grade := (← s.sheet.evaluateWith scale verdict).grade }
  | .enter =>
    .ok { s with entries := s.entries ++
      [⟨s.rubric.title, s.lists, s.grade.score, s.grade.maxScore, s.grade.verdict⟩] }

/-- The store after a step; a step that fails changes nothing. -/
def step (s : Store) (a : Step) : Store :=
  match s.attempt a with
  | .ok after => after
  | .error _ => s

/-- The store after steps. -/
def run (s : Store) (steps : List Step) : Store :=
  steps.foldl step s

/-- The desk that goes with a store. -/
def desk (s : Store) : Desk :=
  ⟨s.sheet, s.entries.map (·.live s.contents s.lists)⟩

/-- Lists were started `n` times since the first. -/
structure Started (s : Store) (n : Nat) : Prop where
  length_eq : s.contents.length = 2 * n + 2
  lists_eq : s.lists = .nth n
  entries_le : ∀ e ∈ s.entries, ∃ k ≤ n, e.lists = .nth k

theorem started_new (r : Rubric) : (new r).Started 0 :=
  ⟨rfl, rfl, nofun⟩

/-! ## A store and its desk -/

namespace Started

variable {s : Store} {n : Nat} (h : s.Started n)

include h

/-- The entries with the lists of the sheet follow it when findings are added, and no others. -/
theorem add (more : Findings) :
    (s.step (.add more)).Started n ∧ (s.step (.add more)).desk = s.desk.step (.add more) := by
  have hroom : 2 * n + 1 < s.contents.length := by
    rw [h.length_eq]
    omega
  have hlists : (s.step (.add more)).lists = .nth n := h.lists_eq
  have hcontents : (s.step (.add more)).contents = (Lists.nth n).extend s.contents more := by
    rw [← h.lists_eq]
    rfl
  refine ⟨⟨?_, hlists, h.entries_le⟩, congrArg₂ Desk.mk ?_ ?_⟩
  · rw [hcontents, Lists.length_extend, h.length_eq]
  · refine congrArg (Sheet.mk s.rubric s.grade) ?_
    rw [hlists, hcontents, Lists.read_extend_self hroom, ← h.lists_eq]
    rfl
  · -- an entry of an earlier start has other lists, and these are not extended
    refine Eq.trans (List.map_congr_left fun e he => ?_) List.map_map.symm
    obtain ⟨k, -, hk⟩ := h.entries_le e he
    rw [hlists, hcontents, SharedEntry.live_extend hk hroom, ← h.lists_eq]
    rfl

/-- A start leaves all lists as they are, and no entry has the new ones. -/
theorem clear : (s.step .clear).Started (n + 1) ∧ (s.step .clear).desk = s.desk.step .clear := by
  have hnew : (s.step .clear).lists = .nth (n + 1) := by
    change (⟨s.contents.length, s.contents.length + 1⟩ : Lists) = _
    rw [h.length_eq]
    rfl
  refine ⟨⟨?_, hnew, fun e he => ?_⟩, congrArg₂ Desk.mk ?_ ?_⟩
  · exact List.length_append.trans (congrArg (· + 2) h.length_eq)
  · obtain ⟨k, hk, hlists⟩ := h.entries_le e he
    exact ⟨k, Nat.le_succ_of_le hk, hlists⟩
  · refine congrArg (Sheet.mk s.rubric s.grade) ?_
    rw [hnew]
    exact Lists.read_new h.length_eq
  · refine Eq.trans (List.map_congr_left fun e he => ?_) List.map_map.symm
    obtain ⟨k, hk, hlists⟩ := h.entries_le e he
    rw [hnew, h.lists_eq]
    exact SharedEntry.live_append hlists hk h.length_eq _

/-- A new entry has the lists of the sheet, and so it follows it. -/
theorem enter : (s.step .enter).Started n ∧ (s.step .enter).desk = s.desk.step .enter := by
  refine ⟨⟨h.length_eq, h.lists_eq, ?_⟩, congrArg (Desk.mk s.sheet) ?_⟩
  · refine List.forall_mem_append.mpr ⟨h.entries_le, List.forall_mem_singleton.mpr ?_⟩
    exact ⟨n, Nat.le_refl n, h.lists_eq⟩
  · refine List.map_append.trans (congrArg _ ?_)
    refine congrArg (fun follows => [LiveEntry.mk (.ofSheet s.sheet) follows]) ?_
    exact decide_eq_true rfl

/-- What only sets the grade comes to the same for the store and its desk. -/
theorem regrade {x : Except Fault Sheet} {a : Step}
    (hsheet : Yields (fun sheet => sheet = { s.sheet with grade := sheet.grade }) x)
    (hstore : s.attempt a = do return { s with grade := (← x).grade })
    (hdesk : s.desk.attempt a = do return { s.desk with sheet := ← x }) :
    (s.step a).Started n ∧ (s.step a).desk = s.desk.step a := by
  unfold Store.step Desk.step
  rw [hstore, hdesk]
  cases x with
  | error fault => exact ⟨h, rfl⟩
  | ok sheet =>
    refine ⟨⟨h.length_eq, h.lists_eq, h.entries_le⟩, ?_⟩
    exact congrArg (Desk.mk · _) (hsheet sheet rfl).symm

/-- A step comes to the same for the store and its desk. -/
theorem step (a : Step) : ∃ m, (s.step a).Started m ∧ (s.step a).desk = s.desk.step a := by
  cases a with
  | add more => exact ⟨n, h.add more⟩
  | clear => exact ⟨n + 1, h.clear⟩
  | enter => exact ⟨n, h.enter⟩
  | rule ruling => exact ⟨n, ⟨h.length_eq, h.lists_eq, h.entries_le⟩, rfl⟩
  | evaluate => exact ⟨n, h.regrade (.after fun _ => .pure rfl) rfl rfl⟩
  | evaluateWith scale verdict => exact ⟨n, h.regrade (.after fun _ => .pure rfl) rfl rfl⟩

/-- A run comes to the same for the store and its desk. -/
theorem run (steps : List Step) : (s.run steps).desk = s.desk.run steps := by
  induction steps generalizing s n with
  | nil => rfl
  | cons a steps ih =>
    obtain ⟨m, hm, hdesk⟩ := h.step a
    rw [Desk.run_cons, ← hdesk]
    exact ih hm

end Started

end Store

/-! ## Steps that matter to an entry -/

namespace Step

/-- The findings that a step adds. -/
def added : Step → Findings
  | .add findings => findings
  | _ => .none

/-- Does the step start on new lists? -/
def isClear : Step → Bool
  | .clear => true
  | _ => false

/-- Does the step enter the sheet on the page? -/
def isEnter : Step → Bool
  | .enter => true
  | _ => false

theorem added_of_isClear {s : Step} (h : s.isClear = true) : s.added = .none := by
  cases s with
  | clear => rfl
  | _ => cases h

end Step

/-- The findings that steps add before they start on new lists. -/
def addedUntilClear (steps : List Step) : Findings :=
  .join ((steps.takeWhile (!·.isClear)).map Step.added)

theorem addedUntilClear_cons (s : Step) (steps : List Step) :
    addedUntilClear (s :: steps) =
      if s.isClear then .none else s.added ++ addedUntilClear steps := by
  unfold addedUntilClear
  rw [List.takeWhile_cons]
  cases s.isClear <;> rfl

theorem addedUntilClear_singleton (s : Step) : addedUntilClear [s] = s.added := by
  cases s with
  | add more => exact Findings.append_none more
  | _ => rfl

namespace LiveEntry

/-- The entry after steps on its sheet. -/
def after (e : LiveEntry) (steps : List Step) : LiveEntry :=
  if e.follows then
    ⟨{ e.entry with findings := e.entry.findings ++ addedUntilClear steps },
      !steps.any Step.isClear⟩
  else e

theorem after_of_follows (entry : Entry) (steps : List Step) :
    (mk entry true).after steps =
      ⟨{ entry with findings := entry.findings ++ addedUntilClear steps },
        !steps.any Step.isClear⟩ :=
  rfl

theorem after_nil (e : LiveEntry) : e.after [] = e := by
  obtain ⟨entry, follows⟩ := e
  cases follows with
  | false => rfl
  | true =>
    have hnone : addedUntilClear [] = .none := rfl
    rw [after_of_follows, hnone, Findings.append_none]
    rfl

theorem after_singleton (e : LiveEntry) (s : Step) :
    e.after [s] =
      if e.follows then ⟨{ e.entry with findings := e.entry.findings ++ s.added }, !s.isClear⟩
      else e := by
  rw [after, addedUntilClear_singleton, List.any_cons, List.any_nil, Bool.or_false]

theorem after_cons (e : LiveEntry) (s : Step) (steps : List Step) :
    e.after (s :: steps) = (e.after [s]).after steps := by
  obtain ⟨entry, follows⟩ := e
  cases follows with
  | false => rfl
  | true =>
    rw [after_of_follows, after_singleton, addedUntilClear_cons, List.any_cons]
    cases hclear : s.isClear with
    | true => simp [after, Step.added_of_isClear hclear]
    | false => simp [after, Findings.append_assoc]

theorem after_add (e : LiveEntry) (more : Findings) : e.after [.add more] = e.add more := by
  obtain ⟨entry, follows⟩ := e
  rw [after_singleton]
  cases follows <;> rfl

theorem after_clear (e : LiveEntry) : e.after [.clear] = { e with follows := false } := by
  obtain ⟨entry, follows⟩ := e
  rw [after_singleton, Step.added_of_isClear rfl, Findings.append_none]
  cases follows <;> rfl

/-- A step that neither adds findings nor starts on new lists does nothing to an entry. -/
theorem after_of_idle (e : LiveEntry) {s : Step} (hclear : s.isClear = false)
    (hadded : s.added = .none) : e.after [s] = e := by
  obtain ⟨entry, follows⟩ := e
  rw [after_singleton, hclear, hadded, Findings.append_none]
  cases follows <;> rfl

end LiveEntry

namespace Desk

variable (d : Desk)

/-- A step that only grades leaves the entries as they are. -/
theorem entries_step_of_grading {x : Except Fault Sheet} {s : Step}
    (h : d.attempt s = do return { d with sheet := ← x }) : (d.step s).entries = d.entries := by
  refine d.step_of_attempt (P := fun after => after.entries = d.entries) rfl ?_
  rw [h]
  exact .after fun _ => .pure rfl

/-- A step does to the entries what it does to each of them, and may enter the sheet. -/
theorem entries_step (s : Step) :
    (d.step s).entries = d.entries.map (·.after [s]) ++
      if s.isEnter then [⟨.ofSheet d.sheet, true⟩] else [] := by
  have hidle (hclear : s.isClear = false) (hadded : s.added = .none) :
      d.entries.map (·.after [s]) = d.entries :=
    (List.map_congr_left fun e _ => e.after_of_idle hclear hadded).trans (List.map_id _)
  cases s with
  | add more =>
    simp only [LiveEntry.after_add]
    exact (List.append_nil _).symm
  | clear =>
    simp only [LiveEntry.after_clear]
    exact (List.append_nil _).symm
  | enter =>
    rw [hidle rfl rfl]
    rfl
  | rule ruling =>
    rw [hidle rfl rfl]
    exact (List.append_nil _).symm
  | evaluate =>
    rw [hidle rfl rfl, d.entries_step_of_grading rfl]
    exact (List.append_nil _).symm
  | evaluateWith scale verdict =>
    rw [hidle rfl rfl, d.entries_step_of_grading rfl]
    exact (List.append_nil _).symm

/-- A run does to the entries what it does to each of them, and there are as many new ones as the
sheet was entered. -/
theorem entries_run (steps : List Step) :
    ∃ new, (d.run steps).entries = d.entries.map (·.after steps) ++ new ∧
      new.length = steps.countP Step.isEnter := by
  induction steps generalizing d with
  | nil =>
    refine ⟨[], ?_, rfl⟩
    simp [LiveEntry.after_nil]
  | cons s steps ih =>
    -- what this step enters goes through the others just as the entries that were there
    obtain ⟨new, hrun, hnew⟩ := ih (d.step s)
    rw [entries_step, List.map_append, List.map_map, List.append_assoc] at hrun
    refine ⟨_, hrun.trans (congrArg (· ++ _) ?_), ?_⟩
    · exact List.map_congr_left fun e _ => (e.after_cons s steps).symm
    · rw [List.length_append, hnew, List.countP_cons]
      cases s.isEnter <;> simp [Nat.add_comm]

theorem length_entries_run (steps : List Step) :
    (d.run steps).entries.length = d.entries.length + steps.countP Step.isEnter := by
  obtain ⟨new, hrun, hnew⟩ := d.entries_run steps
  rw [hrun, List.length_append, List.length_map, hnew]

/-- What was entered after some steps stands after the entries made by then, and went through the
steps that came after. -/
theorem getElem?_entries_run (before after : List Step) :
    (d.run (before ++ .enter :: after)).entries[(d.run before).entries.length]? =
      some ((LiveEntry.mk (.ofSheet (d.run before).sheet) true).after after) := by
  obtain ⟨new, hrun, -⟩ := ((d.run before).step .enter).entries_run after
  have henter : ((d.run before).step .enter).entries =
      (d.run before).entries ++ [⟨.ofSheet (d.run before).sheet, true⟩] := rfl
  rw [run_append, run_cons, hrun, henter, List.map_append, List.append_assoc,
    List.getElem?_append_right (by simp)]
  simp

/-- No step changes the rubric. -/
theorem rubric_step (s : Step) : (d.step s).sheet.rubric = d.sheet.rubric := by
  refine d.step_of_attempt (P := fun after => after.sheet.rubric = d.sheet.rubric) rfl ?_
  cases s with
  | evaluate => exact .bind (.after fun _ => .pure rfl) fun _ h => .pure h
  | evaluateWith scale verdict => exact .bind (.after fun _ => .pure rfl) fun _ h => .pure h
  | _ => exact .ok rfl

theorem rubric_run (steps : List Step) : (d.run steps).sheet.rubric = d.sheet.rubric := by
  induction steps generalizing d with
  | nil => rfl
  | cons s steps ih => rw [run_cons, ih, rubric_step]

end Desk

/-! ## Entries over a run -/

/-- The entries that are made in steps on a new sheet. -/
def entriesAfter (r : Rubric) (steps : List Step) : List Entry :=
  ((Desk.new r).run steps).entries.map (·.entry)

theorem entriesAfter_eq_shown (r : Rubric) (steps : List Step) :
    entriesAfter r steps = ((Store.new r).run steps).shown := by
  have hdesk : (Desk.new r).run steps = ((Store.new r).run steps).desk :=
    ((Store.started_new r).run steps).symm
  rw [entriesAfter, hdesk, Store.desk, List.map_map]
  rfl

/-- What stands in a report for a sheet with this title, grade and findings. An error shows by its
name and its location, and so does a warning. -/
structure ShowsSheet (shown : Json) (title : String) (grade : Grade)
    (errors warnings : List Finding) : Prop where
  title_eq : shown.member "Consideration Name" = .ok (.text title)
  score_eq : shown.member "Score" = .ok (.num grade.score)
  maxScore_eq : shown.member "Max Score" = .ok (.num grade.maxScore)
  result_eq : shown.member "Result" = .ok grade.verdict.toJson
  errors_eq : shown.member "Errors" = .ok (.arr (errors.map fun error =>
    .object [("Error Name", .text? error.name), ("Error Location", .text? error.location)]))
  warnings_eq : shown.member "Warnings" = .ok (.arr (warnings.map fun warning =>
    .object [("Warning Name", .text? warning.name), ("Warning Location", .text? warning.location)]))

/-- An entry shows its grade, be that forced or not, and its findings. -/
theorem showsSheet_toJson (entry : Entry) (forced : Bool) :
    ShowsSheet entry.toJson entry.title ⟨entry.score, entry.maxScore, entry.verdict, forced⟩
      entry.findings.errors entry.findings.warnings where
  title_eq := rfl
  score_eq := rfl
  maxScore_eq := rfl
  result_eq := rfl
  errors_eq := rfl
  warnings_eq := rfl

/-- The page after steps on a new sheet, by whatever rubric. It has an entry for each time the sheet
was entered, in order. The entry keeps the score, the full score and the verdict of that moment. Its
errors are those of the sheet at that moment, and then those that were added to the sheet up to the
next start on new lists, and so are its warnings. All this is what the page shows of the entry. It
comes of sharing the lists: it is what shows in a store of them. -/
theorem entries_share_lists (r : Rubric) (page : Page) (steps : List Step) :
    (((Desk.new r).run steps).fill page).toJson.member "Report Considerations" =
      .ok (.arr ((entriesAfter r steps).map Entry.toJson)) ∧
    entriesAfter r steps = ((Store.new r).run steps).shown ∧
    (entriesAfter r steps).length = steps.countP Step.isEnter ∧
    ∀ before after, steps = before ++ .enter :: after →
      ∃ entry, (entriesAfter r steps)[before.countP Step.isEnter]? = some entry ∧
        entry.title = r.title ∧
        entry.score = (sheetAfter r before).grade.score ∧
        entry.maxScore = (sheetAfter r before).grade.maxScore ∧
        entry.verdict = (sheetAfter r before).grade.verdict ∧
        entry.findings.errors = (sheetAfter r before).findings.errors ++
          (after.takeWhile (!·.isClear)).flatMap (·.added.errors) ∧
        entry.findings.warnings = (sheetAfter r before).findings.warnings ++
          (after.takeWhile (!·.isClear)).flatMap (·.added.warnings) ∧
        ShowsSheet entry.toJson r.title (sheetAfter r before).grade
          ((sheetAfter r before).findings.errors ++
            (after.takeWhile (!·.isClear)).flatMap (·.added.errors))
          ((sheetAfter r before).findings.warnings ++
            (after.takeWhile (!·.isClear)).flatMap (·.added.warnings)) := by
  refine ⟨?_, entriesAfter_eq_shown r steps, ?_, ?_⟩
  · rw [entriesAfter, List.map_map]
    rfl
  · rw [entriesAfter, List.length_map, Desk.length_entries_run]
    exact Nat.zero_add _
  · rintro before after rfl
    have hcount : ((Desk.new r).run before).entries.length = before.countP Step.isEnter := by
      rw [Desk.length_entries_run]
      exact Nat.zero_add _
    have hentry := (Desk.new r).getElem?_entries_run before after
    rw [hcount, LiveEntry.after_of_follows] at hentry
    have htitle : (sheetAfter r before).rubric.title = r.title :=
      congrArg Rubric.title ((Desk.new r).rubric_run before)
    have herrors : ((sheetAfter r before).findings ++ addedUntilClear after).errors =
        (sheetAfter r before).findings.errors ++
          (after.takeWhile (!·.isClear)).flatMap (·.added.errors) := by
      rw [Findings.errors_append, addedUntilClear, Findings.errors_join, List.flatMap_map]
    have hwarnings : ((sheetAfter r before).findings ++ addedUntilClear after).warnings =
        (sheetAfter r before).findings.warnings ++
          (after.takeWhile (!·.isClear)).flatMap (·.added.warnings) := by
      rw [Findings.warnings_append, addedUntilClear, Findings.warnings_join, List.flatMap_map]
    refine ⟨{ Entry.ofSheet (sheetAfter r before) with
      findings := (sheetAfter r before).findings ++ addedUntilClear after }, ?_, htitle, rfl, rfl,
      rfl, herrors, hwarnings, ?_⟩
    · rw [entriesAfter, List.getElem?_map, hentry]
      rfl
    · rw [← htitle, ← herrors, ← hwarnings]
      exact showsSheet_toJson _ (sheetAfter r before).grade.forced

/-- An error is found and entered, two more are found and graded, and after a new start a warning is
entered with the grade. -/
def enteredTwice : List Step :=
  [.add (.error "Exception handling" "Open"), .enter,
   .add (.error "Exception handling" "Type"), .add (.error "Exception handling" "Send"), .evaluate,
   .clear, .add (.warning "Exception handling" "Close"), .enter]

/-- An error of a wrong handling at a location, as a report shows it. -/
def handlingError (location : String) : Json :=
  .object [("Error Name", .text "Exception handling"), ("Error Location", .text location)]

/-- The first entry shows the errors that were found after it was made, but keeps its Yes and its
full score. The second has the grade that they led to, but does not show them. -/
theorem entry_outgrows_its_grade :
    ∃ first second, (entriesAfter Consideration.recover.rubric enteredTwice).length = 2 ∧
      (entriesAfter Consideration.recover.rubric enteredTwice)[0]? = some first ∧
      (entriesAfter Consideration.recover.rubric enteredTwice)[1]? = some second ∧
      first.findings.errors.map (·.location) = [some "Open", some "Type", some "Send"] ∧
      first.verdict = .yes ∧
      second.findings.errors = [] ∧ second.findings.warnings.map (·.location) = [some "Close"] ∧
      second.verdict = .no ∧
      first.toJson.member "Score" = .ok (.num 10) ∧
      first.toJson.member "Max Score" = .ok (.num 10) ∧
      first.toJson.member "Result" = .ok (.text "Yes") ∧
      first.toJson.member "Errors" =
        .ok (.arr [handlingError "Open", handlingError "Type", handlingError "Send"]) ∧
      first.toJson.member "Warnings" = .ok (.arr []) ∧
      second.toJson.member "Score" = .ok (.num 0) ∧
      second.toJson.member "Max Score" = .ok (.num 10) ∧
      second.toJson.member "Result" = .ok (.text "No") ∧
      second.toJson.member "Errors" = .ok (.arr []) ∧
      second.toJson.member "Warnings" =
        .ok (.arr [.object [("Warning Name", .text "Exception handling"),
          ("Warning Location", .text "Close")]]) := by
  obtain ⟨-, -, hlength, hentries⟩ := entries_share_lists Consideration.recover.rubric
    ⟨none, .object, none, [], []⟩ enteredTwice
  obtain ⟨first, hfirst, -, -, -, hverdict, herrors, -, hshows⟩ :=
    hentries (enteredTwice.take 1) _ rfl
  obtain ⟨second, hsecond, -, -, -, hverdict', herrors', hwarnings, hshows'⟩ :=
    hentries (enteredTwice.take 7) _ rfl
  refine ⟨first, second, hlength, hfirst, hsecond, ?_, hverdict, herrors', ?_, hverdict',
    hshows.score_eq, hshows.maxScore_eq, hshows.result_eq, hshows.errors_eq, hshows.warnings_eq,
    hshows'.score_eq, hshows'.maxScore_eq, hshows'.result_eq, hshows'.errors_eq,
    hshows'.warnings_eq⟩
  · rw [herrors]
    rfl
  · rw [hwarnings]
    rfl

end ReleaseReview
