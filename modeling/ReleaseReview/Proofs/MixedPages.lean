import Mathlib.Data.List.Nodup
import Mathlib.Tactic.Tauto
import ReleaseReview.Check.Reuse
import ReleaseReview.Proofs.Agreement

/-!
# Pages that mix interactions

A page of an object mixes interactions if it does at least two of reading, writing and navigating
(`Interacts`). The check for reuse gathers such pages in pairs of interactions, and then takes those
with all three out of the pairs, one after another. Each of them stands in every pair until it is
taken out, so this never fails (`foldlM_unpair`), and it leaves each page in the one group that goes
with what the page does (`separate_of`).

`errors_of_checkReuse` says what the check comes to: one error for each page that mixes
interactions, worded by exactly the ones that are mixed there.
-/

namespace ReleaseReview

open Markup

/-! ## Taking pages out of the pairs -/

namespace MixedPages

theorem takeOut_of_mem {ids : List (Option String)} {id : Option String} (h : id ∈ ids) :
    takeOut ids id = .ok (ids.erase id) := by
  rw [takeOut, if_pos (List.contains_iff_mem.mpr h)]

/-- The page stands in each of the pairs. -/
structure InPairs (mixed : MixedPages) (id : Option String) : Prop where
  readWrite : id ∈ mixed.readWrite
  readNavigate : id ∈ mixed.readNavigate
  navigateWrite : id ∈ mixed.navigateWrite

/-- The pairs without these pages. -/
def leaveOut (mixed : MixedPages) (ids : List (Option String)) : MixedPages where
  readWrite := mixed.readWrite.diff ids
  readNavigate := mixed.readNavigate.diff ids
  navigateWrite := mixed.navigateWrite.diff ids
  all := mixed.all

theorem unpair_of_inPairs {mixed : MixedPages} {id : Option String} (h : mixed.InPairs id) :
    mixed.unpair id = .ok (mixed.leaveOut [id]) := by
  simp only [unpair, takeOut_of_mem h.readWrite, takeOut_of_mem h.readNavigate,
    takeOut_of_mem h.navigateWrite, ok_bind, leaveOut, List.diff_cons, List.diff_nil]
  rfl

theorem InPairs.leaveOut {mixed : MixedPages} {id other : Option String} (h : mixed.InPairs id)
    (hne : id ≠ other) : (mixed.leaveOut [other]).InPairs id :=
  ⟨List.mem_diff_of_mem h.readWrite (List.not_mem_cons_of_ne_of_not_mem hne List.not_mem_nil),
    List.mem_diff_of_mem h.readNavigate (List.not_mem_cons_of_ne_of_not_mem hne List.not_mem_nil),
    List.mem_diff_of_mem h.navigateWrite (List.not_mem_cons_of_ne_of_not_mem hne List.not_mem_nil)⟩

/-- Pages that stand in every pair can be taken out one after another, if none comes twice. -/
theorem foldlM_unpair {ids : List (Option String)} (hids : ids.Nodup) {mixed : MixedPages}
    (h : ∀ id ∈ ids, mixed.InPairs id) : ids.foldlM unpair mixed = .ok (mixed.leaveOut ids) := by
  induction ids generalizing mixed with
  | nil => rfl
  | cons id ids ih =>
    rw [List.forall_mem_cons] at h
    obtain ⟨hid, hids⟩ := List.nodup_cons.mp hids
    have hrest : ∀ other ∈ ids, (mixed.leaveOut [id]).InPairs other := by
      intro other hother
      exact (h.2 other hother).leaveOut fun heq => hid (heq ▸ hother)
    rw [List.foldlM_cons, unpair_of_inPairs h.1, ok_bind, ih hids hrest]
    simp only [leaveOut, List.diff_cons, List.diff_nil]

variable (reads writes navigates : List (Option String))

/-- The pages by exactly the interactions that come together on them. -/
def apart : MixedPages where
  readWrite := reads.eraseDups.filter fun id => writes.contains id && !navigates.contains id
  readNavigate := reads.eraseDups.filter fun id => navigates.contains id && !writes.contains id
  navigateWrite := navigates.eraseDups.filter fun id => writes.contains id && !reads.contains id
  all := reads.eraseDups.filter fun id => writes.contains id && navigates.contains id

theorem mem_all_iff (id : Option String) :
    id ∈ (of reads writes navigates).all ↔ id ∈ reads ∧ id ∈ writes ∧ id ∈ navigates := by
  simp [of]

theorem inPairs_of_mem_all {id : Option String} (h : id ∈ (of reads writes navigates).all) :
    (of reads writes navigates).InPairs id := by
  obtain ⟨hread, hwrite, hnavigate⟩ := (mem_all_iff reads writes navigates id).mp h
  constructor <;> simp [of, hread, hwrite, hnavigate]

/-- Of the pages in a pair, those are left that do not have the third interaction. -/
theorem diff_pair {ids second third all : List (Option String)}
    (hall : ∀ id, id ∈ all ↔ id ∈ ids ∧ id ∈ second ∧ id ∈ third) :
    (ids.eraseDups.filter second.contains).diff all =
      ids.eraseDups.filter fun id => second.contains id && !third.contains id := by
  rw [((nodup_eraseDups ids).filter _).sdiff_eq_filter, List.filter_filter]
  refine List.filter_congr fun id hid => ?_
  have hid : id ∈ ids := List.mem_eraseDups.mp hid
  by_cases hsecond : id ∈ second <;> simp [hall, hid, hsecond]

/-- Once those with all three interactions are taken out, the pages are told apart. -/
theorem separate_of :
    (of reads writes navigates).separate = .ok (apart reads writes navigates) := by
  have hall : (of reads writes navigates).all.Nodup := (nodup_eraseDups reads).filter _
  have hmem := mem_all_iff reads writes navigates
  rw [separate, foldlM_unpair hall fun id => inPairs_of_mem_all reads writes navigates]
  simp only [leaveOut, apart, Except.ok.injEq, mk.injEq]
  refine ⟨diff_pair hmem, diff_pair fun id => ?_, diff_pair fun id => ?_, rfl⟩
  · rw [hmem id, and_comm (a := id ∈ writes)]
  · rw [hmem id, and_rotate, and_left_comm]

end MixedPages

/-! ## What the pages do -/

/-- One of the stage's steps comes with attaching to the application. -/
def Attaches (stage : Element) : Prop :=
  ∃ step ∈ stage.childrenNamed "step", ∃ name ∈ attachingSteps, stepName step = .ok (some name)

/-- The object has a stage with this interaction that holds this page id. A stage that attaches to
the application does not count as navigation. -/
def Interacts (object : Placed) (interaction : Interaction) (id : Option String) : Prop :=
  ∃ stage ∈ stagesOf object interaction.stageType,
    (∃ tag, stage.within? "subsheetid" = some tag ∧ tag.soleText? = id) ∧
      (interaction = .navigate → ¬Attaches stage.toElement)

theorem isAttaching_eq_ok {stage : Element} {found : Bool} (h : isAttaching stage = .ok found) :
    found = true ↔ Attaches stage := by
  have hstep : ∀ {step : Element} {attaches : Bool},
      (do return (attachingSteps.map some).contains (← stepName step)) = .ok attaches →
        (attaches = true ↔ ∃ name ∈ attachingSteps, stepName step = .ok (some name)) := by
    intro step attaches hattaches
    obtain ⟨name, hname, hattaches⟩ := bind_eq_ok.mp hattaches
    rw [← pure_eq_ok.mp hattaches, hname]
    simp [eq_comm]
  cases found with
  | true =>
    obtain ⟨step, hmem, hfound⟩ := anyM_eq_ok_true h
    exact iff_of_true rfl ⟨step, hmem, (hstep hfound).mp rfl⟩
  | false =>
    refine iff_of_false Bool.false_ne_true ?_
    rintro ⟨step, hmem, hattaches⟩
    exact Bool.false_ne_true ((hstep (anyM_eq_ok_false h step hmem)).mpr hattaches)

/-- The stage counts for the page whose id it holds, unless it is a navigation that attaches. -/
theorem countedPage?_eq_ok {interaction : Interaction} {stage : Element}
    {page : Option (Option String)} (h : countedPage? interaction stage = .ok page)
    (id : Option String) :
    page = some id ↔ (∃ tag, stage.within? "subsheetid" = some tag ∧ tag.soleText? = id) ∧
      (interaction = .navigate → ¬Attaches stage) := by
  unfold countedPage? at h
  cases htag : stage.within? "subsheetid" with
  | none =>
    rw [htag] at h
    cases h
    simp
  | some tag =>
    simp only [htag] at h
    split at h
    next hnavigate =>
      obtain ⟨attaching, hattaching, h⟩ := bind_eq_ok.mp h
      have hiff := isAttaching_eq_ok hattaching
      cases attaching with
      | true =>
        rw [← pure_eq_ok.mp h]
        simp [hnavigate, hiff.mp rfl]
      | false =>
        have hnot : ¬Attaches stage := fun h => Bool.false_ne_true (hiff.mpr h)
        rw [← pure_eq_ok.mp h]
        simp [hnot]
    next hnavigate =>
      rw [← pure_eq_ok.mp h]
      simp [hnavigate]

/-- The pages that are gathered for an interaction are those that have it. -/
theorem mem_pagesWith_iff {object : Placed} {interaction : Interaction}
    {ids : List (Option String)} (h : pagesWith object interaction = .ok ids)
    (id : Option String) : id ∈ ids ↔ Interacts object interaction id := by
  obtain ⟨found, hfound, h⟩ := bind_eq_ok.mp h
  rw [← pure_eq_ok.mp h, List.mem_filterMap]
  constructor
  · rintro ⟨page, hpage, rfl⟩
    obtain ⟨stage, hstage, hcounted⟩ := exists_of_forall₂ (mapM_eq_ok_iff.mp hfound) _ hpage
    exact ⟨stage, hstage, (countedPage?_eq_ok hcounted id).mp rfl⟩
  · rintro ⟨stage, hstage, hinteracts⟩
    obtain ⟨page, hpage, hcounted⟩ := exists_mem_of_mapM_eq_ok hfound stage hstage
    exact ⟨page, hpage, (countedPage?_eq_ok hcounted id).mpr hinteracts⟩

/-! ## Groups of pages -/

theorem Interaction.forall_iff {P : Interaction → Prop} :
    (∀ i, P i) ↔ P .read ∧ P .write ∧ P .navigate := by
  refine ⟨fun h => ⟨h _, h _, h _⟩, fun h i => ?_⟩
  cases i with
  | read => exact h.1
  | write => exact h.2.1
  | navigate => exact h.2.2

/-- The ways in which a page can mix interactions. -/
inductive Mixture where
  | readWrite
  | readNavigate
  | navigateWrite
  | all
  deriving DecidableEq, Repr

namespace Mixture

/-- The interactions that are mixed. -/
def interactions : Mixture → List Interaction
  | .readWrite => [.read, .write]
  | .readNavigate => [.read, .navigate]
  | .navigateWrite => [.navigate, .write]
  | .all => [.read, .write, .navigate]

/-- The stages with these interactions in words. -/
def words : Mixture → String
  | .readWrite => "both a Read and a Write stage. "
  | .readNavigate => "both a Read and a Navigate stage. "
  | .navigateWrite => "both a Navigate and a Write stage. "
  | .all => "Read, Write and Navigate stages. "

/-- What an error says of a page with this mixture. -/
def message (mixture : Mixture) : String :=
  "Action contains " ++ mixture.words ++
    "\nBase Actions should only have one form of interaction for reusability."

/-- The pages with this mixture. -/
def pages (mixed : MixedPages) : Mixture → List (Option String)
  | .readWrite => mixed.readWrite
  | .readNavigate => mixed.readNavigate
  | .navigateWrite => mixed.navigateWrite
  | .all => mixed.all

/-- All mixtures, in the order in which they are reported. -/
def inOrder : List Mixture :=
  [.readWrite, .readNavigate, .navigateWrite, .all]

/-- A mixture is told by the interactions in it. -/
theorem eq_of_interactions {m n : Mixture} (h : ∀ i, i ∈ m.interactions ↔ i ∈ n.interactions) :
    m = n := by
  have hread := h .read
  have hwrite := h .write
  have hnavigate := h .navigate
  cases m <;> cases n <;> simp [interactions] at hread hwrite hnavigate ⊢

end Mixture

section

variable {reads writes navigates : List (Option String)}

theorem mem_pages_apart_iff {id : Option String} {mixture : Mixture}
    (Has : Interaction → Prop) (hread : id ∈ reads ↔ Has .read) (hwrite : id ∈ writes ↔ Has .write)
    (hnavigate : id ∈ navigates ↔ Has .navigate) :
    id ∈ mixture.pages (.apart reads writes navigates) ↔
      ∀ i, i ∈ mixture.interactions ↔ Has i := by
  rw [Interaction.forall_iff, ← hread, ← hwrite, ← hnavigate]
  cases mixture <;> simp [Mixture.pages, MixedPages.apart, Mixture.interactions] <;> tauto

theorem nodup_pages_apart (mixture : Mixture) :
    (mixture.pages (.apart reads writes navigates)).Nodup := by
  cases mixture <;> exact (nodup_eraseDups _).filter _

end

/-- The pages with each mixture. -/
def MixedPages.listed (mixed : MixedPages) : List (Option String × Mixture) :=
  Mixture.inOrder.flatMap fun mixture => (mixture.pages mixed).map fun id => (id, mixture)

theorem mem_listed_iff {mixed : MixedPages} {id : Option String} {mixture : Mixture} :
    (id, mixture) ∈ mixed.listed ↔ id ∈ mixture.pages mixed := by
  cases mixture <;> simp [MixedPages.listed, Mixture.inOrder]

theorem nodup_listed_apart (reads writes navigates : List (Option String)) :
    (MixedPages.apart reads writes navigates).listed.Nodup := by
  rw [MixedPages.listed, List.nodup_flatMap]
  refine ⟨fun mixture _ => (nodup_pages_apart mixture).map fun a b hab => (Prod.mk.inj hab).1, ?_⟩
  have hdistinct : Mixture.inOrder.Nodup := by decide
  refine hdistinct.imp fun hne page hpage hother => ?_
  obtain ⟨id, -, rfl⟩ := List.mem_map.mp hpage
  obtain ⟨other, -, hpair⟩ := List.mem_map.mp hother
  exact hne (Prod.mk.inj hpair).2.symm

theorem errors_mixedFindings_perm (pages : PageIndex) (mixture : Mixture)
    (ids : List (Option String)) :
    (mixedFindings pages mixture.words ids).errors.Perm
      (ids.map fun id => ⟨some mixture.message, pages.nameOf id⟩) := by
  have hsorted := (List.mergeSort_perm (ids.map pages.nameOf) locationLe).map fun name =>
    (⟨some mixture.message, name⟩ : Finding)
  rwa [List.map_map] at hsorted

/-- The findings are one error for each page with a mixture, but for their order. -/
theorem errors_judgeMixed_perm (pages : PageIndex) (mixed : MixedPages) :
    (judgeMixed pages mixed).errors.Perm
      (mixed.listed.map fun page => ⟨some page.2.message, pages.nameOf page.1⟩) := by
  have hlisted : (mixed.listed.map fun page =>
      (⟨some page.2.message, pages.nameOf page.1⟩ : Finding)) =
      Mixture.inOrder.flatMap fun mixture => (mixture.pages mixed).map fun id =>
        ⟨some mixture.message, pages.nameOf id⟩ := by
    rw [MixedPages.listed, List.map_flatMap]
    simp only [List.map_map, Function.comp_def]
  have hgroup := fun mixture => errors_mixedFindings_perm pages mixture (mixture.pages mixed)
  rw [hlisted, Mixture.inOrder, List.flatMap_cons, List.flatMap_cons, List.flatMap_cons,
    List.flatMap_singleton, ← List.append_assoc, ← List.append_assoc]
  exact (((hgroup .readWrite).append (hgroup .readNavigate)).append (hgroup .navigateWrite)).append
    (hgroup .all)

/-- Interactions are mixed if there are at least two of them. -/
theorem exists_mixture_iff (Has : Interaction → Prop) :
    (∃ mixture : Mixture, ∀ i, i ∈ mixture.interactions ↔ Has i) ↔
      ∃ i j, i ≠ j ∧ Has i ∧ Has j := by
  constructor
  · rintro ⟨mixture, h⟩
    cases mixture with
    | readWrite => exact ⟨.read, .write, nofun, (h _).mp (by decide), (h _).mp (by decide)⟩
    | readNavigate => exact ⟨.read, .navigate, nofun, (h _).mp (by decide), (h _).mp (by decide)⟩
    | navigateWrite => exact ⟨.navigate, .write, nofun, (h _).mp (by decide), (h _).mp (by decide)⟩
    | all => exact ⟨.read, .write, nofun, (h _).mp (by decide), (h _).mp (by decide)⟩
  · rintro ⟨i, j, hne, hi, hj⟩
    have htwo :
        Has .read ∧ Has .write ∨ Has .read ∧ Has .navigate ∨ Has .navigate ∧ Has .write := by
      cases i <;> cases j <;> simp_all
    by_cases hall : Has .read ∧ Has .write ∧ Has .navigate
    · exact ⟨.all, Interaction.forall_iff.mpr (by simpa [Mixture.interactions] using hall)⟩
    · rcases htwo with ⟨hread, hwrite⟩ | ⟨hread, hnavigate⟩ | ⟨hnavigate, hwrite⟩
      · refine ⟨.readWrite, Interaction.forall_iff.mpr ?_⟩
        simpa [Mixture.interactions, hread, hwrite] using hall
      · refine ⟨.readNavigate, Interaction.forall_iff.mpr ?_⟩
        simpa [Mixture.interactions, hread, hnavigate] using hall
      · refine ⟨.navigateWrite, Interaction.forall_iff.mpr ?_⟩
        simpa [Mixture.interactions, hnavigate, hwrite] using hall

/-- The list has exactly the items with a property, each once. -/
structure Enumerates {α : Type} (items : List α) (P : α → Prop) : Prop where
  nodup : items.Nodup
  mem_iff : ∀ a, a ∈ items ↔ P a

/-- The check for reuse on an object that is no wrapper. To take pages out of the pairs never fails.
There are no warnings, and one error for each page that mixes interactions, at the name of the page,
whose words go with exactly the interactions that are mixed. -/
theorem errors_of_checkReuse {object : Placed} {facts : Facts} {kind : Kind}
    (hkind : facts.kind = .ok kind) (hwrapper : kind ≠ .wrapper) :
    (∀ reads writes navigates, ∃ mixed,
      (MixedPages.of reads writes navigates).separate = .ok mixed) ∧
    ∀ outcome, checkReuse object facts = .ok outcome →
      outcome.ruling = none ∧ outcome.findings.warnings = [] ∧
      ∃ (pages : PageIndex) (mixed : List (Option String × Mixture)),
        PageIndex.of object = .ok pages ∧
        Enumerates (mixed.map Prod.fst)
          (fun id => ∃ i j, i ≠ j ∧ Interacts object i id ∧ Interacts object j id) ∧
        (∀ page ∈ mixed, ∀ i, i ∈ page.2.interactions ↔ Interacts object i page.1) ∧
        outcome.findings.errors.Perm (mixed.map fun page =>
          ⟨some page.2.message, pages.nameOf page.1⟩) := by
  refine ⟨fun reads writes navigates => ⟨_, MixedPages.separate_of reads writes navigates⟩, ?_⟩
  intro outcome h
  rw [checkReuse, hkind, ok_bind, if_neg hwrapper] at h
  obtain ⟨pages, hpages, h⟩ := bind_eq_ok.mp h
  obtain ⟨reads, hreads, h⟩ := bind_eq_ok.mp h
  obtain ⟨writes, hwrites, h⟩ := bind_eq_ok.mp h
  obtain ⟨navigates, hnavigates, h⟩ := bind_eq_ok.mp h
  rw [MixedPages.separate_of, ok_bind] at h
  rw [← pure_eq_ok.mp h]
  have hmem : ∀ {id : Option String} {mixture : Mixture},
      (id, mixture) ∈ (MixedPages.apart reads writes navigates).listed ↔
        ∀ i, i ∈ mixture.interactions ↔ Interacts object i id := by
    intro id mixture
    rw [mem_listed_iff]
    exact mem_pages_apart_iff (fun i => Interacts object i id) (mem_pagesWith_iff hreads id)
      (mem_pagesWith_iff hwrites id) (mem_pagesWith_iff hnavigates id)
  refine ⟨rfl, rfl, pages, _, hpages, ⟨?_, fun id => ?_⟩, ?_, errors_judgeMixed_perm pages _⟩
  · refine (nodup_listed_apart reads writes navigates).map_on ?_
    rintro ⟨id, m⟩ hm ⟨_, n⟩ hn rfl
    rw [Mixture.eq_of_interactions fun i => (hmem.mp hm i).trans (hmem.mp hn i).symm]
  · rw [← exists_mixture_iff, List.mem_map]
    constructor
    · rintro ⟨page, hpage, rfl⟩
      exact ⟨page.2, hmem.mp hpage⟩
    · rintro ⟨mixture, hmixture⟩
      exact ⟨(id, mixture), hmem.mpr hmixture, rfl⟩
  · exact fun page hpage => hmem.mp hpage

/-- A stage on a page, with steps of these names. -/
def steppedStage (type page : String) (steps : List String) : Element where
  name := "stage"
  attributes := [("type", type)]
  children := .element "subsheetid" [] [.leaf .text page] :: steps.map fun step =>
    .element "step" [] [.element "action" [] [.element "id" [] [.leaf .text step]]]

/-- An object with pages of these ids and names, and with these stages. -/
def objectWithPages (pages : List (String × String)) (stages : List Element) : Placed :=
  .alone ⟨"process", [("name", "Base A")],
    (pages.map fun page => .element "subsheet" [("subsheetid", page.1)]
      [.element "name" [] [.leaf .text page.2]]) ++ stages.map Element.toNode⟩

/-- A page that reads and writes and only activates the application, and one that does all three. -/
def busyObject : Placed :=
  objectWithPages [("1", "Fill"), ("2", "Work")]
    [steppedStage "Read" "1" [], steppedStage "Navigate" "1" ["Click", "ActivateApp"],
     steppedStage "Write" "1" [], steppedStage "Write" "2" [],
     steppedStage "Navigate" "2" ["Click"], steppedStage "Read" "2" [], steppedStage "Read" "2" []]

/-- The page that does all three is reported for just that. -/
theorem busy_page_is_reported :
    ∃ outcome, checkReuse busyObject ⟨.ok .base, .ok false, .ok false⟩ = .ok outcome ∧
      outcome.findings.warnings = [] ∧
      ⟨some Mixture.all.message, some "Work"⟩ ∈ outcome.findings.errors := by
  obtain ⟨outcome, hcheck⟩ : ∃ outcome,
      checkReuse busyObject ⟨.ok .base, .ok false, .ok false⟩ = .ok outcome := ⟨_, rfl⟩
  obtain ⟨-, hwarnings, pages, mixed, hpages, hmixed, hinteracts, herrors⟩ :=
    (errors_of_checkReuse rfl (by decide)).2 outcome hcheck
  have hread : Interacts busyObject .read (some "2") :=
    ⟨_, List.mem_of_getElem? (i := 1) rfl, ⟨_, rfl, rfl⟩, nofun⟩
  have hwrite : Interacts busyObject .write (some "2") :=
    ⟨_, List.mem_of_getElem? (i := 1) rfl, ⟨_, rfl, rfl⟩, nofun⟩
  have hnavigate : Interacts busyObject .navigate (some "2") := by
    refine ⟨_, List.mem_of_getElem? (i := 1) rfl, ⟨_, rfl, rfl⟩, fun _ => ?_⟩
    rintro ⟨step, hstep, name, hname, hclick⟩
    obtain rfl := List.mem_singleton.mp hstep
    cases hclick
    exact absurd hname (by decide)
  obtain ⟨page, hpage, hid⟩ := List.mem_map.mp
    ((hmixed.mem_iff (some "2")).mpr ⟨.read, .write, nofun, hread, hwrite⟩)
  obtain ⟨_, mixture⟩ := page
  obtain rfl : _ = some "2" := hid
  have hall : mixture = .all := by
    refine Mixture.eq_of_interactions fun i => (hinteracts _ hpage i).trans ?_
    cases i <;> simpa [Mixture.interactions]
  subst hall
  cases hpages
  exact ⟨outcome, hcheck, hwarnings, herrors.mem_iff.mpr (List.mem_map.mpr ⟨_, hpage, rfl⟩)⟩

end ReleaseReview
