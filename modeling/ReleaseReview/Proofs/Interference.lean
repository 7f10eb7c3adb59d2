import ReleaseReview.Calendar.Recognise
import ReleaseReview.Proofs.Locality
import ReleaseReview.Report.Review

/-!
# Pages that do not interfere

The pages of a report are made one after another, and each page about an object writes the kind of
the object into the configuration, where the pages after it find it. `Rekinded` is what the
configuration is at any time: the original one, perhaps with another kind in it. A page cannot tell
such a configuration from the original (`Rekinded.makePage_eq`), since the page about an object sets
the kind before it looks at it and no other page looks at it at all. So each page of a run is the
one that its subject has under the original configuration (`makePages_eq`).

What follows an object in a release is another matter: it shows in the object's page if the object
is open at its end (`isOpen`). `pages_do_not_interfere` says what a report is made of, and that the
order of objects that are not open decides about nothing but the order of their pages.
-/

namespace ReleaseReview

open Markup Text

variable {isDate : DateReader}

/-! ## Configurations with another kind -/

/-- The document without its members of a name. -/
def Json.without (name : String) : Json → Json
  | .obj fields => .obj (fields.filter fun field => field.1 ≠ points name)
  | other => other

theorem Json.put_put (name : List Point) (v w : Json) (fields : List (List Point × Json)) :
    Json.put name w (Json.put name v fields) = Json.put name w fields := by
  induction fields with
  | nil => simp [put]
  | cons field fields ih =>
    obtain ⟨n, u⟩ := field
    by_cases hn : n = name
    · simp [put, hn]
    · simp [put, hn, ih]

theorem Json.filter_put (name : List Point) (v : Json) (fields : List (List Point × Json)) :
    (Json.put name v fields).filter (fun field => field.1 ≠ name) =
      fields.filter fun field => field.1 ≠ name := by
  induction fields with
  | nil => simp [put]
  | cons field fields ih =>
    obtain ⟨n, u⟩ := field
    by_cases hn : n = name
    · simp [put, hn]
    · simpa [put, hn] using ih

theorem withKind_withKind (configuration : Json) (first second : Kind) :
    withKind (withKind configuration first) second = withKind configuration second := by
  cases configuration <;> simp [withKind, Json.put_put]

/-- A configuration that is the original one, perhaps with another kind of object in it. -/
def Rekinded (original configuration : Json) : Prop :=
  configuration = original ∨ ∃ kind, configuration = withKind original kind

namespace Rekinded

variable {original configuration : Json} (h : Rekinded original configuration)

include h

theorem withKind_eq (kind : Kind) : withKind configuration kind = withKind original kind := by
  rcases h with rfl | ⟨first, rfl⟩
  · rfl
  · exact withKind_withKind original first kind

/-- Nothing but the kind is another than in the original. -/
theorem without_eq : configuration.without kindKey = original.without kindKey := by
  rcases h with rfl | ⟨kind, rfl⟩
  · rfl
  · cases original with
    | obj fields => simp only [withKind, Json.without, Json.filter_put]
    | _ => rfl

theorem settingsPage_eq : settingsPage configuration = settingsPage original := by
  have hmember : configuration.member "settings" = original.member "settings" := by
    rcases h with rfl | ⟨kind, rfl⟩
    · rfl
    · exact member_withKind_of_ne (by decide) original kind
  unfold settingsPage
  rw [hmember]

/-- A page cannot tell the configuration from the original. -/
theorem makePage_eq (active : List Consideration) (subject : Subject) :
    makePage isDate active configuration subject = makePage isDate active original subject := by
  cases subject with
  | object object => simp only [makePage, objectPage, h.withKind_eq]
  | process process => rfl
  | leaf kind => rfl
  | settings => exact h.settingsPage_eq

/-- A page leaves nothing behind but a kind. -/
theorem after (subject : Subject) :
    Rekinded original (configurationAfterPage configuration subject) := by
  cases subject with
  | object object =>
    show Rekinded original (configurationAfter configuration object)
    unfold configurationAfter
    cases introduce object with
    | ok intro => exact Or.inr ⟨_, h.withKind_eq _⟩
    | error fault => exact h
  | _ => exact h

end Rekinded

/-- Each page of a run is the one that its subject has under the original configuration. -/
theorem makePages_eq (active : List Consideration) {original : Json} :
    ∀ (subjects : List Subject) {configuration : Json}, Rekinded original configuration →
      (makePages isDate active configuration subjects).map Prod.fst =
        subjects.map (makePage isDate active original)
  | [], _, _ => rfl
  | subject :: subjects, _, h => by
    rw [makePages, List.map_cons, List.map_cons, makePages_eq active subjects (h.after subject),
      h.makePage_eq]

/-- The configuration after each page of a run is the original one but for the kind. -/
theorem rekinded_of_mem_makePages (active : List Consideration) {original : Json} :
    ∀ (subjects : List Subject) {configuration : Json}, Rekinded original configuration →
      ∀ made ∈ makePages isDate active configuration subjects, Rekinded original made.2
  | [], _, _, made, hmade => by simp [makePages] at hmade
  | subject :: subjects, _, h, made, hmade => by
    rw [makePages, List.mem_cons] at hmade
    rcases hmade with rfl | hmade
    · exact h.after subject
    · exact rekinded_of_mem_makePages active subjects (h.after subject) made hmade

/-! ## Reports -/

/-- A report is the pages about the objects in their order, then those about the processes, then the
settings page. -/
theorem report_eq_ok_iff {release : Release} {pages : List Page} :
    release.report isDate = .ok pages ↔
      ∃ configuration active chosen objectPages processPages settings,
        configurationOf release.header = .ok configuration ∧
        activeConsiderations [] configuration = .ok (active, chosen) ∧
        List.Forall₂
          (fun node page => makePage isDate active configuration (.ofObject node) = .ok page)
          (placed release.objects) objectPages ∧
        List.Forall₂
          (fun node page => makePage isDate active configuration (.ofProcess node) = .ok page)
          (placed release.processes) processPages ∧
        settingsPage configuration = .ok settings ∧
        pages = objectPages ++ processPages ++ [settings] := by
  have hpages : ∀ active configuration,
      ((makePages isDate active configuration (subjectsOf release)).map Prod.fst).mapM id =
        (do
          let objects ← (placed release.objects).mapM fun node =>
            makePage isDate active configuration (.ofObject node)
          let processes ← (placed release.processes).mapM fun node =>
            makePage isDate active configuration (.ofProcess node)
          let settings ← settingsPage configuration
          return objects ++ processes ++ [settings]) := by
    intro active configuration
    rw [makePages_eq active _ (Or.inl rfl)]
    simp [subjectsOf, makePage, Function.comp_def]
  unfold Release.report
  simp only [hpages, bind_eq_ok, mapM_eq_ok_iff, pure_eq_ok]
  constructor
  · rintro ⟨configuration, hc, ⟨active, chosen⟩, ha, objects, ho, processes, hp, settings, hs, rfl⟩
    exact ⟨configuration, active, chosen, objects, processes, settings, hc, ha, ho, hp, hs, rfl⟩
  · rintro ⟨configuration, active, chosen, objects, processes, settings, hc, ha, ho, hp, hs, rfl⟩
    exact ⟨configuration, hc, (active, chosen), ha, objects, ho, processes, hp, settings, hs, rfl⟩

/-- A node of a release's objects, as a document by itself. -/
def Subject.alone : Node → Subject
  | .element name attributes children => .object (.alone ⟨name, attributes, children⟩)
  | .leaf kind _ => .leaf kind

/-- Is the node an object that is open at its end? -/
def isOpenNode (node : Node) : Bool :=
  node.element?.any isOpen

/-- Objects that are not open have the pages that they have by themselves. -/
theorem mapM_placeNodes (active : List Consideration) (configuration : Json)
    (after : Option Node) :
    ∀ nodes : List Node, (∀ node ∈ nodes, isOpenNode node = false) →
      (placeNodes after nodes).mapM
          (fun node => makePage isDate active configuration (.ofObject node)) =
        nodes.mapM fun node => makePage isDate active configuration (.alone node)
  | [], _ => rfl
  | .leaf kind content :: nodes, h => by
    have ih := mapM_placeNodes active configuration after nodes fun node hn =>
      h node (List.mem_cons_of_mem _ hn)
    rw [placeNodes, List.mapM_cons, List.mapM_cons, ih]
    rfl
  | .element name attributes children :: nodes, h => by
    have ih := mapM_placeNodes active configuration after nodes fun node hn =>
      h node (List.mem_cons_of_mem _ hn)
    have hopen : isOpen ⟨name, attributes, children⟩ = false := h _ List.mem_cons_self
    rw [placeNodes, List.mapM_cons, List.mapM_cons, ih]
    simp only [Subject.ofObject, Subject.alone, makePage, Placed.alone]
    rw [(alike_of_not_isOpen hopen (nodes.head?.or after) none).objectPage_eq]

/-- The objects of a release, none of them open, can change places: each keeps its page, and the
other pages stay. -/
theorem report_of_perm {release : Release} {pages : List Page}
    (hopen : ∀ node ∈ release.objects, isOpenNode node = false)
    (h : release.report isDate = .ok pages) :
    ∃ (pageOf : Node → Page) (others : List Page), ∀ objects : List Node,
      objects.Perm release.objects →
        ({ release with objects } : Release).report isDate =
          .ok (objects.map pageOf ++ others) := by
  obtain ⟨configuration, active, chosen, objectPages, processPages, settings, hc, ha, ho, hp, hs,
    -⟩ := report_eq_ok_iff.mp h
  have hpage := exists_of_mapM_eq_ok
    ((mapM_placeNodes active configuration none _ hopen).symm.trans (mapM_eq_ok_iff.mpr ho))
  refine ⟨fun node => (makePage isDate active configuration (.alone node)).toOption.getD settings,
    processPages ++ [settings], fun objects hperm => ?_⟩
  refine report_eq_ok_iff.mpr ⟨configuration, active, chosen, _, processPages, settings, hc, ha, ?_,
    hp, hs, (List.append_assoc _ _ _).symm⟩
  rw [← mapM_eq_ok_iff]
  refine (mapM_placeNodes active configuration none objects fun node hn =>
    hopen node (hperm.mem_iff.mp hn)).trans (mapM_eq_ok_map fun node hn => ?_)
  obtain ⟨page, hpage⟩ := hpage node (hperm.mem_iff.mp hn)
  rw [hpage]
  rfl

/-- A request with a body is answered by the report on the release in it. -/
theorem respond_some {body : String} (hbody : body.isEmpty = false) :
    respond isDate (some body) =
      ((Release.read (Encoding.decoded body)).report isDate).map fun pages =>
        ⟨200, (Json.arr (pages.map Page.toJson)).render⟩ := by
  unfold respond reportText reportOn
  simp only [Option.getD_some, hbody, Bool.false_eq_true, if_false]
  cases (Release.read (Encoding.decoded body)).report isDate <;> rfl

/-- Pages do not interfere. However many pages are made one after another, about whatever subjects
and whether or not they can be made, each is the page that its subject has under the original
configuration, and the configuration stays what it was but for the kind of the object. So an answer
to a request is a report, and a report is the pages about the objects, then those about the
processes, then the settings page. And if no object of a release is open at its end, changing the
order of the objects changes the order of their pages and nothing else. -/
theorem pages_do_not_interfere (isDate : DateReader) :
    (∀ active configuration subjects,
      (makePages isDate active configuration subjects).map Prod.fst =
          subjects.map (makePage isDate active configuration) ∧
        ∀ made ∈ makePages isDate active configuration subjects,
          made.2.without kindKey = configuration.without kindKey) ∧
    (∀ body, body.isEmpty = false →
      respond isDate (some body) =
        ((Release.read (Encoding.decoded body)).report isDate).map fun pages =>
          ⟨200, (Json.arr (pages.map Page.toJson)).render⟩) ∧
    (∀ (release : Release) pages, release.report isDate = .ok pages ↔
      ∃ configuration active chosen objectPages processPages settings,
        configurationOf release.header = .ok configuration ∧
        activeConsiderations [] configuration = .ok (active, chosen) ∧
        List.Forall₂
          (fun node page => makePage isDate active configuration (.ofObject node) = .ok page)
          (placed release.objects) objectPages ∧
        List.Forall₂
          (fun node page => makePage isDate active configuration (.ofProcess node) = .ok page)
          (placed release.processes) processPages ∧
        settingsPage configuration = .ok settings ∧
        pages = objectPages ++ processPages ++ [settings]) ∧
    (∀ (release : Release) pages, (∀ node ∈ release.objects, isOpenNode node = false) →
      release.report isDate = .ok pages →
        ∃ (pageOf : Node → Page) (others : List Page), ∀ objects : List Node,
          objects.Perm release.objects →
            ({ release with objects } : Release).report isDate =
              .ok (objects.map pageOf ++ others)) := by
  refine ⟨fun active configuration subjects => ⟨?_, fun made hmade => ?_⟩,
    fun body hbody => respond_some hbody, fun release pages => report_eq_ok_iff,
    fun release pages hopen h => report_of_perm hopen h⟩
  · exact makePages_eq active subjects (Or.inl rfl)
  · exact (rekinded_of_mem_makePages active subjects (Or.inl rfl) made hmade).without_eq

/-! ## Releases under a plain header -/

/-- An element that holds a text. -/
def textElement (name text : String) : Node :=
  .element name [] [.leaf .text text]

/-- A header with an empty blacklist, no settings and no considerations. -/
def plainHeader : List Node :=
  [.element "header" []
    [textElement "coversheetinformation" "null", textElement "additionalreleaseinformation" "null",
     textElement "blacklist" "[]", textElement "settings" "[]",
     textElement "activeconsiderationsprocess" "[]", textElement "activeconsiderationsobject" "[]"]]

/-- A release of base objects, given by their names and children, under a plain header. -/
def plainRelease (objects : List (String × List Node)) : Release where
  processes := []
  objects := objects.map fun (name, children) =>
    .element "process" [("type", "object"), ("name", name)] children
  queues := []
  header := plainHeader

/-- Two objects with a page each change places, and so do their pages. -/
theorem objects_change_places :
    (respond Calendar.recognise (some "release") =
      ((Release.read (Encoding.decoded "release")).report Calendar.recognise).map fun pages =>
        ⟨200, (Json.arr (pages.map Page.toJson)).render⟩) ∧
    ∃ (pageOf : Node → Page) (others : List Page), ∀ objects : List Node,
      objects.Perm (plainRelease
        [("Base A", [.element "subsheet" [] [textElement "name" "Attach"]]),
         ("Base B", [.element "subsheet" [] [textElement "name" "Detach"]])]).objects →
        ({ plainRelease [] with objects } : Release).report Calendar.recognise =
          .ok (objects.map pageOf ++ others) :=
  ⟨(pages_do_not_interfere Calendar.recognise).2.1 "release" (by decide),
    (pages_do_not_interfere Calendar.recognise).2.2.2 _ _ (by decide) rfl⟩

/-- An object that ends in an empty page takes the name of the page from the object after it, so
the order of the objects after it decides about its page. -/
theorem open_object_shows_next :
    ∃ pages swapped,
      (plainRelease [("Base A", [.element "subsheet" [] []]), ("Base B", [.leaf .text "first"]),
        ("Base C", [.leaf .text "second"])]).report Calendar.recognise = .ok pages ∧
      (plainRelease [("Base A", [.element "subsheet" [] []]), ("Base C", [.leaf .text "second"]),
        ("Base B", [.leaf .text "first"])]).report Calendar.recognise = .ok swapped ∧
      ¬swapped.Perm pages := by
  refine ⟨_, _, rfl, rfl, fun h => ?_⟩
  have hactions := h.map Page.actions
  revert hactions
  decide

end ReleaseReview
