import ReleaseReview.Check.Basic

/-!
# Focus

Some steps work on whatever window is in front: clicks, keys and images. A page with such a step
should bring the application to the front first, by activating it; setting the focus is only second
best.
-/

namespace ReleaseReview

open Markup Text

/-- Names of navigation steps that work on the window in front. -/
def globalNavigateSteps : List String :=
  ["UIAMouseClick", "UIAClickCentre", "UIASendKeys", "AAMouseClick", "AAClickCentre", "AASendKeys",
   "TypeTextAlt", "TypeText", "MouseDoubleClick", "MouseDoubleClickCentre", "MouseClick",
   "MouseClickCentre", "RegionMouseClick", "RegionMouseClickCentre", "SendKeyEvents", "SendKeys"]

/-- Names of reading steps that work on the window in front. -/
def globalReadSteps : List String :=
  ["ReadBitmap", "GetText", "ReadTextOCR", "ReadChars"]

/-- What a step means for the focus. -/
inductive FocusRole where
  | activates
  | focuses
  | navigates
  | reads
  | neutral
  deriving DecidableEq, Repr

/-- Does one of the words stand in a step's name, which has to be there? -/
def stepHas (words : List String) (name : Option String) : Except Fault Bool :=
  match name with
  | none => .error (.notSearchable "NoneType")
  | some name => .ok (anyOccurs words name)

/-- What a navigation step means for the focus. -/
def navigateRole (name : Option String) : Except Fault FocusRole := do
  if name = some "ActivateApp" then return .activates
  if ← stepHas globalNavigateSteps name then return .navigates
  return if name = some "AAFocus" then .focuses else .neutral

/-- What a reading step means for the focus. -/
def readRole (name : Option String) : Except Fault FocusRole := do
  return if ← stepHas globalReadSteps name then .reads else .neutral

/-- The roles of a stage's steps, each with the id of the stage's page; neutral steps are left out.
-/
def stageRoles (role : Option String → Except Fault FocusRole) (stage : Element) :
    Except Fault (List (FocusRole × Option String)) := do
  let roles ← (stage.childrenNamed "step").mapM fun step => do
    match ← role (← stepName step) with
    | .neutral => return none
    | found => return some (found, ← pageId stage)
  return roles.filterMap id

/-- The ids of pages with a role, each once. -/
def pagesIn (roles : List (FocusRole × Option String)) (role : FocusRole) : List (Option String) :=
  ((roles.filter fun found => found.1 = role).map Prod.snd).eraseDups

/-- One error for each page. -/
def errorEach (pages : PageIndex) (message : String) (ids : List (Option String)) : Findings :=
  ⟨ids.map fun id => ⟨some message, pages.nameOf id⟩, []⟩

/-- One warning for each page. -/
def warnEach (pages : PageIndex) (message : String) (ids : List (Option String)) : Findings :=
  ⟨[], ids.map fun id => ⟨some message, pages.nameOf id⟩⟩

/-- The findings on the pages by the roles of their steps. -/
def judgeFocus (pages : PageIndex) (roles : List (FocusRole × Option String)) : Findings :=
  let activated := pagesIn roles .activates
  let unactivated := fun (ids : List (Option String)) => ids.filter fun id => !activated.contains id
  let navigated := unactivated (pagesIn roles .navigates)
  let focused := unactivated (pagesIn roles .focuses)
  warnEach pages "Global click or send key with a 'FocusAA' but no 'Activate Application' stage"
      (focused.filter navigated.contains) ++
    errorEach pages "Global click or send key in Action without an 'Activate Application' stage"
      (navigated.filter fun id => !focused.contains id) ++
    errorEach pages "Global Read stage within Action without an 'Activate Application' stage"
      (unactivated (pagesIn roles .reads))

/-- Does a step of some role work on the window in front? -/
def isGlobal (role : FocusRole) : Bool :=
  role = .navigates ∨ role = .reads

/-- Is the application brought to the front where it has to be? -/
def checkFocus : Check := fun object _ => do
  let pages ← PageIndex.of object
  let navigations ← (stagesOf object "Navigate").mapM fun (stage : Placed) =>
    stageRoles navigateRole stage
  let reads ← (stagesOf object "Read").mapM fun (stage : Placed) => stageRoles readRole stage
  let roles := navigations.flatten ++ reads.flatten
  return ⟨judgeFocus pages roles,
    if roles.any (fun found => isGlobal found.1) then none else some .notApplicable⟩

end ReleaseReview
