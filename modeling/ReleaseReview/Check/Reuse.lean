import ReleaseReview.Check.Basic

/-!
# Actions that can be reused

An Action of a base object should only read, only write or only navigate. `MixedPages` holds the
pages that do at least two of these. A page that does all three first stands among the pairs as
well, and is taken out of them (`MixedPages.separate`). `judgeMixed` finds the pages in four groups
by what they do; the findings of a group are in the order of the pages' names.
-/

namespace ReleaseReview

open Markup

/-- What a stage does to the application. -/
inductive Interaction where
  | read
  | write
  | navigate
  deriving DecidableEq, Repr

/-- The type of the stages with an interaction. -/
def Interaction.stageType : Interaction → String
  | .read => "Read"
  | .write => "Write"
  | .navigate => "Navigate"

/-- Steps that come with attaching to an application, and do not count as navigation. -/
def attachingSteps : List String :=
  ["DetachApplication", "ActivateApp", "AttachApplication"]

/-- Does the navigation only come with attaching to the application? Its steps are looked at in
order up to the first that does. -/
def isAttaching (stage : Element) : Except Fault Bool :=
  (stage.childrenNamed "step").anyM fun step => do
    return (attachingSteps.map some).contains (← stepName step)

/-- The id of the page that a stage counts for, unless it is on the initial page or does not count.
-/
def countedPage? (interaction : Interaction) (stage : Element) :
    Except Fault (Option (Option String)) :=
  match stage.within? "subsheetid" with
  | none => .ok none
  | some id => do
    if interaction = .navigate then
      if ← isAttaching stage then return none
    return some id.soleText?

/-- The ids of the pages with an interaction, as often as it is there. -/
def pagesWith (object : Placed) (interaction : Interaction) :
    Except Fault (List (Option String)) := do
  let ids ← (stagesOf object interaction.stageType).mapM fun (stage : Placed) =>
    countedPage? interaction stage
  return ids.filterMap id

/-- The order of locations: none first, then by their characters. -/
def locationLe : Option String → Option String → Bool
  | none, _ => true
  | some _, none => false
  | some a, some b => !decide (b < a)

/-- One error for each of the pages, in the order of their names. -/
def mixedFindings (pages : PageIndex) (what : String) (ids : List (Option String)) : Findings :=
  ⟨((ids.map pages.nameOf).mergeSort locationLe).map fun name =>
    ⟨some ("Action contains " ++ what ++
      "\nBase Actions should only have one form of interaction for reusability."), name⟩, []⟩

/-- The ids of the pages on which two interactions come together, and of those with all three. -/
structure MixedPages where
  readWrite : List (Option String)
  readNavigate : List (Option String)
  navigateWrite : List (Option String)
  all : List (Option String)

namespace MixedPages

/-- The pages that stand in two of the lists, and those that stand in all three, each once. -/
def of (reads writes navigates : List (Option String)) : MixedPages where
  readWrite := reads.eraseDups.filter writes.contains
  readNavigate := reads.eraseDups.filter navigates.contains
  navigateWrite := navigates.eraseDups.filter writes.contains
  all := reads.eraseDups.filter fun id => writes.contains id && navigates.contains id

/-- The ids without one of them, which has to be there. -/
def takeOut (ids : List (Option String)) (id : Option String) :
    Except Fault (List (Option String)) :=
  if ids.contains id then .ok (ids.erase id) else .error (.noKey (shown id))

/-- Takes a page out of the pairs. -/
def unpair (mixed : MixedPages) (id : Option String) : Except Fault MixedPages := do
  let readWrite ← takeOut mixed.readWrite id
  let readNavigate ← takeOut mixed.readNavigate id
  let navigateWrite ← takeOut mixed.navigateWrite id
  return { mixed with readWrite, readNavigate, navigateWrite }

/-- Takes the pages with all three interactions out of the pairs. -/
def separate (mixed : MixedPages) : Except Fault MixedPages :=
  mixed.all.foldlM unpair mixed

end MixedPages

/-- The findings for the pages that mix interactions. -/
def judgeMixed (pages : PageIndex) (mixed : MixedPages) : Findings :=
  mixedFindings pages "both a Read and a Write stage. " mixed.readWrite ++
    mixedFindings pages "both a Read and a Navigate stage. " mixed.readNavigate ++
    mixedFindings pages "both a Navigate and a Write stage. " mixed.navigateWrite ++
    mixedFindings pages "Read, Write and Navigate stages. " mixed.all

/-- Can the Actions be reused? Those of a wrapper are not counted. -/
def checkReuse : Check := fun object facts => do
  if (← facts.kind) = .wrapper then return ⟨.none, some .uncounted⟩
  let pages ← PageIndex.of object
  let reads ← pagesWith object .read
  let writes ← pagesWith object .write
  let navigates ← pagesWith object .navigate
  let mixed ← (MixedPages.of reads writes navigates).separate
  return .found (judgeMixed pages mixed)

end ReleaseReview
