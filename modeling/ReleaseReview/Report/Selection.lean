import ReleaseReview.Consideration

/-!
# Selecting considerations

A configuration lists considerations by title and says of each whether it is active. `register`
makes the list of what can be selected, in the order of keys; `selectActive` picks what is active,
in the order of the configuration.
-/

namespace ReleaseReview

/-- Something that can be selected by its title, under a key. -/
structure Registered where
  key : String
  title : String
  deriving DecidableEq, Repr

/-- Sets the title of a key: a later one replaces an earlier one. -/
def setTitle (key : String) (title : Option String) :
    List (String × Option String) → List (String × Option String)
  | [] => [(key, title)]
  | (k, t) :: entries =>
    if k = key then (k, title) :: entries else (k, t) :: setTitle key title entries

/-- Keys of entries that are not considerations. -/
def reservedKeys : List String :=
  ["Consideration", "ReportPageHelper", "Result", "SoupStrainer", "Sub_Soup", "BeautifulSoup",
   "Tag"]

/-- The entries with a title in the order of their keys, but for those with reserved keys. -/
def register (entries : List (String × Option String)) : List Registered :=
  let distinct := entries.foldl (fun found e => setTitle e.1 e.2 found) []
  let sorted := distinct.mergeSort fun a b => !decide (b.1 < a.1)
  sorted.filterMap fun (key, title) =>
    if reservedKeys.contains key then none else title.map (⟨key, ·⟩)

/-- What the active records of a configuration name. A record is active if its `Active` counts as
true, and names the first candidate with the title that it holds under `nameKey`. -/
def selectActive {α : Type} (candidates : List α) (title : α → String) (nameKey : String)
    (records : Json) : Except Fault (List α) := do
  let chosen ← (← records.parts).mapM fun record => do
    if !(← record.member "Active").isTrue then return none
    let name ← record.member nameKey
    return candidates.find? fun c => name.isText (title c)
  return chosen.filterMap id

/-- Where a configuration keeps its records on objects. -/
def objectRecordsKey : String := "active considerations object"

/-- Where a configuration keeps its records on processes. -/
def processRecordsKey : String := "active considerations process"

/-- Under which name a record on objects holds its title. -/
def objectTitleKey : String := "Object Considerations"

/-- Under which name a record on processes holds its title. -/
def processTitleKey : String := "Process Considerations"

/-- The active considerations of a configuration: those on objects, and those of the candidates on
processes. -/
def activeConsiderations (processCandidates : List Registered) (configuration : Json) :
    Except Fault (List Consideration × List Registered) := do
  let objectRecords ← configuration.member objectRecordsKey
  let processRecords ← configuration.member processRecordsKey
  let onObjects ← selectActive Consideration.all Consideration.title objectTitleKey objectRecords
  let onProcesses ←
    selectActive processCandidates Registered.title processTitleKey processRecords
  return (onObjects, onProcesses)

end ReleaseReview
