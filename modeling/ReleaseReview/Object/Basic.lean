import ReleaseReview.Markup.Place
import ReleaseReview.Text.Case
import ReleaseReview.Text.Search

/-!
# Business objects

An object is a markup element whose children are its application model, its pages and its stages. A
page is an Action of the object: it has an id and a name, which is the text of the node next to it.
A stage belongs to the page whose id it holds, or to the initial page if it holds none, and leads
on to the stage whose id its `onsuccess` link gives.
-/

namespace ReleaseReview

open Markup Text

/-! ## Pages -/

/-- The name of a page: the text of the node that comes next after its start. -/
def pageName (page : Placed) : Except Fault (Option String) := do
  let next ← need "string" page.next?
  return next.soleText?

/-- The ids and names of an object's pages. -/
abbrev PageIndex := List (Option String × Option String)

namespace PageIndex

/-- The index of an object's own pages, in their order. -/
def of (object : Placed) : Except Fault PageIndex :=
  (object.placedChildren "subsheet").mapM fun page => do
    return (page.attr? "subsheetid", ← pageName page)

/-- The name of the first page with an id. -/
def nameOf (pages : PageIndex) (id : Option String) : Option String :=
  match pages.find? fun page => page.1 == id with
  | some page => page.2
  | none => none

end PageIndex

/-- The names of all pages in an object, however deep, but for the clean-up page. -/
def actionNames (object : Placed) : Except Fault (List (Option String)) := do
  let names ← (object.placedWithin "subsheet").mapM pageName
  return names.filter (· != some "Clean Up")

/-! ## Stages -/

/-- The stages of an object, in their order and their places. -/
def stages (object : Placed) : List Placed :=
  object.placedChildren "stage"

/-- The stages of one type. -/
def stagesOf (object : Placed) (type : String) : List Placed :=
  (stages object).filter fun stage => stage.attr? "type" == some type

/-- The text of a stage's page id, which has to be there. -/
def pageId (stage : Element) : Except Fault (Option String) := do
  let id ← need "string" (stage.within? "subsheetid")
  return id.soleText?

/-- The first stage of the object with an id. -/
def stageWithId? (object : Element) (id : Option String) : Option Element :=
  (object.childrenNamed "stage").find? fun stage => meets id (stage.attr? "stageid")

/-- The stage that a stage leads on to. -/
def successor? (stage object : Element) : Option Element :=
  match stage.within? "onsuccess" with
  | some link => stageWithId? object link.soleText?
  | none => none

/-- The name of the action that a step performs. -/
def stepName (step : Element) : Except Fault (Option String) := do
  let action ← need "id" (step.within? "action")
  let id ← need "string" (action.within? "id")
  return id.soleText?

/-! ## Blacklists -/

/-- Does none of the words stand in the text, whatever the case of either? -/
def notBlacklisted (words : List String) (text : String) : Bool :=
  !words.any fun word => occurs (lower word) (lower text)

/-- The same of a name that may be missing, when it has to be there. -/
def nameNotBlacklisted (words : List String) (name : Option String) : Except Fault Bool := do
  return notBlacklisted words (← need "lower" name)

end ReleaseReview
