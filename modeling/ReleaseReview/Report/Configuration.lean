import ReleaseReview.Markup.Node
import ReleaseReview.Report.Selection
import ReleaseReview.Text.Blank

/-!
# Configurations

The header of a release holds JSON texts, which together make the configuration of its review. The
titles in the records of considerations are trimmed, so that blanks around them do not matter.
-/

namespace ReleaseReview

open Markup Text

/-- The document in the header's first element with a name. -/
def headerDocument (header : List Node) (name : String) : Except Fault Json := do
  let holder ← need "string" (Node.firstWithin? header name)
  match holder.soleText? with
  | none => .error (.notDocument "NoneType")
  | some text =>
    match Json.read text with
    | .ok document => .ok document
    | .error e => .error (.ofReadError e)

/-- A text without the blanks at its two ends. -/
def trimPoints (ps : List Point) : List Point :=
  trimBoth (fun p => p.char?.any isBlank) ps

/-- A record with its title trimmed. -/
def trimRecord (nameKey : String) (record : Json) : Except Fault Json := do
  match ← record.member nameKey, record with
  | .str title, .obj fields =>
    return .obj (Json.put (points nameKey) (.str (trimPoints title)) fields)
  | other, _ => .error (.noMember other.kind "strip")

/-- The records of a document with their titles trimmed. A document without parts stays as it is. -/
def trimRecords (nameKey : String) (records : Json) : Except Fault Json := do
  let trimmed ← (← records.parts).mapM (trimRecord nameKey)
  match records with
  | .arr _ => return .arr trimmed
  | other => return other

/-- The configuration that a header gives. -/
def configurationOf (header : List Node) : Except Fault Json := do
  let coversheet ← headerDocument header "coversheetinformation"
  let project ← headerDocument header "additionalreleaseinformation"
  let blacklist ← headerDocument header "blacklist"
  let settings ← headerDocument header "settings"
  let onProcesses ←
    trimRecords processTitleKey (← headerDocument header "activeconsiderationsprocess")
  let onObjects ← trimRecords objectTitleKey (← headerDocument header "activeconsiderationsobject")
  return .object
    [("coversheet info", coversheet), ("additional info", project), ("blacklist", blacklist),
     ("settings", settings), (processRecordsKey, onProcesses), (objectRecordsKey, onObjects)]

end ReleaseReview
