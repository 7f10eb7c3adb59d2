import ReleaseReview.Number.Literal
import ReleaseReview.Report.Page
import ReleaseReview.Report.Selection

/-!
# Pages about objects

The page about an object holds an entry for every active consideration and every record of the
configuration with its title. A record can force the result and the scale of the score; otherwise
the object is checked. Nothing is entered for an object whose name the configuration blacklists.
The kind of the object is written into the configuration before its checks.
-/

namespace ReleaseReview

open Markup Text

/-! ## The object -/

/-- What the page about an object starts with. -/
structure Introduction where
  name : String
  actions : List (Option String)
  classified : Classified

/-- The introduction of an object. -/
def introduce (object : Placed) : Except Fault Introduction := do
  let actions ← actionNames object
  let name ← need "lower" (object.attr? "name")
  return ⟨name, actions, ← classify (lower name) object⟩

/-- Where a configuration keeps the kind of the object under review. -/
def kindKey : String := "object type"

/-- The configuration with the kind of the object under review. -/
def withKind (configuration : Json) (kind : Kind) : Json :=
  match configuration with
  | .obj fields => .obj (Json.put (points kindKey) (.text kind.name) fields)
  | other => other

theorem member_withKind_of_ne {key : String} (h : points key ≠ points kindKey)
    (configuration : Json) (kind : Kind) :
    (withKind configuration kind).member key = configuration.member key := by
  cases configuration with
  | obj fields => simp only [withKind, Json.member, Json.find?_put_of_ne h]
  | _ => rfl

/-- The configuration after the page about an object, whether or not the page could be made. -/
def configurationAfter (configuration : Json) (object : Placed) : Json :=
  match introduce object with
  | .ok intro => withKind configuration intro.classified.kind
  | .error _ => configuration

/-- The kind of an object as its page shows it. -/
def Classified.describe (c : Classified) : String :=
  if c.evaluated then c.kind.name ++ " (Evaluated)" else c.kind.name

/-! ## The blacklist -/

/-- Does an item of a blacklist stand in a name? -/
def standsIn (name : String) : Json → Except Fault Bool
  | .str ps => .ok (match plain? ps with
    | some word => occurs word name
    | none => false)
  | other => .error (.notSought other.kind)

/-- Does an item of the blacklist stand in the name, in lower case? -/
def isBlacklisted (blacklist : Json) (name : String) : Except Fault Bool := do
  (← blacklist.parts).anyM (standsIn (lower name))

/-! ## Forced results -/

/-- The points of a text as characters, if they are. -/
def readScale (ps : List Point) : Except Fault Number :=
  match (plain? ps).bind fun s => Number.float? s.toList with
  | some x => .ok (.float x)
  | none => .error (.notFloat (quotedPoints ps))

/-- The scale that a record states. -/
def scaleOf : Json → Except Fault Number
  | .str ps => readScale ps
  | .num n =>
    match n.toFloat? with
    | some x => .ok (.float x)
    | none => .error .integerTooLarge
  | .bool b => .ok (.float (if b then 1 else 0))
  | other => .error (.notNumeric other.kind)

/-- The sheet of a consideration for an object under a record: checked if the record forces
nothing. -/
def sheetUnder (isDate : DateReader) (configuration : Json) (object : Placed) (c : Consideration)
    (record : Json) : Except Fault Sheet := do
  let result ← record.member "Force Result"
  let scale ← record.member "Score Scale"
  if result.isText "" && scale.isText "" then
    c.assess isDate object (.ofJson configuration)
  else c.sheet.evaluateWith (some (← scaleOf scale)) result

/-! ## The page -/

/-- The entries of a consideration: one for each record with its title. -/
def entriesFor (isDate : DateReader) (configuration : Json) (object : Placed) (records : Json)
    (c : Consideration) : Except Fault (List Entry) := do
  let found ← (← records.parts).mapM fun record => do
    if (← record.member objectTitleKey).isText c.title then
      return some (Entry.ofSheet (← sheetUnder isDate configuration object c record))
    return none
  return found.filterMap id

/-- The entries of an object's page. -/
def objectEntries (isDate : DateReader) (configuration : Json) (active : List Consideration)
    (object : Placed) (name : String) : Except Fault (List Entry) := do
  let blacklist ← configuration.member "blacklist"
  let records ← configuration.member objectRecordsKey
  let entries ← active.mapM fun c => do
    if ← isBlacklisted blacklist name then return []
    entriesFor isDate configuration object records c
  return entries.flatten

/-- The page about an object. -/
def objectPage (isDate : DateReader) (configuration : Json) (active : List Consideration)
    (object : Placed) : Except Fault Page := do
  let intro ← introduce object
  let configuration := withKind configuration intro.classified.kind
  let entries ← objectEntries isDate configuration active object intro.name
  return {
    name := some intro.name
    type := .object
    objectType := some intro.classified.describe
    actions := intro.actions
    entries := entries.map Entry.toJson }

end ReleaseReview
