import ReleaseReview.Check.Model
import ReleaseReview.Text.Quoted

/-!
# Attributes of each technology

In each technology there are attributes by which an element should not be found, and in some also
attributes by which it should. The recommended attributes are counted down over the whole model: one
that an element uses is no longer missed in those that follow.
-/

namespace ReleaseReview

open Markup Text

/-! ## Attributes in use -/

/-- Attributes that count as used only if they have a value. -/
def isAddress (name : String) : Bool :=
  name == "Link" || name == "pURL"

/-- The name of an attribute in use, if it is one that should not be used. One that is compared in a
way of its own may be used, and so may an address without a value. -/
def misused? (unwanted : List String) (attr : Element) : Except Fault (Option String) :=
  match attr.attr? "name" with
  | none => .ok none
  | some name =>
    if !unwanted.contains name || attr.isSet "comparisontype" then .ok none
    else if isAddress name then
      match attr.children with
      | [] => .error .outOfRange
      | holder :: _ => do
        match ← holder.attr "value" with
        | some value => return if value.isEmpty then none else some name
        | none => return none
    else .ok (some name)

/-- The recommended attributes without one that is used. -/
def strike (recommended : List String) (attr : Element) : List String :=
  match attr.attr? "name" with
  | some name => recommended.erase name
  | none => recommended

/-- The names of attributes in use that should not be, and the recommended attributes that are
left. If there is a fault, those that were struck before it stay struck. -/
def examineUsed (unwanted : List String) :
    List String → List Element → List String × Except Fault (List String)
  | recommended, [] => (recommended, .ok [])
  | recommended, attr :: attributes =>
    match misused? unwanted attr with
    | .error fault => (recommended, .error fault)
    | .ok name =>
      let (left, names) := examineUsed unwanted (strike recommended attr) attributes
      (left, names.map (name.toList ++ ·))

/-- The attributes of an element that are in use. -/
def attributesInUse (element : Element) : Except Fault (List Element) := do
  let attributes ← need "contents" (element.child? "attributes")
  return (← attributesIn attributes.children).filter (·.isSet "inuse")

/-- Names in quotes, with commas between them and without square brackets. -/
def listed (names : List String) : String :=
  without "]" (without "[" (", ".intercalate (names.map quoted)))

/-- Attributes in use that should not be. -/
def judgeMisused (element : Element) (type : String) (names : List String) : Findings :=
  if names.isEmpty then .none
  else
    .error ("Attribute(s) should not be used for element type '" ++ type ++ "'\nAttributes: " ++
      listed names) (element.attr? "name")

/-- Recommended attributes that are missed. -/
def judgeMissed (element : Element) (type : String) (names : List String) : Findings :=
  if names.isEmpty then .none
  else
    .warning ("Attribute(s) are recommended to be be used for element type '" ++ type ++
      "'.\nAttributes: " ++ listed names) (element.attr? "name")

/-- Judges an element by the attributes that should not be used and those recommended; also gives
the recommended attributes that are left. -/
def examineElement (type : String) (unwanted recommended : List String) (element : Element) :
    List String × Except Fault Findings :=
  match attributesInUse element with
  | .error fault => (recommended, .error fault)
  | .ok used =>
    let (left, names) := examineUsed unwanted recommended used
    (left, names.map fun names => judgeMisused element type names ++ judgeMissed element type left)

/-- Judges elements of some base types in turn. Each goes by what those before it left of the
recommended attributes, also if one of them ended in a fault. -/
def examineInTurn (unwanted : List String) :
    List String → List (String × Element) → List (List String × Except Fault Findings)
  | _, [] => []
  | recommended, (type, element) :: others =>
    let examined := examineElement type unwanted recommended element
    examined :: examineInTurn unwanted examined.1 others

/-! ## Technologies -/

/-- The technologies with rules on attributes. -/
inductive SpyMode where
  | windows
  | html
  | activeAccessibility
  | uiAutomation
  | java
  deriving DecidableEq, Repr

namespace SpyMode

/-- The technology that a base type belongs to. -/
def ofType? (type : String) : Option SpyMode :=
  if occurs "Win" type then some .windows
  else if occurs "HTML" type then some .html
  else if occurs "AA" type then some .activeAccessibility
  else if occurs "UIA" type then some .uiAutomation
  else if occurs "Java" type then some .java
  else if isWin32Type type then some .windows
  else none

/-- The attributes by which an element should not be found. -/
def unwanted : SpyMode → List String
  | .windows =>
    ["X", "Y", "Width", "Height", "ScreenBounds", "pCtrlID", "pHeight", "pWidth", "pX", "pY"]
  | .html => ["X", "Y", "Width", "Height", "ScreenBounds", "pURL", "Link"]
  | .activeAccessibility =>
    ["paHeight", "paWidth", "paY", "paX", "ScreenBounds", "aHeight", "aWidth", "aY", "aX",
     "pHeight", "pWidth", "pY", "pX", "pCtrlID", "Height", "Width", "Y", "X", "CtrlID"]
  | .uiAutomation => ["uX", "uY", "uWidth", "uHeight", "uProcessId"]
  | .java => ["X", "Y", "Width", "Height", "ScreenBounds"]

end SpyMode

/-- The recommended attributes that are still missed in a model. -/
structure Missed where
  activeAccessibility : List String
  java : List String

namespace Missed

/-- All recommended attributes. -/
def all : Missed where
  activeAccessibility := ["MatchIndex", "Invisible"]
  java := ["MatchIndex", "AncestorCount", "Showing"]

/-- Those of a technology. -/
def of (missed : Missed) : SpyMode → List String
  | .activeAccessibility => missed.activeAccessibility
  | .java => missed.java
  | _ => []

/-- The missed attributes with other ones for a technology. -/
def set (missed : Missed) (mode : SpyMode) (names : List String) : Missed :=
  match mode with
  | .activeAccessibility => { missed with activeAccessibility := names }
  | .java => { missed with java := names }
  | _ => missed

end Missed

/-- Judges the elements of a model but for its root. SAP elements after the root have too few
attributes to judge. -/
def judgeTechnology : Missed → Bool → List Element → Except Fault Findings
  | _, _, [] => .ok .none
  | missed, rootFound, element :: elements => do
    let type ← baseType element
    if !rootFound && type == some rootType then judgeTechnology missed true elements
    else
      match type with
      | none => .error (.notSearchable "NoneType")
      | some type =>
        if rootFound && occurs "SAP" type then judgeTechnology missed rootFound elements
        else
          match SpyMode.ofType? type with
          | none => judgeTechnology missed rootFound elements
          | some mode => do
            let (left, findings) := examineElement type mode.unwanted (missed.of mode) element
            let findings ← findings
            return findings ++ (← judgeTechnology (missed.set mode left) rootFound elements)

/-! ## Settings of the application -/

/-- Judges a setting of a Java application. -/
def judgeSetting (setting : Node) : Except Fault Findings :=
  match setting.element? with
  | none => .ok .none
  | some setting =>
    if setting.name == "ProcessMode" then
      .ok (.error ("Application Manager mode is not set to External 32/64 bit as " ++
        "recommended when using the JAB.") (some ""))
    else if setting.name == "CommandLineParams" then
      match setting.within? "value" with
      | none => .error (.notSearchable "NoneType")
      | some value =>
        .ok (if value.holdsLeaf "ignorenotshowing" then .none
          else .warning ("Recommend to use 'ignorenotshowing' command line param to ignore" ++
            "hidden elements and so increase search performance.") (some ""))
    else .ok .none

/-- Judges the settings of an application: only those of a Java application matter. -/
def judgeSettings (model : Element) (application : String) : Except Fault Findings := do
  if application ≠ "Java" then return .none
  let info ← need "parameters" (model.child? "apptypeinfo")
  let parameters ← need "contents" (info.within? "parameters")
  review parameters.children judgeSetting

/-- Are the right attributes of each technology in use? -/
def checkTechnology : Check := checkModel fun model => do
  let application ← applicationType model
  let settings ← judgeSettings model application
  let attributes ← judgeTechnology .all false (modelElements model)
  return ((judgeApplication application).add settings).add attributes

end ReleaseReview
