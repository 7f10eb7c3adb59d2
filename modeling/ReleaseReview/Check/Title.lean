import ReleaseReview.Check.Model

/-!
# Titles of elements

An element's title is the type of the element, a hyphen and the element's own name, or the other
way round. Brackets at its end say that the element is dynamic, or with which technology it was
spied if that is not the application's own. `checkTitle` leaves its findings as the notes of an
`Account`, since those made before a fault remain.
-/

namespace ReleaseReview

open Markup Text

/-- Words that stand in a type of element. -/
def elementTypeWords : List String :=
  ["box", "button", "label", "field", "link", "text", "tab", "main", "title", "window", "region",
   "list", "popup", "input", "header", "section", "table", "element", "edit", "toolbar"]

/-- From this length on a type of element may be too long. -/
def longTypeLength : Nat := 16

/-- The parts of a title. -/
def titleParts (title : String) : List String :=
  cut " - " title

/-- Does the type part name a known type of element? -/
def namesElementType (part : String) : Bool :=
  anyOccurs elementTypeWords (lower part)

/-- A text up to the last bracket that opens in it. -/
def beforeBracket (text : String) : String :=
  match lastIndex? '(' text.toList with
  | some i => String.ofList (text.toList.take i)
  | none => text

/-- What stands between the last brackets in a text. -/
def inBrackets? (text : String) : Option String :=
  match lastIndex? '(' text.toList, lastIndex? ')' text.toList with
  | some i, some j => some (String.ofList ((text.toList.take j).drop (i + 1)))
  | _, _ => none

/-- The part of a title at a place, which has to be there. -/
def partAt (parts : List String) (i : Nat) : Except Fault String :=
  match parts[i]? with
  | some part => .ok part
  | none => .error .outOfRange

/-- What is wrong with a title of too many parts, or of one. -/
def judgeHyphens (title : String) : Findings :=
  if 3 ≤ (titleParts title).length then
    .error ("Element name contains multiple hyphens. Use the native tree structure to order " ++
      "the app model") (some title)
  else if (titleParts title).length = 1 then
    if occurs "-" title then
      .error ("Element name contains a hyphen, but it is not properly used for formatting. " ++
        "Ensure there is a space on each side of the hyphen.") (some title)
    else
      .error "Element name does not contain a hyphen to split the name for correct formatting"
        (some title)
  else .none

/-- The title does not say that the element was spied in another technology than the application's.
-/
def unstatedSpyMode (title application type : String) : Findings :=
  .warning ("Object's application type is '" ++ application ++
    "' but element's base type is '" ++ type ++
    "'. Please note the spy mode within brackets at the end of the element's name") (some title)

/-- Is the technology that an element was spied in stated, where it is not the application's own?
`ending` is the second part of the title. -/
def judgeSpyMode (title ending application type : String) : Findings :=
  if occurs application type || (occurs "SAP" type && application == "Win32") then .none
  else
    let spied := if isWin32Type type then "Win32" else type
    let unstated :=
      if occurs application spied then .none else unstatedSpyMode title application spied
    match inBrackets? ending with
    | none => unstated
    | some stated =>
      if lower stated = "dynamic" then unstated
      else if occurs stated spied then .none
      else
        .warning ("Stated spying mode '" ++ stated ++ "' is not the element's spy mode: '" ++
          spied ++ "'") (some title)

/-- A type of element that is long. -/
def judgeTypeLength (type : String) : Findings :=
  if longTypeLength ≤ type.length then .warning "Element type may be excessively long" (some type)
  else .none

/-- A type of element that is not known; brackets after it are left out. -/
def unknownType (title type : String) (typeFirst : Bool) : Findings :=
  .error ("'" ++ (if typeFirst then type else beforeBracket type) ++
    "' not in the element type whitelist") (some title)

/-- A dynamic element should say so in its title. -/
def judgeDynamic (title : String) (dynamic : Bool) : Findings :=
  if dynamic && !occurs "dynamic" (lower title) then
    .warning "Element has a dynamic attribute. Please include 'Dynamic' in the element name"
      (some title)
  else .none

/-- Checks an element's title for an application; tells whether it is of the right form. -/
def checkTitle (application : String) (typeFirst : Bool) (element : Element) :
    Account Findings Bool := do
  let type ← baseType element
  let title ← need "split" (element.attr? "name")
  let parts := titleParts title
  if parts.length = 2 then
    let typePart ← partAt parts (if typeFirst then 0 else 1)
    if namesElementType typePart then
      Account.note (judgeTypeLength typePart)
      match type with
      | none => Account.of (.error (.notSearchable "NoneType"))
      | some type =>
        let ending ← partAt parts 1
        Account.note (judgeSpyMode title ending application type)
        let dynamic ← isDynamic element
        Account.note (judgeDynamic title dynamic)
        return true
    else
      Account.note (unknownType title typePart typeFirst)
      return false
  else
    Account.note (judgeHyphens title)
    return false

/-- The findings on an element's title. -/
def titleFindings (application : String) (element : Element) : Except Fault Findings :=
  gathered (checkTitle application true element)

/-- The findings on the titles of a model's elements. The base types of elements are looked at up to
the root's. -/
def judgeTitles (application : String) : List Element → Except Fault Findings
  | [] => .ok .none
  | element :: elements => do
    if (← baseType element) == some rootType then review elements (titleFindings application)
    else return (← titleFindings application element) ++ (← judgeTitles application elements)

/-- A dynamic region should say so in its name. -/
def judgeRegion (region : Element) : Except Fault Findings := do
  let name := region.attr? "name"
  if !(← isDynamic region) then return .none
  if occurs "dynamic" (← lowered name) then return .none
  return .warning "Region has a dynamic attribute. Please include 'Dynamic' in the element name"
    name

/-- Do the names of the model's elements follow the convention? -/
def checkElementNames : Check := fun object facts => do
  let kind ← facts.kind
  if kind = .wrapper then return .notApplicable
  let model ← need "find_all" (model? object)
  if inheritsModel object then return .notApplicable
  let application ← applicationType model
  let titles ← judgeTitles application (modelElements model)
  let regions ←
    if kind = .surfaceBase then review (model.allWithin "region") judgeRegion else .ok .none
  return ((judgeApplication application).add titles).add regions

end ReleaseReview
