import ReleaseReview.Check.Basic

/-!
# Application models

An object's application model describes the application's screen as a tree of elements under one
root, whose base type is `Application`. The model names the type of the application, and every
element the technology it was spied with, in its base type. An object may inherit its model from
another, and then has none of its own to check.
-/

namespace ReleaseReview

open Markup Text

/-- The object's application model. -/
def model? (object : Element) : Option Element :=
  object.child? "appdef"

/-- Does the object inherit its application model? -/
def inheritsModel (object : Element) : Bool :=
  (object.child? "parentobject").isSome

/-- The elements of a model in document order. -/
def modelElements (model : Element) : List Element :=
  model.allWithin "element"

/-- The types of application that checks know about. -/
def applicationTypes : List String :=
  ["HTML", "Java", "Win32", "Browser", "Mainframe"]

/-- The type of application that a model is for, whether it launches it or attaches to it. -/
def applicationType (model : Element) : Except Fault String := do
  let info ← need "find" (model.child? "apptypeinfo")
  let id ← need "string" (info.child? "id")
  let type ← need "replace" id.soleText?
  return without "Attach" (without "Launch" type)

/-- The base type of an element. -/
def baseType (element : Element) : Except Fault (Option String) := do
  let type ← need "string" (element.child? "basetype")
  return type.soleText?

/-- The base type of a model's root. -/
def rootType : String := "Application"

/-- Base types, in lower case, of elements that are spied in Win32. -/
def win32Types : List String :=
  ["window", "radiobutton", "checkbox", "button", "edit", "listbox", "combobox", "treeview",
   "tabcontrol", "trackbar", "updown", "datetimepicker", "monthcalendarpicker", "scrollbar",
   "label", "toolbar", "datagrid", "listview", "datagridview"]

/-- Is the base type one of those spied in Win32? -/
def isWin32Type (type : String) : Bool :=
  win32Types.contains (lower type)

/-- Goes through the elements of a model, all but the root, with their base types. `judge` is also
told whether the root came before. -/
def judgeElements {ν : Type} (judge : Bool → Element → Option String → Account ν Unit) :
    Bool → List Element → Account ν Unit
  | _, [] => pure ()
  | rootFound, element :: elements => do
    let type ← baseType element
    if !rootFound && type == some rootType then judgeElements judge true elements
    else
      judge rootFound element type
      judgeElements judge rootFound elements

/-- Is an attribute of the element matched against a value that is only known at run time? -/
def isDynamic (element : Element) : Except Fault Bool := do
  let attributes ← need "find" (element.within? "attributes")
  return (attributes.childrenNamed "attribute").any fun a =>
    a.attr? "comparisontype" == some "dynamic"

/-- The attributes in a list of nodes, which must be nothing but elements. -/
def attributesIn (nodes : List Node) : Except Fault (List Element) :=
  nodes.mapM fun node =>
    match node.element? with
    | some element => .ok element
    | none => .error (.noMember node.kind "get")

/-- A base object that ought to have a model has none. -/
def noModel : Findings :=
  .error "Base Object that does not have an App Model nor does it inherit one." (some "")

/-- The findings and the ruling on an application's type: an unknown type is an error, and fails the
check outright. -/
def judgeApplication (type : String) : Outcome :=
  if applicationTypes.contains type then .found .none
  else ⟨.error "Unknown application type" (some type), some .failed⟩

/-- The outcome with more findings after its own. -/
def Outcome.add (o : Outcome) (more : Findings) : Outcome :=
  { o with findings := o.findings ++ more }

/-- A check of an object's own application model: not for a wrapper, nor for a model that is
inherited. -/
def checkModel (check : Element → Except Fault Outcome) : Check := fun object facts => do
  if (← facts.kind) = .wrapper then return .notApplicable
  match model? object with
  | none => return .found noModel
  | some model => if inheritsModel object then return .notApplicable else check model

end ReleaseReview
