import ReleaseReview.Object.Basic

/-!
# Kinds of object

A base object works an application through its own model of it, a surface-automation base object
does so by looking at the screen, and a wrapper only calls others. `classify` takes the kind from
the object's name where the name tells, and otherwise evaluates the object's contents.
-/

namespace ReleaseReview

open Markup Text

/-- The kinds of object; `other` is for a kind that a configuration states in a word of its own. -/
inductive Kind where
  | base
  | surfaceBase
  | wrapper
  | other
  deriving DecidableEq, Repr

namespace Kind

/-- What the kind is called. -/
def name : Kind → String
  | .base => "Base Object"
  | .surfaceBase => "Surface Automation Base Object"
  | .wrapper => "Wrapper Object"
  | .other => ""

/-- The kind that a document names. -/
def ofJson (value : Json) : Kind :=
  if value.isText Kind.base.name then .base
  else if value.isText Kind.surfaceBase.name then .surfaceBase
  else if value.isText Kind.wrapper.name then .wrapper
  else .other

end Kind

/-- A kind, and whether it was evaluated from the object's contents. -/
structure Classified where
  kind : Kind
  evaluated : Bool
  deriving DecidableEq, Repr

/-- The steps of the object's stages that read from the application. -/
def readSteps (object : Placed) : List Element :=
  (stagesOf object "Read").flatMap fun stage => stage.childrenNamed "step"

/-- Does the object read an image off the screen? The steps are looked at in order up to the first
that does. -/
def readsImage (object : Placed) : Except Fault Bool :=
  (readSteps object).anyM fun step => do return (← stepName step) == some "ReadBitmap"

/-- How many Action stages to a page suggest a wrapper. -/
def actionsPerWrapperPage : Nat := 3

/-- The kind of an object with an application model: a wrapper if the model has no elements below
its first or if there are many Action stages to a page. -/
def classifyModelled (object : Placed) (model : Element) : Except Fault Classified := do
  let first ← need "find" (model.within? "element")
  if (first.within? "element").isNone then return ⟨.wrapper, true⟩
  let pages := object.childrenNamed "subsheet"
  let actions := stagesOf object "Action"
  if pages.length * actionsPerWrapperPage ≤ actions.length then return ⟨.wrapper, true⟩
  return ⟨.base, true⟩

/-- The kind of an object by its name and contents. -/
def classify (name : String) (object : Placed) : Except Fault Classified :=
  if occurs "base" name then do
    return ⟨if ← readsImage object then .surfaceBase else .base, false⟩
  else if occurs "wrapper" name then .ok ⟨.wrapper, false⟩
  else do
    let model ← need "apptypeinfo" (object.child? "appdef")
    if (model.within? "apptypeinfo").isSome then classifyModelled object model
    else if (object.child? "parentobject").isSome then return ⟨.base, false⟩
    else return ⟨if ← readsImage object then .surfaceBase else .wrapper, true⟩

end ReleaseReview
