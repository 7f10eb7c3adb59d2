import ReleaseReview.Check.Model

/-!
# The shape of the application model

A model should be broken down by screens: below its root at least two levels deep, and not too
large.
-/

namespace ReleaseReview

open Markup

/-- From this many elements on a model is too large. -/
def maxModelSize : Nat := 250

/-- From this many elements on a model may be too large. -/
def largeModelSize : Nat := 130

/-- Below this many elements a model may be flat. -/
def smallModelSize : Nat := 10

/-- Is the element a part of the model's tree? -/
def isTreePart (element : Element) : Bool :=
  element.name == "element" || element.name == "group"

/-- Is there a second level below one of the root's children? -/
def hasTwoLevels (root : Element) : Bool :=
  root.childElements.any fun child => isTreePart child && child.descendants.any isTreePart

/-- What a model's size gives rise to. -/
def judgeSize (size : Nat) : Findings :=
  if maxModelSize ≤ size then
    .error ("Object has over " ++ counted maxModelSize ++ " spied elements (" ++ counted size ++
      "). This indicates the Object is too large.") (some "")
  else if largeModelSize ≤ size then
    .warning ("Object has over " ++ counted largeModelSize ++ " spied elements (" ++ counted size ++
      "). Check if Object is adequately granular") (some "")
  else .none

/-- What a flat model of a size gives rise to. -/
def judgeFlatness (size : Nat) : Findings :=
  if size < smallModelSize then
    .warning ("Flat App Model tree found, but tree contains less than " ++ counted smallModelSize ++
      " elements (" ++ counted size ++ ")") (some "")
  else
    .error "Application Model tree has less than two child descendants (not organised by page)"
      (some "")

/-- The model of a base object: its size, and its shape unless it is inherited. -/
def judgeBaseModel (object model : Element) : Except Fault Findings := do
  let size := (modelElements model).length
  if inheritsModel object then return judgeSize size
  let root ← need "contents" (model.within? "element")
  return judgeSize size ++ if hasTwoLevels root then .none else judgeFlatness size

/-- The model of a surface-automation base object has regions, unless it is inherited. -/
def judgeSurfaceModel (object model : Element) : Findings :=
  if inheritsModel object || (model.within? "region-container").isSome then .none
  else .error "Surface Automation base Object doesn't have any region elements" (some "")

/-- Is the application model broken down by screens? -/
def checkTreeShape : Check := fun object facts => do
  match ← facts.kind, model? object with
  | .base, some model => return .found (← judgeBaseModel object model)
  | .base, none =>
    return .found (.error "Base Object that does not have an App Model nor inherit one." (some ""))
  | .surfaceBase, some model => return .found (judgeSurfaceModel object model)
  | .surfaceBase, none => return .found .none
  | _, _ => return .notApplicable

end ReleaseReview
