import ReleaseReview.Check.Basic
import ReleaseReview.Number.Literal
import ReleaseReview.Text.Quoted

/-!
# Images to look for

An image that is looked for on the screen should be small. The value of an image starts with its
width and its height, each before a comma.
-/

namespace ReleaseReview

open Markup Text

/-- A wider or higher image is too large. -/
def maxImageSide : Nat := 250

/-- A wider or higher image may be too large. -/
def largeImageSide : Nat := 180

/-- The width and the height at the start of an image's value, as they are written. -/
def imageSides (value : String) : String × String :=
  let cs := value.toList
  let width := cs.takeWhile (· != ',')
  let rest := cs.drop (width.length + 1)
  (String.ofList width, String.ofList (rest.takeWhile (· != ',')))

/-- The most characters of a text that a message quotes. -/
def maxQuoted : Nat := 200

/-- The integer that a text writes. The number of its digits is looked at before what follows them.
-/
def readInteger (text : String) : Except Fault Int :=
  let digits := Number.leadingDigitCount text.toList
  if Number.digitLimit < digits then .error (.tooManyDigits digits)
  else
    match Number.int? text.toList with
    | some n => .ok n
    | none => .error (.notInteger (String.ofList ((quoted text).toList.take maxQuoted)))

/-- Is one of an image's sides longer than `limit`? The height is only looked at if the width is
not. -/
def exceeds (sides : String × String) (limit : Nat) : Except Fault Bool := do
  if (limit : Int) < (← readInteger sides.1) then return true
  return decide ((limit : Int) < (← readInteger sides.2))

/-- An image that is larger than a limit. -/
def largeImage (object : Placed) (item : Element) (sides : String × String) (limit : Nat)
    (what : String) : Except Fault Findings := do
  let page ← pageOf object item
  return .error ("Data Item '" ++ shown (item.attr? "name") ++ "' " ++ what ++ " " ++
    counted limit ++ " x " ++ counted limit ++ " (" ++ sides.2 ++ " x " ++ sides.1 ++ ")") page

/-- What an image gives rise to. -/
def judgeImage (object : Placed) (item : Element) (sides : String × String) :
    Except Fault Findings := do
  let tooLarge ← if ← exceeds sides maxImageSide then
      largeImage object item sides maxImageSide "larger than recommended"
    else pure .none
  let large ← if ← exceeds sides largeImageSide then
      largeImage object item sides largeImageSide "size above warning threshold"
    else pure .none
  return tooLarge ++ large

/-- What a data item gives rise to; nothing if it is no image or has no value. -/
def judgeItem (object : Placed) (item : Element) : Except Fault (Option Findings) := do
  let datatype ← need "string" (item.within? "datatype")
  if datatype.soleText? ≠ some "image" then return none
  let initial ← need "string" (item.within? "initialvalue")
  let value := initial.soleText?.getD ""
  if value.isEmpty then return none
  return some (← judgeImage object item (imageSides value))

/-- Are the images small? -/
def checkImages : Check := fun object _ => do
  let findings ← (stagesOf object "Data").mapM fun (item : Placed) => judgeItem object item
  let images := findings.filterMap id
  return ⟨.join images, if images.isEmpty then some .notApplicable else none⟩

end ReleaseReview
