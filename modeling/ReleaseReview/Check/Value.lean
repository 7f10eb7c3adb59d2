import ReleaseReview.Check.Model
import ReleaseReview.Number.Literal
import ReleaseReview.Text.Blank

/-!
# Values of attributes

An attribute of a screen element is matched against a value. `isUseless` tells the values that say
nothing: single characters, zero and dates. The others may hold data of customers or of an
environment, which is told by the words in them. The attributes of an element are judged in order,
up to the first whose value says nothing.

What is a date is left to a `DateReader`, which everything that looks at values takes as its first
argument.
-/

namespace ReleaseReview

open Markup Text

/-! ## Values -/

/-- A way to tell whether a text is a date. Telling it can be a fault. -/
abbrev DateReader := List Char → Except Fault Bool

/-- Marks that say nothing in a value. -/
def idleMarks : List Char :=
  "()\x7b\x7d<>,./ ".toList

/-- Does the value say nothing: one character at most, zero, or a date? -/
def isUseless (isDate : DateReader) (value : String) : Except Fault Bool :=
  let said := value.toList.filter fun c => !idleMarks.contains c
  if said.length ≤ 1 then .ok true
  else if (Number.float? said).any (· == 0) then .ok true
  else isDate value.toList

/-- Words that go with the data of customers. -/
def customerWords : List String :=
  ["username", "password", "billing", "qty", "quantity", "code", "name", "account"]

/-- May the value hold the data of a customer: one of the words, with at least two characters after
the place where it first stands? -/
def mayBeCustomerData (value : String) : Bool :=
  customerWords.any fun word =>
    match afterFirst? word.toList (lower value).toList with
    | some rest => decide (1 < rest.length)
    | none => false

/-- Words that go with the data of an environment. -/
def environmentWords : List String :=
  ["dev", "test", "uat", "prod", "staging", "sandbox", "env"]

/-- May the value hold the data of an environment? -/
def mayBeEnvironmentData (value : String) : Bool :=
  anyOccurs environmentWords (lower value)

/-! ## Attributes -/

/-- The technologies whose attributes hold values. -/
inductive Technology where
  | windows
  | html
  | activeAccessibility
  | java
  deriving DecidableEq, Repr

/-- What the technology is called. -/
def Technology.name : Technology → String
  | .windows => "Windows"
  | .html => "HTML"
  | .activeAccessibility => "AA"
  | .java => "Java"

/-- The attributes with one of the names that are not fixed: unused, or matched against a value
that is only known at run time. -/
def openAttributes (names : List String) (attributes : List Element) : List Element :=
  attributes.filter fun a =>
    (!a.isSet "inuse" || a.attr? "comparisontype" == some "dynamic") &&
      names.any fun name => a.attr? "name" == some name

/-- The attributes with one of the names that are used to find the element, unless the value is only
known at run time. -/
def fixedAttributes (names : List String) (attributes : List Element) : List Element :=
  attributes.filter fun a =>
    a.isSet "inuse" && a.attr? "comparisontype" != some "dynamic" &&
      a.attr? "comparisontype" != some "d" && names.any fun name => a.attr? "name" == some name

/-- A heading, and the value of an attribute under it. -/
def quoteValue (heading : String) (element : Element) (type : String) (attr : Element)
    (value : String) : String :=
  heading ++ "\nElement: '" ++ shown (element.attr? "name") ++ "'\nBasetype: '" ++ type ++
    "'\nAttribute: '" ++ shown (attr.attr? "name") ++ "'\nValue: '" ++ trim value ++ "'\n"

/-- The value that an attribute holds. -/
def valueOf (attr : Element) : Except Fault String := do
  let holder ← need "get" (attr.child? "processvalue")
  match holder.attr? "value" with
  | some value => .ok value
  | none => .error (.notIterable "NoneType")

/-- Judges the values of attributes in order, up to the first that says nothing. -/
def judgeValues {ν : Type} (isDate : DateReader) (judge : Element → String → ν) :
    List Element → Account ν Unit
  | [] => pure ()
  | attr :: attributes => do
    let value ← valueOf attr
    if ← isUseless isDate value then return
    Account.note (judge attr value)
    judgeValues isDate judge attributes

end ReleaseReview
