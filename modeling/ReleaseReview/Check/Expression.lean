import ReleaseReview.Check.Basic

/-!
# Expressions of decisions

A decision is harmless if it only looks at a flag. `usesFlag` tells an expression with a truth
value in it or without any comparison, `comparesFlag` one that compares two data items of which the
second is a flag.
-/

namespace ReleaseReview

open Markup Text

/-- Signs of comparison. -/
def comparisonSigns : List String :=
  ["=", "<>", ">", ">=", "<", "<="]

/-- Does the expression hold a truth value, or no comparison? -/
def usesFlag (expression : String) : Bool :=
  occurs "True" expression || occurs "False" expression || !anyOccurs comparisonSigns expression

/-- The expression with every data item emptied: what stands between a bracket and the nearest
bracket that closes on the same line. `skip` characters of an item are still to be passed over. -/
def emptyItems : Nat → List Char → List Char
  | _, [] => []
  | skip + 1, _ :: cs => emptyItems skip cs
  | 0, c :: cs =>
    if c = '[' then
      let inner := cs.takeWhile fun d => d ≠ ']' ∧ d ≠ '\n'
      if cs[inner.length]? = some ']' then '[' :: ']' :: emptyItems (inner.length + 1) cs
      else '[' :: emptyItems 0 cs
    else c :: emptyItems 0 cs

/-- Does the expression compare one data item with another, and nothing else? -/
def comparesItems (expression : String) : Bool :=
  let shape := String.ofList ((emptyItems 0 expression.toList).filter (· != ' '))
  shape == "[]=[]" || shape == "[]<>[]"

/-- The name of the last data item in an expression: what stands between the last brackets. -/
def lastItem (expression : String) : String :=
  let cs := expression.toList
  match lastIndex? ']' cs with
  | none => ""
  | some j =>
    match lastIndex? '[' cs with
    | none => String.ofList (cs.take j)
    | some i => String.ofList ((cs.take j).drop (i + 1))

/-- The first data item of the object with a name. -/
def dataItem? (object : Placed) (name : String) : Option Placed :=
  (stagesOf object "Data").find? fun item => meets (some name) (item.attr? "name")

/-- Does the expression compare a data item with one that is a flag? -/
def comparesFlag (object : Placed) (expression : String) : Except Fault Bool :=
  if comparesItems expression then
    match dataItem? object (lastItem expression) with
    | none => .ok false
    | some item => do
      let datatype ← need "string" (item.within? "datatype")
      return datatype.soleText? == some "flag"
  else .ok false

/-- Does the expression, which has to be there, only look at flags? -/
def looksAtFlags (object : Placed) (expression : Option String) : Except Fault Bool :=
  match expression with
  | none => .error (.notSearchable "NoneType")
  | some expression => if usesFlag expression then .ok true else comparesFlag object expression

end ReleaseReview
