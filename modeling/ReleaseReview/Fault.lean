import ReleaseReview.Json.Reader
import ReleaseReview.Number.Decimal
import ReleaseReview.Text.Quoted

/-!
# Faults

A review stops at the first thing it needs and does not find, or finds in another shape than it
needs. A `Fault` says what that was, and `Fault.message` words it. The word for what was found
there is that of the data: `"NoneType"` for nothing at all, the kind of node for a piece of markup,
and the kind of document for a piece of configuration.
-/

namespace ReleaseReview

/-- Why a review stopped. -/
inductive Fault where
  /-- What was found, if anything, has no such member. -/
  | noMember (found member : String)
  /-- A text was looked for inside something that holds none. -/
  | notSearchable (found : String)
  /-- Something that is no text was looked for inside a text. -/
  | notSought (found : String)
  /-- What was found has no parts to go through. -/
  | notIterable (found : String)
  /-- What was found has no named parts. -/
  | notKeyed (found : String)
  /-- A text was asked for a named part. -/
  | keyIntoText
  /-- A list was asked for a named part. -/
  | keyIntoList
  /-- A named part is missing. -/
  | noKey (name : String)
  /-- What was found has no length. -/
  | noLength (found : String)
  /-- What was found cannot be joined to a text. -/
  | notJoined (found : String)
  /-- A list has no such place. -/
  | outOfRange
  /-- A text writes no floating-point number; the text is given in quotes. -/
  | notFloat (quoted : String)
  /-- What was found is neither a number nor a text that could write one. -/
  | notNumeric (found : String)
  /-- A text writes no integer; the text is given in quotes. -/
  | notInteger (quoted : String)
  /-- An integer is too large for a floating-point number. -/
  | integerTooLarge
  /-- An integer has more digits than are converted. -/
  | tooManyDigits (digits : Nat)
  /-- A part of a date does not fit a signed word of 32 bits. -/
  | exceedsInt
  /-- A part of a date does not fit a signed word of 64 bits. -/
  | exceedsLong
  /-- A number of a time is too long for its fraction to be told. -/
  | fractionLost
  /-- The days of a distance from universal time do not fit a signed word of 32 bits. -/
  | daysExceedInt
  /-- A distance from universal time has more days than one can have. -/
  | tooManyDays (days : Int)
  /-- A document has to be read from a text. -/
  | notDocument (found : String)
  /-- A text is no document. -/
  | flawed (flaw : Json.Flaw)
  /-- The links between stages lead round in a circle. -/
  | endless
  deriving DecidableEq, Repr

/-- What a problem in a JSON text is called. -/
def Json.Problem.message : Json.Problem → String
  | .expectingValue => "Expecting value"
  | .expectingName => "Expecting property name enclosed in double quotes"
  | .expectingColon => "Expecting ':' delimiter"
  | .expectingComma => "Expecting ',' delimiter"
  | .unterminated => "Unterminated string starting at"
  | .badEscape => "Invalid \\escape"
  | .badCodeEscape => "Invalid \\uXXXX escape"
  | .controlCharacter => "Invalid control character at"
  | .extraData => "Extra data"
  | .byteOrderMark => "Unexpected UTF-8 BOM (decode using utf-8-sig)"

/-- A problem and its place in words. -/
def Json.Flaw.message (f : Json.Flaw) : String :=
  f.problem.message ++ ": line " ++ Number.intText f.line ++ " column " ++
    Number.intText f.column ++ " (char " ++ Number.intText f.offset ++ ")"

namespace Fault

/-- A text could not be read as a document. -/
def ofReadError : Json.ReadError → Fault
  | .flaw f => .flawed f
  | .tooManyDigits n => .tooManyDigits n

/-- The fault in words. -/
def message : Fault → String
  | .noMember found member => "'" ++ found ++ "' object has no attribute '" ++ member ++ "'"
  | .notSearchable found => "argument of type '" ++ found ++ "' is not iterable"
  | .notSought found => "'in <string>' requires string as left operand, not " ++ found
  | .notIterable found => "'" ++ found ++ "' object is not iterable"
  | .notKeyed found => "'" ++ found ++ "' object is not subscriptable"
  | .keyIntoText => "string indices must be integers, not 'str'"
  | .keyIntoList => "list indices must be integers or slices, not str"
  | .noKey name => Text.quoted name
  | .noLength found => "object of type '" ++ found ++ "' has no len()"
  | .notJoined found => "can only concatenate str (not \"" ++ found ++ "\") to str"
  | .outOfRange => "list index out of range"
  | .notFloat quoted => "could not convert string to float: " ++ quoted
  | .notNumeric found => "float() argument must be a string or a real number, not '" ++ found ++ "'"
  | .notInteger quoted => "invalid literal for int() with base 10: " ++ quoted
  | .integerTooLarge => "int too large to convert to float"
  | .tooManyDigits digits =>
    "Exceeds the limit (4300 digits) for integer string conversion: value has " ++
      Number.intText digits ++ " digits; use sys.set_int_max_str_digits() to increase the limit"
  | .exceedsInt => "signed integer is greater than maximum"
  | .exceedsLong => "Python int too large to convert to C long"
  | .fractionLost => "[<class 'decimal.DivisionImpossible'>]"
  | .daysExceedInt => "Python int too large to convert to C int"
  | .tooManyDays days =>
    "days=" ++ Number.intText days ++ "; must have magnitude <= 999999999"
  | .notDocument found => "the JSON object must be str, bytes or bytearray, not " ++ found
  | .flawed flaw => flaw.message
  | .endless => "the stages lead round in a circle"

/-- Nothing was found where something with this member was needed. -/
def absent (member : String) : Fault :=
  .noMember "NoneType" member

end Fault

/-- What may be missing, when a member of it is needed. -/
def need {α : Type} (member : String) : Option α → Except Fault α
  | some a => .ok a
  | none => .error (.absent member)

@[simp] theorem need_some {α : Type} (member : String) (a : α) : need member (some a) = .ok a := rfl

@[simp] theorem need_none {α : Type} (member : String) :
    need member (none : Option α) = .error (.absent member) := rfl

theorem need_eq_ok_iff {α : Type} {member : String} {x : Option α} {a : α} :
    need member x = .ok a ↔ x = some a := by
  cases x <;> simp [need]

end ReleaseReview
