import ReleaseReview.Calendar.Token
import ReleaseReview.Text.Case

/-!
# Words of a written date

The words that mean something in a written date, in any case: the days of the week, the months, the
units of time, the halves of the day and universal time; and the words and marks that mean nothing
and may stand between the others.
-/

namespace ReleaseReview.Calendar

open Text

/-- A token in lower case. -/
def word (t : Token) : String :=
  String.ofList (lowerAfter [] t)

/-- Marks and words that are passed over. -/
def fillers : List String :=
  [" ", ".", ",", ";", "-", "/", "'", "at", "on", "and", "ad", "m", "t", "of", "st", "nd", "rd",
   "th"]

def isFiller (t : Token) : Bool :=
  fillers.contains (word t)

def weekdays : List String :=
  ["mon", "monday", "tue", "tuesday", "wed", "wednesday", "thu", "thursday", "fri", "friday", "sat",
   "saturday", "sun", "sunday"]

def isWeekday (t : Token) : Bool :=
  weekdays.contains (word t)

/-- The months and their numbers. -/
def months : List (String × Nat) :=
  [("jan", 1), ("january", 1), ("feb", 2), ("february", 2), ("mar", 3), ("march", 3), ("apr", 4),
   ("april", 4), ("may", 5), ("jun", 6), ("june", 6), ("jul", 7), ("july", 7), ("aug", 8),
   ("august", 8), ("sep", 9), ("sept", 9), ("september", 9), ("oct", 10), ("october", 10),
   ("nov", 11), ("november", 11), ("dec", 12), ("december", 12)]

def month? (t : Token) : Option Nat :=
  months.lookup (word t)

/-- A unit of time in a day. -/
inductive TimeUnit where
  | hour
  | minute
  | second
  deriving DecidableEq, Repr

/-- The next finer unit. -/
def TimeUnit.finer? : TimeUnit → Option TimeUnit
  | .hour => some .minute
  | .minute => some .second
  | .second => none

def timeUnits : List (String × TimeUnit) :=
  [("h", .hour), ("hour", .hour), ("hours", .hour), ("m", .minute), ("minute", .minute),
   ("minutes", .minute), ("s", .second), ("second", .second), ("seconds", .second)]

def timeUnit? (t : Token) : Option TimeUnit :=
  timeUnits.lookup (word t)

/-- A half of the day. -/
inductive Half where
  | am
  | pm
  deriving DecidableEq, Repr

def halves : List (String × Half) :=
  [("am", .am), ("a", .am), ("pm", .pm), ("p", .pm)]

def half? (t : Token) : Option Half :=
  halves.lookup (word t)

/-- The hour of the day for an hour of one of its halves. -/
def Half.hour (half : Half) (hour : Nat) : Nat :=
  match half with
  | .pm => if hour < 12 then hour + 12 else hour
  | .am => if hour = 12 then 0 else hour

/-- Names for universal time, as they are written. -/
def universalNames : List String := ["UTC", "GMT", "Z", "z"]

/-- Is the token a name for universal time, in any case? -/
def isUniversal (t : Token) : Bool :=
  ["utc", "gmt", "z"].contains (word t)

/-- Could the token be the name of a time zone: up to five capitals, or a name for universal time?
-/
def looksLikeZone (t : Token) : Bool :=
  decide (t.length ≤ 5) &&
    (t.all (fun c => decide ('A' ≤ c) && decide (c ≤ 'Z')) ||
      universalNames.contains (String.ofList t))

/-- Words that are read as numbers but are none that a date can have. -/
def isUnbounded (t : Token) : Bool :=
  ["inf", "infinity", "nan"].contains (word t)

end ReleaseReview.Calendar
