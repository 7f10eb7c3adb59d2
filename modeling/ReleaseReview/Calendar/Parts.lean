import ReleaseReview.Calendar.Word
import ReleaseReview.Fault
import ReleaseReview.Number.Rounded

/-!
# The parts of a date

The numbers of a date come in any order. `Parts` holds those met so far, with the places of those
that are surely the year or the month: a number of three digits or more is a year, and a name is a
month. `Parts.resolve` decides which part each number is: month before day before year, except
where a number is too large for its part or a place is known.
-/

namespace ReleaseReview.Calendar

open Text

/-! ## Numbers -/

/-- The integer that a token writes. -/
def number? (t : Token) : Option Nat :=
  if t.length ≤ Number.digitLimit then digitsValue? t else none

/-- A number with its decimal places. -/
structure Amount where
  whole : Nat
  places : List Nat

namespace Amount

/-- The number that a token writes. -/
def of? (t : Token) : Option Amount := do
  let whole ← digitsValue? (t.takeWhile (· != '.'))
  match t.dropWhile (· != '.') with
  | [] => return ⟨whole, []⟩
  | _ :: places =>
    if places.isEmpty then none
    else return ⟨whole, ← places.mapM digitValue?⟩

/-- Is there anything after the point? -/
def hasFraction (a : Amount) : Bool :=
  a.places.any (· != 0)

/-- What stands after the point, as a decimal of limited length. It cannot be told from a number
whose whole part is too long for one. -/
def fraction (a : Amount) : Except Fault Number.Decimal :=
  if Number.precision < Number.digitCount a.whole then .error .fractionLost
  else .ok (Number.Decimal.rounded ⟨a.places.foldl (fun n d => 10 * n + d) 0, -a.places.length⟩)

/-- How many sixtieths the fraction has; nothing if there is none. -/
def sixtieths (a : Amount) : Except Fault (Option Nat) := do
  let fraction ← a.fraction
  return if a.hasFraction then some (fraction.times 60).floor else none

/-- Is the number at most `n`? -/
def atMost (a : Amount) (n : Nat) : Bool :=
  decide (a.whole < n) || (decide (a.whole = n) && !a.hasFraction)

end Amount

/-! ## Years and months -/

/-- The year that stands in for one not given. -/
def standInYear : Nat := 2000

/-- The month that stands in for one not given. -/
def standInMonth : Nat := 1

/-- The day that stands in for one not given. -/
def standInDay : Nat := 1

/-- A year without its century is the one nearest to the stand-in year. -/
def fullYear (withCentury : Bool) (year : Nat) : Nat :=
  if withCentury || decide (100 ≤ year) then year
  else if year < 50 then standInYear + year
  else standInYear + year - 100

def isLeap (year : Nat) : Bool :=
  year % 4 == 0 && (year % 100 != 0 || year % 400 == 0)

/-- The number of days of a month. -/
def monthLength (year month : Nat) : Nat :=
  if month = 2 then if isLeap year then 29 else 28
  else if month = 4 ∨ month = 6 ∨ month = 9 ∨ month = 11 then 30
  else 31

/-! ## Parts -/

/-- What a number is known to be. -/
inductive Role where
  | year
  | month
  deriving DecidableEq, Repr

/-- The numbers of a date so far, the places of the known year and month among them, and whether a
year was written with its century. -/
structure Parts where
  values : List Nat
  year : Option Nat
  month : Option Nat
  withCentury : Bool

namespace Parts

def none : Parts := ⟨[], .none, .none, false⟩

/-- Adds a number with its role, which no earlier number may have. -/
def add (p : Parts) (value : Nat) (role : Option Role) : Option Parts :=
  let p' := { p with values := p.values ++ [value] }
  match role with
  | .none => some p'
  | some .year =>
    if p.year.isSome then Option.none else some { p' with year := some p.values.length }
  | some .month =>
    if p.month.isSome then Option.none else some { p' with month := some p.values.length }

/-- Adds a written number; three digits or more make it a year. -/
def addToken (p : Parts) (t : Token) : Option Parts :=
  (number? t).bind fun n =>
    if 2 < t.length then Parts.add { p with withCentury := true } n (some .year)
    else p.add n .none

/-- Adds a number, which is a year above a hundred. -/
def addAmount (p : Parts) (a : Amount) : Option Parts :=
  if a.atMost 100 then p.add a.whole .none
  else Parts.add { p with withCentury := true } a.whole (some .year)

/-- Adds a month. -/
def addMonth (p : Parts) (month : Nat) : Option Parts :=
  p.add month (some .month)

/-- Adds a year with its century. -/
def addYear (p : Parts) (year : Nat) : Option Parts :=
  Parts.add { p with withCentury := true } year (some .year)

/-- The value at a known place. -/
def valueAt? (p : Parts) (place : Option Nat) : Option Nat :=
  place.bind fun i => p.values[i]?

/-- Could a number be the day, as far as the month and the year are known? -/
def couldBeDay (p : Parts) (a : Amount) : Bool :=
  let most := match p.valueAt? p.month, p.valueAt? p.year with
    | .none, _ => 31
    | some month, .none => monthLength 2000 month
    | some month, some year => monthLength year month
  decide (1 ≤ a.whole) && a.atMost most

end Parts

/-- The year, the month and the day of a date, as far as they are given. -/
structure Date where
  year : Option Nat
  month : Option Nat
  day : Option Nat

namespace Parts

/-- The date of three numbers of which the month is known by its place. -/
def resolveNamed (month : Nat) (a b c : Nat) : Date :=
  match month with
  | 0 => if 31 < b then ⟨b, a, c⟩ else ⟨c, a, b⟩
  | 1 => if 31 < a then ⟨a, b, c⟩ else ⟨c, b, a⟩
  | _ => if 31 < b then ⟨b, c, a⟩ else ⟨a, c, b⟩

/-- The date of three numbers of which at most the year is known by its place. -/
def resolveNumbers (year : Option Nat) (a b c : Nat) : Date :=
  if 31 < a ∨ year = some 0 then ⟨a, b, c⟩
  else if 12 < a then ⟨c, b, a⟩
  else ⟨c, a, b⟩

/-- A number that is the year or the day. -/
def yearOrDay (n : Nat) (month : Option Nat) : Date :=
  if 31 < n then ⟨n, month, .none⟩ else ⟨.none, month, n⟩

/-- Which part of the date each number is; nothing if there are more than three. -/
def resolve (p : Parts) : Option Date :=
  match p.values, p.year, p.month with
  | [], _, _ => some ⟨.none, .none, .none⟩
  | [a], some _, _ => some ⟨a, .none, .none⟩
  | [a], .none, some _ => some ⟨.none, a, .none⟩
  | [a], .none, .none => some (yearOrDay a .none)
  | [a, b], some y, some _ => some (if y = 0 then ⟨a, b, .none⟩ else ⟨b, a, .none⟩)
  | [a, b], .none, some m => some (if m = 0 then yearOrDay b a else yearOrDay a b)
  | [a, b], _, .none =>
    some (if 31 < a then ⟨a, b, .none⟩ else if 31 < b then ⟨b, a, .none⟩ else ⟨.none, a, b⟩)
  | [a, b, c], some y, some m =>
    some ⟨[a, b, c][y]?, [a, b, c][m]?, [a, b, c][3 - y - m]?⟩
  | [a, b, c], .none, some m => some (resolveNamed m a b c)
  | [a, b, c], year, .none => some (resolveNumbers year a b c)
  | _, _, _ => Option.none

end Parts

end ReleaseReview.Calendar
