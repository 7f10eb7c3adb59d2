import ReleaseReview.Calendar.Parts

/-!
# Recognising dates

`recognise` tells whether a text is a date, a time or both, in any of the usual orders and
notations. The tokens of the text are read from the left into a `Reading`: the parts of the date,
the time of day, the day of the week and the time zone. A token that means nothing where it stands
makes the text no date, and so do numbers that no calendar has. Parts that the text does not give
are those of a fixed day that every other part goes with.
-/

namespace ReleaseReview.Calendar

open Text

/-- Why a text is not read to its end. -/
inductive Halt where
  /-- The text is no date. -/
  | noDate
  | fault (fault : Fault)

/-- What has to be there for a text to be a date. -/
def orNoDate {α : Type} : Option α → Except Halt α
  | some a => .ok a
  | none => .error .noDate

instance : MonadLift Option (Except Halt) := ⟨orNoDate⟩

instance : MonadLift (Except Fault) (Except Halt) := ⟨Except.mapError .fault⟩

/-- What has been read of a date. -/
structure Reading where
  parts : Parts
  /-- Was a day of the week given? -/
  weekday : Bool
  hour : Option Nat
  minute : Option Nat
  second : Option Nat
  micro : Option Nat
  /-- Was a half of the day given? -/
  half : Bool
  zone : Option Token
  /-- The distance from universal time in seconds. -/
  offset : Option Int
  /-- Is a distance that follows to be taken the other way? -/
  reversed : Bool

namespace Reading

/-- Nothing read. -/
def empty : Reading := ⟨.none, false, none, none, none, none, false, none, none, false⟩

/-! ## Times -/

/-- Sets the hour and the minute. -/
def setTime (r : Reading) (hour minute : Nat) : Reading :=
  { r with hour := some hour, minute := some minute }

/-- Sets the seconds and millionths of a second that a token writes, to six places. -/
def setSeconds (r : Reading) (t : Token) : Option Reading := do
  let second ← number? (t.takeWhile (· != '.'))
  match t.dropWhile (· != '.') with
  | [] => return { r with second := some second, micro := some 0 }
  | _ :: places =>
    let micro ← digitsValue? ((places ++ List.replicate 6 '0').take 6)
    return { r with second := some second, micro := some micro }

/-- Sets the hour, and the minute by what stands after the point. -/
def setHour (r : Reading) (a : Amount) : Except Fault Reading := do
  return { r with hour := some a.whole, minute := (← a.sixtieths).or r.minute }

/-- Sets the minute, and the second by what stands after the point. -/
def setMinute (r : Reading) (a : Amount) : Except Fault Reading := do
  return { r with minute := some a.whole, second := ← a.sixtieths }

/-- Sets the part of the time that a unit names. -/
def setUnit (r : Reading) (t : Token) (a : Amount) : TimeUnit → Except Halt Reading
  | .hour => liftM (r.setHour a)
  | .minute => liftM (r.setMinute a)
  | .second => orNoDate (r.setSeconds t)

/-- Sets the hour in a half of the day. -/
def setHalfHour (r : Reading) (hour : Nat) (half : Half) : Reading :=
  { r with hour := some (half.hour hour) }

/-- The reading with other parts of the date. -/
def withParts (r : Reading) (parts : Option Parts) : Option Reading :=
  parts.map fun p => { r with parts := p }

/-! ## Numbers without marks -/

/-- Two digits of hours, and two of minutes if there are four. -/
def readShortTime (r : Reading) (t : Token) : Option Reading := do
  let hour ← digitsValue? (t.take 2)
  if t.length = 4 then return r.setTime hour (← digitsValue? (t.drop 2))
  else return { r with hour := some hour }

/-- Six digits: year, month and day if there is no date yet, else hours, minutes and seconds. -/
def readSix (r : Reading) (t : Token) : Option Reading :=
  if r.parts.values.isEmpty && !t.contains '.' then
    r.withParts do
      let p ← r.parts.addToken (t.take 2)
      let p ← p.addToken ((t.drop 2).take 2)
      p.addToken (t.drop 4)
  else do
    let hour ← digitsValue? (t.take 2)
    let minute ← digitsValue? ((t.drop 2).take 2)
    (r.setTime hour minute).setSeconds (t.drop 4)

/-- Four digits of year, two of month and two of day, then hours, minutes and seconds. -/
def readLong (r : Reading) (t : Token) : Option Reading := do
  let r ← r.withParts do
    let p ← r.parts.addToken (t.take 4)
    let p ← p.addToken ((t.drop 4).take 2)
    p.addToken ((t.drop 6).take 2)
  if t.length = 8 then return r
  let hour ← digitsValue? ((t.drop 8).take 2)
  let minute ← digitsValue? ((t.drop 10).take 2)
  let r := r.setTime hour minute
  if t.length = 12 then return r
  return { r with second := some (← digitsValue? (t.drop 12)) }

/-! ## Numbers beside other tokens -/

/-- The unit of the number at place `i` and the last place that says so: the unit after it, with or
without a blank between, or else one finer than the unit before it. A number at the very end also
looks back over a blank. There is no unit finer than a second, and such a number is passed over. -/
def unitAt? (ts : List Token) (i : Nat) : Option (Option TimeUnit × Nat) :=
  let unit? := fun (j : Nat) => ts[j]?.bind timeUnit?
  let next := (unit? (i + 1)).map fun u => (some u, i + 1)
  let overBlank := (unit? (i + 2)).map fun u => (some u, i + 2)
  let before := (unit? (i - 1)).map fun u => (u.finer?, i)
  let lastBefore := (unit? (i - 2)).map fun u => (u.finer?, i)
  next.or <| (if ts[i + 1]? = some [' '] then overBlank else none).or <|
    (if 0 < i then before else none).or <|
    if 1 < i ∧ i + 1 = ts.length ∧ ts[i - 1]? = some [' '] then lastBefore else none

/-- A number before a colon: hours, minutes and perhaps seconds. -/
def readClock (r : Reading) (ts : List Token) (i : Nat) (a : Amount) :
    Except Halt (Nat × Reading) := do
  let minute ← Amount.of? (← ts[i + 2]?)
  let r ← { r with hour := some a.whole }.setMinute minute
  if ts[i + 3]? = some [':'] then
    match ts[i + 4]? with
    | some t => return (i + 4, ← r.setSeconds t)
    | none => return (i + 2, r)
  else return (i + 2, r)

/-- The month that a token names, or else the number that it writes. -/
def addPart (p : Parts) (t : Token) : Option Parts :=
  match month? t with
  | some m => p.addMonth m
  | none => p.addToken t

/-- A number before a dash, a slash or a point: two or three parts of a date. -/
def readDate (r : Reading) (ts : List Token) (i : Nat) (t : Token) : Option (Nat × Reading) := do
  let p ← r.parts.addToken t
  match ts[i + 2]? with
  | none => return (i + 1, { r with parts := p })
  | some second =>
    if isFiller second then return (i + 1, { r with parts := p })
    let p ← addPart p second
    if (ts[i + 3]?).isSome && ts[i + 3]? == ts[i + 1]? then
      let p ← addPart p (← ts[i + 4]?)
      return (i + 4, { r with parts := p })
    return (i + 2, { r with parts := p })

/-- A number at the end or before a filler: the hour of a half of the day, or a part of a date. -/
def readLast (r : Reading) (ts : List Token) (i : Nat) (a : Amount) : Option (Nat × Reading) :=
  match ts[i + 2]?.bind half? with
  | some half => some (i + 2, r.setHalfHour a.whole half)
  | none => (r.withParts (r.parts.addAmount a)).map ((i + 1, ·))

/-- Reads the number at place `i`; gives the last place that was read with it. -/
def readNumber (r : Reading) (ts : List Token) (i : Nat) (t : Token) (a : Amount) :
    Except Halt (Nat × Reading) :=
  let next := ts[i + 1]?
  let here := fun (r : Option Reading) => orNoDate (r.map ((i, ·)))
  if r.parts.values.length = 3 ∧ (t.length = 2 ∨ t.length = 4) ∧ r.hour = none ∧
      next ≠ some [':'] ∧ next.bind timeUnit? = none then here (r.readShortTime t)
  else if t.length = 6 ∨ (6 < t.length ∧ t.findIdx? (· == '.') = some 6) then here (r.readSix t)
  else if t.length = 8 ∨ t.length = 12 ∨ t.length = 14 then here (r.readLong t)
  else match unitAt? ts i with
  | some (some unit, last) => (r.setUnit t a unit).map ((last, ·))
  | some (none, last) => .ok (last, r)
  | none =>
    if i + 2 < ts.length ∧ next = some [':'] then r.readClock ts i a
    else if next = some ['-'] ∨ next = some ['/'] ∨ next = some ['.'] then
      orNoDate (r.readDate ts i t)
    else match next with
    | none => orNoDate (r.readLast ts i a)
    | some after =>
      if isFiller after then orNoDate (r.readLast ts i a)
      else match half? after with
      | some half =>
        if a.whole < 24 then .ok (i + 1, r.setHalfHour a.whole half)
        else if r.parts.couldBeDay a then here (r.withParts (r.parts.addAmount a))
        else .error .noDate
      | none =>
        if r.parts.couldBeDay a then here (r.withParts (r.parts.addAmount a)) else .error .noDate

/-! ## Words and marks -/

/-- Reads the month at place `i`, with the numbers that a dash or a slash joins to it, or with the
year after "of". -/
def readMonth (r : Reading) (ts : List Token) (i : Nat) (month : Nat) : Option (Nat × Reading) := do
  let p ← r.parts.addMonth month
  if ts[i + 1]? = some ['-'] ∨ ts[i + 1]? = some ['/'] then
    let p ← p.addToken (← ts[i + 2]?)
    if ts[i + 3]? = ts[i + 1]? then
      let p ← p.addToken (← ts[i + 4]?)
      return (i + 4, { r with parts := p })
    return (i + 2, { r with parts := p })
  else if ts[i + 1]? = some [' '] ∧ ts[i + 3]? = some [' '] ∧ ts[i + 2]?.map word = some "of" then
    match ts[i + 4]? with
    | none => return (i, { r with parts := p })
    | some t =>
      if t.all isDigitSign then
        let p ← p.addYear (fullYear false (← number? t))
        return (i + 4, { r with parts := p })
      return (i + 4, { r with parts := p })
  else return (i, { r with parts := p })

/-- Could the token name the zone of the time that was read? -/
def takesZone (r : Reading) (t : Token) : Bool :=
  r.hour.isSome && r.zone.isNone && looksLikeZone t

/-- Reads the zone at place `i`. With a distance after it, universal time is no longer meant, and
the distance is the one to it and not the one from it. -/
def readZone (r : Reading) (ts : List Token) (i : Nat) (t : Token) : Reading :=
  if ts[i + 1]? = some ['+'] ∨ ts[i + 1]? = some ['-'] then
    { r with zone := if isUniversal t then none else some t, offset := none, reversed := true }
  else { r with zone := some t, offset := if t = ['z'] then some 0 else none }

/-- Reads the distance from universal time whose sign is at place `i`: four digits, hours and
minutes with a colon between them, or hours, and then perhaps a zone in parentheses. -/
def readOffset (r : Reading) (ts : List Token) (i : Nat) : Option (Nat × Reading) := do
  let t ← ts[i + 1]?
  let (hours, minutes, j) ←
    if t.length = 4 then do
      pure (← digitsValue? (t.take 2), ← digitsValue? (t.drop 2), i)
    else if ts[i + 2]? = some [':'] then do
      pure (← number? t, ← number? (← ts[i + 3]?), i + 2)
    else if t.length ≤ 2 then do
      pure (← digitsValue? t, 0, i)
    else none
  let seconds : Int := hours * 3600 + minutes * 60
  let ahead := (ts[i]? == some ['+']) != r.reversed
  let r := { r with offset := some (if ahead then seconds else -seconds), reversed := false }
  match ts[j + 2]?, ts[j + 3]?, ts[j + 4]?, ts[j + 5]? with
  | some filler, some ['('], some zone, some [')'] =>
    if isFiller filler && decide (3 ≤ zone.length) && r.takesZone zone then
      return (j + 5, { r with zone := some zone })
    return (j + 1, r)
  | _, _, _, _ => return (j + 1, r)

/-- Reads the token at place `i`; gives the last place that was read with it. -/
def readToken (r : Reading) (ts : List Token) (i : Nat) (t : Token) :
    Except Halt (Nat × Reading) :=
  match Amount.of? t with
  | some a => r.readNumber ts i t a
  | none =>
    if isUnbounded t then .error .noDate
    else if isWeekday t then .ok (i, { r with weekday := true })
    else match month? t with
    | some month => orNoDate (r.readMonth ts i month)
    | none =>
      match half? t with
      | some half =>
        match r.hour with
        | some hour =>
          if hour ≤ 12 then .ok (i, { r.setHalfHour hour half with half := true })
          else .error .noDate
        | none => .error .noDate
      | none =>
        if r.takesZone t && r.offset.isNone then .ok (i, r.readZone ts i t)
        else if r.hour.isSome && (t == ['+'] || t == ['-']) then orNoDate (r.readOffset ts i)
        else if isFiller t then .ok (i, r)
        else .error .noDate

/-- Reads the tokens from place `i` on, at most `fuel` of them. -/
def readFrom (ts : List Token) : Nat → Nat → Reading → Except Halt Reading
  | 0, _, r => .ok r
  | fuel + 1, i, r =>
    match ts[i]? with
    | none => .ok r
    | some t => do
      let (last, r) ← r.readToken ts i t
      readFrom ts fuel (last + 1) r

/-- What a text says, if every token means something where it stands. -/
def of (text : List Char) : Except Halt Reading :=
  let ts := tokens text
  readFrom ts ts.length 0 empty

end Reading

/-! ## Calendar -/

/-- A given part has to fit a signed word. -/
def fitsWord (part : Option Nat) : Except Fault Unit :=
  let n := part.getD 0
  if 0x8000000000000000 ≤ n then .error .exceedsLong
  else if 0x80000000 ≤ n then .error .exceedsInt
  else .ok ()

/-- Are these a year, a month and a day of the calendar? -/
def isDate (year month day : Nat) : Bool :=
  decide (1 ≤ year) && decide (year ≤ 9999) && decide (1 ≤ month) && decide (month ≤ 12) &&
    decide (1 ≤ day) && decide (day ≤ monthLength year month)

/-- Are these, as far as they are given, a time of day? -/
def isTime (hour minute second : Option Nat) : Bool :=
  decide (hour.getD 0 ≤ 23) && decide (minute.getD 0 ≤ 59) && decide (second.getD 0 ≤ 59)

/-- Was anything read at all? -/
def Reading.saysSomething (r : Reading) (d : Date) : Bool :=
  d.year.isSome || d.month.isSome || d.day.isSome || r.weekday || r.hour.isSome ||
    r.minute.isSome || r.second.isSome || r.micro.isSome || r.half || r.zone.isSome ||
    r.offset.isSome

/-- The distance from universal time that counts: none from a zone that is universal time itself.
-/
def Reading.distance (r : Reading) : Int :=
  if r.zone.any isUniversal then 0 else r.offset.getD 0

/-- The most days that a distance from universal time can have. -/
def maxDays : Nat := 999999999

/-- A distance in seconds has to fit a number of days. -/
def fitsDays (seconds : Int) : Except Fault Unit :=
  let days := Int.fdiv seconds 86400
  if days < -0x80000000 ∨ 0x80000000 ≤ days then .error .daysExceedInt
  else if maxDays < days.natAbs then .error (.tooManyDays days)
  else .ok ()

/-- Is what was read a date or time of the calendar? -/
def Reading.exists (r : Reading) : Except Fault Bool :=
  match r.parts.resolve with
  | none => .ok false
  | some d =>
    let year := d.year.map (fullYear r.parts.withCentury)
    let month := d.month.getD standInMonth
    if !r.saysSomething d then .ok false
    else if d.day.isNone && !(decide (1 ≤ month) && decide (month ≤ 12)) then .ok false
    else do
      for part in [year, d.month, d.day, r.hour, r.minute, r.second, r.micro] do
        fitsWord part
      if isDate (year.getD standInYear) month (d.day.getD standInDay) &&
          isTime r.hour r.minute r.second then
        fitsDays r.distance
        return true
      return false

/-- Is the text a date, a time or both? -/
def recognise (text : List Char) : Except Fault Bool :=
  match Reading.of text with
  | .error .noDate => .ok false
  | .error (.fault fault) => .error fault
  | .ok r => r.exists

end ReleaseReview.Calendar
