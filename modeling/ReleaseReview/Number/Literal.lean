import ReleaseReview.Text.Blank
import ReleaseReview.Text.Digit

/-!
# Reading numbers

The texts that are read as numbers. Blanks around the number are passed over, the digits may be of
any script, and a single underscore may stand between two digits. A floating-point number is an
optional sign and then either a word for infinity or for no number, in any case, or digits with an
optional point among or around them and an optional exponent.
-/

namespace ReleaseReview.Number

open ReleaseReview.Text

/-- Blanks that may surround a number: all but the four ASCII separators. -/
def isMargin (c : Char) : Bool :=
  isBlank c && !(decide (0x1c ≤ c.toNat) && decide (c.toNat ≤ 0x1f))

/-- Digits of every script in their ASCII form, other characters as they are. -/
def plainDigit (c : Char) : Char :=
  match digitValue? c with
  | some n => Nat.digitChar n
  | none => c

/-- Does every underscore stand between two digits? `before` tells whether a digit comes before. -/
def underscoresFit (before : Bool) : List Char → Bool
  | [] => true
  | '_' :: c :: cs => before && c.isDigit && underscoresFit true cs
  | '_' :: [] => false
  | c :: cs => underscoresFit c.isDigit cs

/-- The characters that write the number itself, in ASCII digits and without underscores; nothing if
an underscore is out of place. -/
def body? (cs : List Char) : Option (List Char) :=
  let cs := (trimBoth isMargin cs).map plainDigit
  if underscoresFit false cs then some (cs.filter (· != '_')) else none

/-- Takes a sign off: whether it is a minus, and the rest. -/
def splitSign : List Char → Bool × List Char
  | '-' :: cs => (true, cs)
  | '+' :: cs => (false, cs)
  | cs => (false, cs)

/-- The value of a run of ASCII digits. -/
def natOf (ds : List Char) : Nat :=
  ds.foldl (fun n c => 10 * n + (c.toNat - 0x30)) 0

/-- The exponent that ends a number: none, or a mark, an optional sign and digits. -/
def exponent? : List Char → Option Int
  | [] => some 0
  | c :: cs =>
    if c = 'e' ∨ c = 'E' then
      let (negative, ds) := splitSign cs
      if ds.isEmpty || !ds.all Char.isDigit then none
      else some (if negative then -(natOf ds : Int) else natOf ds)
    else none

/-- The floating-point number nearest to `digits * 10 ^ exponent`. Beyond the range of exponents
that such a number can have it is infinite or zero. -/
def nearest (digits : Nat) (exponent : Int) : Float :=
  let top := ((Nat.toDigits 10 digits).length : Int) + exponent
  if digits == 0 then 0
  else if 400 < top then 1.0 / 0.0
  else if top < -400 then 0
  else Float.ofScientific digits (exponent < 0) exponent.natAbs

/-- Reads digits with an optional point and exponent. -/
def unsigned? (cs : List Char) : Option Float :=
  let whole := cs.takeWhile Char.isDigit
  let rest := cs.dropWhile Char.isDigit
  let (fraction, rest) := match rest with
    | '.' :: rest => (rest.takeWhile Char.isDigit, rest.dropWhile Char.isDigit)
    | rest => ([], rest)
  if whole.isEmpty && fraction.isEmpty then none
  else (exponent? rest).map fun e => nearest (natOf (whole ++ fraction)) (e - fraction.length)

/-- Reads a floating-point number. -/
def float? (cs : List Char) : Option Float := do
  let body ← body? cs
  let (negative, rest) := splitSign body
  let word := String.ofList (rest.map Char.toLower)
  let magnitude ←
    if word = "inf" ∨ word = "infinity" then some (1.0 / 0.0)
    else if word = "nan" then some (0.0 / 0.0)
    else unsigned? rest
  return if negative then -magnitude else magnitude

/-- The number of digits that a text starts with, after blanks and a sign. Digits with an underscore
out of place among them do not count. -/
def leadingDigitCount (cs : List Char) : Nat :=
  let (_, body) := splitSign ((cs.dropWhile isMargin).map plainDigit)
  let run := body.takeWhile fun c => c.isDigit || c == '_'
  if underscoresFit false run then run.countP Char.isDigit else 0

/-- Reads an integer. -/
def int? (cs : List Char) : Option Int := do
  let body ← body? cs
  let (negative, ds) := splitSign body
  if ds.isEmpty || !ds.all Char.isDigit then none
  else some (if negative then -(natOf ds : Int) else natOf ds)

end ReleaseReview.Number
