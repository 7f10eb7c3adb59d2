/-!
# The fewest digits that identify a binary value

A finite binary value stands for an interval of reals, those that round to it. `shortest` is the
decimal with the fewest digits in that interval, and of two with as many digits the nearer, an exact
tie going to the even one. All comparisons are between naturals, so nothing is rounded on the way.
-/

namespace ReleaseReview.Number

/-- A finite value that is not negative: `significand * 2 ^ exponent`. -/
structure Binary where
  significand : Nat
  exponent : Int
  /-- The gap to the value below is half the gap to the value above. -/
  narrowBelow : Bool

/-- The magnitude that 64 bits of a finite value hold. -/
def Binary.ofBits (bits : UInt64) : Binary :=
  let e := ((bits >>> 52) &&& 0x7ff).toNat
  let f := (bits &&& 0xfffffffffffff).toNat
  if e == 0 then ⟨f, -1074, false⟩ else ⟨0x10000000000000 + f, (e : Int) - 1075, f == 0 && e > 1⟩

/-- The decimal `digits * 10 ^ exponent`. -/
structure Decimal where
  digits : Nat
  exponent : Int
  deriving DecidableEq, Repr

/-- Compares `a * 10 ^ i` with `n * 2 ^ j`. -/
def compareScaled (a : Nat) (i : Int) (n : Nat) (j : Int) : Ordering :=
  compare (a * Nat.pow 10 i.toNat * Nat.pow 2 (-j).toNat)
    (n * Nat.pow 2 j.toNat * Nat.pow 10 (-i).toNat)

namespace Binary

/-- Does the decimal lie among the reals that round to the value? The ends of the interval do if the
significand is even. -/
def holds (x : Binary) (d : Decimal) : Bool :=
  let low := if x.narrowBelow then 4 * x.significand - 1 else 4 * x.significand - 2
  let fromLow := compareScaled d.digits d.exponent low (x.exponent - 2)
  let fromHigh := compareScaled d.digits d.exponent (4 * x.significand + 2) (x.exponent - 2)
  let ends := x.significand % 2 == 0
  (fromLow == .gt || (ends && fromLow == .eq)) && (fromHigh == .lt || (ends && fromHigh == .eq))

/-- The least `k` such that the value is below `10 ^ k`: estimated from the binary logarithm, then
corrected by comparison. -/
def magnitude (x : Binary) : Int :=
  let guess := Int.fdiv (((x.significand.log2 : Int) + x.exponent) * 30103) 100000
  let below (k : Int) := compareScaled 1 k x.significand x.exponent == .gt
  (([guess - 1, guess, guess + 1, guess + 2].find? below)).getD (guess + 3)

/-- The value in units of `10 ^ grid`, as a fraction. -/
def inUnits (x : Binary) (grid : Int) : Nat × Nat :=
  (x.significand * Nat.pow 2 x.exponent.toNat * Nat.pow 10 (-grid).toNat,
    Nat.pow 2 (-x.exponent).toNat * Nat.pow 10 grid.toNat)

/-- The best decimal on the grid of multiples of `10 ^ grid`, if one of the value's two neighbours
there identifies it. -/
def onGrid? (x : Binary) (grid : Int) : Option Decimal :=
  let (num, den) := x.inUnits grid
  let low : Decimal := ⟨num / den, grid⟩
  let high : Decimal := ⟨num / den + 1, grid⟩
  match x.holds low, x.holds high with
  | true, false => some low
  | false, true => some high
  | false, false => none
  | true, true =>
    match compare (2 * num) ((2 * low.digits + 1) * den) with
    | .lt => some low
    | .gt => some high
    | .eq => some (if low.digits % 2 == 0 then low else high)

/-- The value written out in full. -/
def exact (x : Binary) : Decimal :=
  if 0 ≤ x.exponent then ⟨x.significand * Nat.pow 2 x.exponent.toNat, 0⟩
  else ⟨x.significand * Nat.pow 5 (-x.exponent).toNat, x.exponent⟩

end Binary

/-- The same decimal without trailing zeros in its digits. -/
def stripZeros (digits : Nat) (exponent : Int) : Decimal :=
  if _h : digits ≠ 0 ∧ digits % 10 = 0 then stripZeros (digits / 10) (exponent + 1)
  else ⟨digits, exponent⟩
termination_by digits
decreasing_by omega

/-- The decimal with the fewest digits that identifies the value; zero is itself. -/
def Binary.shortest (x : Binary) : Decimal :=
  if x.significand == 0 then ⟨0, 0⟩
  else
    let top := x.magnitude
    let found := ((List.range 17).findSome? fun (n : Nat) => x.onGrid? (top - n - 1)).getD x.exact
    stripZeros found.digits found.exponent

end ReleaseReview.Number
