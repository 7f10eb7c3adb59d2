import ReleaseReview.Number.Decimal

/-!
# Decimals of limited length

Some sums are worked out with decimals of at most 28 digits. What does not fit is rounded to the
nearest decimal that does, a half to the one that is even.
-/

namespace ReleaseReview.Number

/-- The quotient rounded to the nearest integer, a half to the even one. -/
def roundDiv (n d : Nat) : Nat :=
  match compare (2 * (n % d)) d with
  | .lt => n / d
  | .gt => n / d + 1
  | .eq => if n / d % 2 = 0 then n / d else n / d + 1

/-- The number of digits of a natural number; zero has none. -/
def digitCount (n : Nat) : Nat :=
  if n = 0 then 0 else (digitChars n).length

/-- The most digits of a decimal of limited length. -/
def precision : Nat := 28

namespace Decimal

/-- The decimal rounded to the limited length. -/
def rounded (d : Decimal) : Decimal :=
  let surplus := digitCount d.digits - precision
  ⟨roundDiv d.digits (Nat.pow 10 surplus), d.exponent + surplus⟩

/-- A multiple of a decimal, rounded to the limited length. -/
def times (n : Nat) (d : Decimal) : Decimal :=
  rounded ⟨n * d.digits, d.exponent⟩

/-- The integer below a decimal. -/
def floor (d : Decimal) : Nat :=
  d.digits * Nat.pow 10 d.exponent.toNat / Nat.pow 10 (-d.exponent).toNat

end Decimal

end ReleaseReview.Number
