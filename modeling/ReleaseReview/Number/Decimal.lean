import ReleaseReview.Number.Shortest

/-!
# How a number is written

A floating-point number is written with the fewest digits that identify it: positionally if its
first digit stands between the fourth place after the point and the sixteenth before it, and then
always with a digit on both sides of the point; otherwise with an exponent of at least two digits
and its sign.
-/

namespace ReleaseReview.Number

/-- The decimal digits of a natural number. -/
def digitChars (n : Nat) : List Char :=
  Nat.toDigits 10 n

/-- A decimal laid out positionally; `point` digits stand before the point, or zeros follow it. -/
def positional (digits : List Char) (point : Int) : List Char :=
  let length : Int := digits.length
  if point ≤ 0 then '0' :: '.' :: (List.replicate (-point).toNat '0' ++ digits)
  else if length ≤ point then digits ++ List.replicate (point - length).toNat '0' ++ ['.', '0']
  else digits.take point.toNat ++ '.' :: digits.drop point.toNat

/-- A decimal laid out with an exponent, which the first digit has. -/
def scientific (digits : List Char) (exponent : Int) : List Char :=
  let mantissa := match digits with
    | [] => []
    | [d] => [d]
    | d :: ds => d :: '.' :: ds
  let size := digitChars exponent.natAbs
  let size := if size.length < 2 then '0' :: size else size
  mantissa ++ 'e' :: (if exponent < 0 then '-' else '+') :: size

/-- The text of a decimal. -/
def layout (d : Decimal) : List Char :=
  let digits := digitChars d.digits
  let point := d.exponent + digits.length
  if -4 ≤ point - 1 ∧ point - 1 < 16 then positional digits point else scientific digits (point - 1)

/-- The text of a finite floating-point number. -/
def floatText (x : Float) : String :=
  let bits := x.toBits
  let text := layout (Binary.ofBits bits).shortest
  String.ofList (if bits >>> 63 == 1 then '-' :: text else text)

/-- The text of an integer. -/
def intText (n : Int) : String :=
  let text := digitChars n.natAbs
  String.ofList (if n < 0 then '-' :: text else text)

end ReleaseReview.Number
