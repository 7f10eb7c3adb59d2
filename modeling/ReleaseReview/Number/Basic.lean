/-!
# Numbers

A number is an integer or a floating-point number, and stays what it is: a product of two integers
is an integer, and any other product is a floating-point number. An integer can be too large to be
one of those.
-/

namespace ReleaseReview

/-- An integer or a floating-point number. -/
inductive Number where
  | int (n : Int)
  | float (x : Float)
  deriving Inhabited

namespace Number

instance (n : Nat) : OfNat Number n := ⟨.int n⟩

/-- The least natural number that rounds to no finite floating-point number. -/
def floatLimit : Nat := Nat.pow 2 1024 - Nat.pow 2 970

/-- The number as a floating-point number, unless it is too large. -/
def toFloat? : Number → Option Float
  | .int n => if n.natAbs < floatLimit then some (Float.ofInt n) else none
  | .float x => some x

@[simp] theorem toFloat?_float (x : Float) : (float x).toFloat? = some x := rfl

/-- The product of two numbers, unless one is too large for it. -/
def mul? : Number → Number → Option Number
  | .int m, .int n => some (.int (m * n))
  | a, b => do return .float ((← a.toFloat?) * (← b.toFloat?))

/-- The most digits that a written integer may have. -/
def digitLimit : Nat := 4300

/-- Is the number different from zero? What is not a number counts as different. -/
def isNonzero : Number → Bool
  | .int n => n != 0
  | .float x => !(x == 0)

end Number

end ReleaseReview
