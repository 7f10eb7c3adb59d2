/-!
# Tables of code points

Properties of characters are kept as ascending lists of closed ranges.
-/

namespace ReleaseReview.Text

/-- Does the code point lie in one of the closed ranges? -/
def inRanges (ranges : List (Nat × Nat)) (n : Nat) : Bool :=
  ranges.any fun r => decide (r.1 ≤ n) && decide (n ≤ r.2)

end ReleaseReview.Text
