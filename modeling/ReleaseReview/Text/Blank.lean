/-!
# Blanks

The characters that only separate others: the ASCII blanks and separators, the next-line control and
the spaces and separators of all scripts. `trim` removes them from both ends of a text.
-/

namespace ReleaseReview.Text

/-- The code points of the blank characters. -/
def blankCodes : List Nat :=
  [0x9, 0xa, 0xb, 0xc, 0xd, 0x1c, 0x1d, 0x1e, 0x1f, 0x20, 0x85, 0xa0, 0x1680, 0x2000, 0x2001,
   0x2002, 0x2003, 0x2004, 0x2005, 0x2006, 0x2007, 0x2008, 0x2009, 0x200a, 0x2028, 0x2029, 0x202f,
   0x205f, 0x3000]

/-- Is the character a blank? -/
def isBlank (c : Char) : Bool :=
  blankCodes.contains c.toNat

/-- A list without the elements at its two ends that satisfy `p`. -/
def trimBoth {α : Type} (p : α → Bool) (xs : List α) : List α :=
  ((xs.dropWhile p).reverse.dropWhile p).reverse

theorem dropWhile_eq_self_of_head? {α : Type} {p : α → Bool} {xs : List α}
    (h : xs.head?.any p = false) : xs.dropWhile p = xs := by
  cases xs with
  | nil => rfl
  | cons x xs => exact List.dropWhile_cons_of_neg (by simpa using h)

theorem trimBoth_eq_self {α : Type} {p : α → Bool} {xs : List α} (hhead : xs.head?.any p = false)
    (hlast : xs.getLast?.any p = false) : trimBoth p xs = xs := by
  rw [trimBoth, dropWhile_eq_self_of_head? hhead, dropWhile_eq_self_of_head?,
    List.reverse_reverse]
  rwa [List.head?_reverse]

/-- The text without the blanks at its two ends. -/
def trim (s : String) : String :=
  String.ofList (trimBoth isBlank s.toList)

end ReleaseReview.Text
