import ReleaseReview.Text.Blank
import ReleaseReview.Text.Digit
import ReleaseReview.Text.Letter

/-!
# The tokens of a written date

A written date falls into words, numbers and single marks; every blank is the mark `' '`. A word or
a number goes on over a point, and a number of two digits or more over a comma, as long as letters
follow a point after letters and digits a point after digits. What was read that way is taken apart
again at the points and commas if letters are in it, if it has two points, or if it ends in a point
or comma; otherwise it is one number, and a comma in it is a decimal point.
-/

namespace ReleaseReview.Calendar

open Text

/-- A token: its characters. -/
abbrev Token := List Char

/-- What the token being read is so far. -/
inductive Shape where
  | word
  | number
  /-- A word with a point after it. -/
  | dottedWord
  /-- A number with a point or comma after it. -/
  | dottedNumber
  deriving DecidableEq, Repr

/-- Takes a token apart at its points and commas, which become tokens of their own. -/
def splitPoints (token : Token) : List Token :=
  let (part, parts) := token.foldr
    (fun c (part, parts) =>
      if c = '.' ∨ c = ',' then ([], [c] :: (if part.isEmpty then parts else part :: parts))
      else (c :: part, parts))
    ([], [])
  if part.isEmpty then parts else part :: parts

/-- The tokens that a finished token gives. `letters` tells whether a character was read after a
letter in it. -/
def finish (shape : Shape) (letters : Bool) (token : Token) : List Token :=
  match shape with
  | .word | .number => [token]
  | .dottedWord | .dottedNumber =>
    let last := token.getLast?
    if letters || 1 < token.count '.' || last == some '.' || last == some ',' then splitPoints token
    else if shape = .dottedNumber ∧ ¬ '.' ∈ token then
      [token.map fun c => if c = ',' then '.' else c]
    else [token]

/-- The shape of the token that a character starts; nothing if the character is a mark. -/
def startShape? (c : Char) : Option Shape :=
  if isLetter c then some .word else if isDigitSign c then some .number else none

/-- A character that is a token by itself. -/
def mark (c : Char) : Token :=
  [if isBlank c then ' ' else c]

/-- How a token that ends in `last` goes on with `c`: the shape it then has, or not at all. -/
def continue? (shape : Shape) (length : Nat) (last : Option Char) (c : Char) : Option Shape :=
  match shape with
  | .word => if isLetter c then some .word else if c = '.' then some .dottedWord else none
  | .number =>
    if isDigitSign c then some .number
    else if c = '.' ∨ (c = ',' ∧ 2 ≤ length) then some .dottedNumber
    else none
  | .dottedWord =>
    if c = '.' ∨ isLetter c then some .dottedWord
    else if isDigitSign c ∧ last = some '.' then some .dottedNumber
    else none
  | .dottedNumber =>
    if c = '.' ∨ isDigitSign c then some .dottedNumber
    else if isLetter c ∧ last = some '.' then some .dottedWord
    else none

/-- The token being read: its shape, whether a character was read after a letter in it, and its
characters in reverse. -/
structure Unfinished where
  shape : Shape
  letters : Bool
  reversed : List Char

/-- The tokens of what was read of one. -/
def Unfinished.finish (p : Unfinished) : List Token :=
  Calendar.finish p.shape p.letters p.reversed.reverse

/-- The tokens of the text after what is being read. -/
def tokensFrom : Option Unfinished → List Char → List Token
  | none, [] => []
  | some p, [] => p.finish
  | none, c :: cs =>
    match startShape? c with
    | some shape => tokensFrom (some ⟨shape, false, [c]⟩) cs
    | none => mark c :: tokensFrom none cs
  | some p, c :: cs =>
    let letters := p.letters || p.shape == .word || p.shape == .dottedWord
    match continue? p.shape p.reversed.length p.reversed.head? c with
    | some shape => tokensFrom (some ⟨shape, letters, c :: p.reversed⟩) cs
    | none =>
      Unfinished.finish { p with letters } ++
        match startShape? c with
        | some shape => tokensFrom (some ⟨shape, false, [c]⟩) cs
        | none => mark c :: tokensFrom none cs

/-- The tokens of a text; the null character is passed over. -/
def tokens (text : List Char) : List Token :=
  tokensFrom none (text.filter (·.toNat != 0))

end ReleaseReview.Calendar
