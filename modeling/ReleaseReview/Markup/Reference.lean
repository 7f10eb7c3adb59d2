import ReleaseReview.Markup.Character
import ReleaseReview.Markup.Entity

/-!
# References

An ampersand starts a reference to a character, by name or by number. A reference that means
nothing stands for itself. A number that belongs to no character that may stand in markup is read
as the null character: in running text it is left out, and in the value of an attribute it ends the
value.
-/

namespace ReleaseReview.Markup

/-- The character with a code point that may stand in markup, else the null character. -/
def allowedChar (n : Nat) : Char :=
  if isAllowed n then Char.ofNat n else nullChar

/-- The value of a hexadecimal digit. -/
def hexValue? (c : Char) : Option Nat :=
  if '0' ≤ c ∧ c ≤ '9' then some (c.toNat - '0'.toNat)
  else if 'a' ≤ c ∧ c ≤ 'f' then some (c.toNat - 'a'.toNat + 10)
  else if 'A' ≤ c ∧ c ≤ 'F' then some (c.toNat - 'A'.toNat + 10)
  else none

/-- The digits at the start of a text, in a base of at most sixteen. -/
def leadingDigits (base : Nat) (cs : List Char) : List Nat :=
  match cs with
  | [] => []
  | c :: cs =>
    match hexValue? c with
    | some d => if d < base then d :: leadingDigits base cs else []
    | none => []

/-- A reference by number, after `lead` characters of it: its character, and how many characters it
is long. The semicolon after it may be missing. -/
def numberReference (base lead : Nat) (cs : List Char) : List Char × Nat :=
  let digits := leadingDigits base cs
  let value := digits.foldl (fun n d => min (base * n + d) 0x110000) 0
  let semicolon := if cs[digits.length]? = some ';' then 1 else 0
  ([allowedChar value], lead + digits.length + semicolon)

/-- What stands after an ampersand: the characters that the ampersand and it stand for, and how
many characters it is long. A name without a semicolon, and one that means nothing, stand for
themselves. -/
def reference : List Char → List Char × Nat
  | '#' :: 'x' :: cs => numberReference 16 2 cs
  | '#' :: 'X' :: cs => numberReference 16 2 cs
  | '#' :: cs => numberReference 10 1 cs
  | cs =>
    let name := cs.takeWhile isNameChar
    match if cs[name.length]? = some ';' then entity? (String.ofList name) else none with
    | some c => ([c], name.length + 1)
    | none => ('&' :: name, name.length)

/-- A text with its references resolved. `skip` characters of a reference are still to be passed
over. -/
def resolve : Nat → List Char → List Char
  | _, [] => []
  | skip + 1, _ :: cs => resolve skip cs
  | 0, c :: cs =>
    if c = '&' then
      let (meant, length) := reference cs
      meant ++ resolve length cs
    else c :: resolve 0 cs

/-- The text that a run of running text stands for. -/
def runText (run : List Char) : List Char :=
  (resolve 0 (blankNulls run)).filter fun c => isAllowed c.toNat

/-- The value of an attribute, up to a reference to no character. -/
def attributeValue (written : List Char) : String :=
  String.ofList ((resolve 0 written).takeWhile (· != nullChar))

end ReleaseReview.Markup
