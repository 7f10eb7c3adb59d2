import ReleaseReview.Text.CaseTable
import ReleaseReview.Text.Range

/-!
# Lower case

`lower` maps every character to its lower-case partner. Two characters need more than a partner:
the dotted capital I becomes an i and a combining dot, and the capital sigma is written in its
final form at the end of a word, that is after a cased letter and not before one, where marks and
joiners between are passed over.
-/

namespace ReleaseReview.Text

/-- The lower-case partner of a character, itself if it has none. -/
def lowerChar (c : Char) : Char :=
  let n := c.toNat
  if n < 0x80 then
    if 0x41 ≤ n ∧ n ≤ 0x5a then Char.ofNat (n + 0x20) else c
  else
    match caseRuns.find? fun r => decide (r.first ≤ n) && decide (n ≤ r.last) &&
        (n - r.first) % r.stride == 0 with
    | some r => Char.ofNat (r.target + (n - r.first))
    | none => c

/-- Does a cased letter come first among the characters that are not passed over? -/
def startsCased : List Char → Bool
  | [] => false
  | c :: cs =>
    if inRanges caseIgnorableRanges c.toNat then startsCased cs else inRanges casedRanges c.toNat

/-- Lower case of the text `cs`, whose preceding characters are `before`, nearest first. -/
def lowerAfter (before : List Char) : List Char → List Char
  | [] => []
  | c :: cs =>
    (if c = 'Σ' then
      [if startsCased before && !startsCased cs then 'ς' else 'σ']
    else if c = 'İ' then ['i', '\u0307']
    else [lowerChar c]) ++ lowerAfter (c :: before) cs

/-- The text in lower case. -/
def lower (s : String) : String :=
  String.ofList (lowerAfter [] s.toList)

end ReleaseReview.Text
