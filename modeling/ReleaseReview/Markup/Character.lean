/-!
# Characters of markup

The blanks between the parts of a tag, the characters of the names of elements and attributes, and
the characters that may stand in markup at all. The null character is none of them: it ends names,
values and tags, and counts as a blank in running text.
-/

namespace ReleaseReview.Markup

/-- The blanks between the parts of a tag. -/
def isTagBlank (c : Char) : Bool :=
  c == ' ' || c == '\t' || c == '\n' || c == '\r'

/-- Can the character start a name? -/
def startsName (c : Char) : Bool :=
  c.isAlpha || c == '_' || c == ':' || c == '.'

/-- Can the character stand in a name? -/
def isNameChar (c : Char) : Bool :=
  c.isAlphanum || c == ':' || c == '_' || c == '.' || c == '-'

/-- May the code point stand in markup? -/
def isAllowed (n : Nat) : Bool :=
  n == 0x9 || n == 0xA || n == 0xD || (decide (0x20 ≤ n) && decide (n ≤ 0xD7FF)) ||
    (decide (0xE000 ≤ n) && decide (n ≤ 0xFFFD)) || (decide (0x10000 ≤ n) && decide (n ≤ 0x10FFFF))

/-- The null character. -/
def nullChar : Char := '\x00'

/-- Running text with a blank for each null character. -/
def blankNulls (cs : List Char) : List Char :=
  cs.map fun c => if c = nullChar then ' ' else c

/-- Running text as it is kept: null characters are blanks, and what may not stand in markup is
left out. -/
def keptText (cs : List Char) : List Char :=
  (blankNulls cs).filter fun c => isAllowed c.toNat

/-- The text up to the first `c` or null character, and the text from there on. -/
def cutBefore (c : Char) (cs : List Char) : List Char × List Char :=
  cs.span fun d => d != c && d != nullChar

/-- What stands after the bracket that ends a tag; a null character ends it as well, and is not
passed over. -/
def afterBracket (cs : List Char) : List Char :=
  match (cutBefore '>' cs).2 with
  | '>' :: rest => rest
  | rest => rest

end ReleaseReview.Markup
