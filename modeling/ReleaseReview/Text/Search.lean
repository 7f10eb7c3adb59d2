/-!
# Searching in text

Where a word occurs, what stands around it, and the text cut at it or without it. The functions on
`List Char` carry the meaning; those on `String` pass to them.
-/

namespace ReleaseReview.Text

/-- Does `word` stand somewhere in the text? -/
def occursIn (word : List Char) : List Char → Bool
  | [] => word.isEmpty
  | c :: cs => word.isPrefixOf (c :: cs) || occursIn word cs

/-- What follows the first place where `word` stands in the text. -/
def afterFirst? (word : List Char) : List Char → Option (List Char)
  | [] => if word.isEmpty then some [] else none
  | c :: cs =>
    if word.isPrefixOf (c :: cs) then some ((c :: cs).drop word.length) else afterFirst? word cs

/-- Replaces every occurrence of `word` by `new`, from the left; `skip` characters of an occurrence
are still to be passed over. -/
def replaceFrom (word new : List Char) : Nat → List Char → List Char
  | _, [] => []
  | skip + 1, _ :: cs => replaceFrom word new skip cs
  | 0, c :: cs =>
    if word.isPrefixOf (c :: cs) then new ++ replaceFrom word new (word.length - 1) cs
    else c :: replaceFrom word new 0 cs

/-- Cuts the text at every occurrence of `mark`, from the left; `part` holds the current part in
reverse, and `skip` characters of a mark are still to be passed over. -/
def cutFrom (mark : List Char) : Nat → List Char → List Char → List (List Char)
  | _, part, [] => [part.reverse]
  | skip + 1, part, _ :: cs => cutFrom mark skip part cs
  | 0, part, c :: cs =>
    if mark.isPrefixOf (c :: cs) then part.reverse :: cutFrom mark (mark.length - 1) [] cs
    else cutFrom mark 0 (c :: part) cs

/-- The index of the last `c` in the text. -/
def lastIndex? (c : Char) (cs : List Char) : Option Nat :=
  (cs.reverse.findIdx? (· == c)).map fun i => cs.length - 1 - i

/-- Does `word` stand somewhere in `text`? -/
def occurs (word text : String) : Bool :=
  occursIn word.toList text.toList

/-- Does one of the words stand somewhere in `text`? -/
def anyOccurs (words : List String) (text : String) : Bool :=
  words.any fun word => occurs word text

/-- The text without any occurrence of `word`. -/
def without (word text : String) : String :=
  String.ofList (replaceFrom word.toList [] 0 text.toList)

/-- The parts of the text between the occurrences of `mark`. -/
def cut (mark text : String) : List String :=
  (cutFrom mark.toList 0 [] text.toList).map String.ofList

theorem occursIn_iff {word text : List Char} : occursIn word text = true ↔ word <:+: text := by
  induction text with
  | nil => simp [occursIn, List.infix_nil]
  | cons c cs ih => simp [occursIn, List.infix_cons_iff, ih]

theorem length_cutFrom_pos (mark : List Char) (skip : Nat) (part cs : List Char) :
    0 < (cutFrom mark skip part cs).length := by
  induction cs generalizing skip part with
  | nil => simp [cutFrom]
  | cons c cs ih =>
    cases skip with
    | zero => simp only [cutFrom]; split <;> simp [ih]
    | succ n => simpa [cutFrom] using ih n part

end ReleaseReview.Text
