import ReleaseReview.Encoding.Charset
import ReleaseReview.Text.Search

/-!
# Declared character sets

Markup that comes as bytes can say near its start in which character set it is written: in an
instruction on its first line, or else in a `meta` tag. A text that starts with the mark for the
order of its bytes is UTF-8, whatever it says.
-/

namespace ReleaseReview.Encoding

open Text

/-- Each byte as the character of its number. -/
def byteChars (text : String) : List Char :=
  text.toUTF8.toList.map fun b => Char.ofNat b.toNat

/-- The blanks around the parts of a declaration. -/
def isSpace (c : Char) : Bool :=
  c == ' ' || (decide (0x9 ≤ c.toNat) && decide (c.toNat ≤ 0xd))

/-- What follows a word at the start of a text, in letters of any case. -/
def afterWord? (word : List Char) (cs : List Char) : Option (List Char) :=
  if (cs.take word.length).map Char.toLower = word then some (cs.drop word.length) else none

/-- The last that `p` finds, looking at every place in a text. -/
def findLast? {α : Type} (p : List Char → Option α) : List Char → Option α
  | [] => p []
  | c :: cs => (findLast? p cs).or (p (c :: cs))

/-- The first that `p` finds, looking at every place in a text. -/
def findFirst? {α : Type} (p : List Char → Option α) : List Char → Option α
  | [] => p []
  | c :: cs => (p (c :: cs)).or (findFirst? p cs)

/-! ## In an instruction -/

def isQuote (c : Char) : Bool :=
  c == '"' || c == '\''

/-- The name between quotes after `encoding=`, if the end of an instruction follows. -/
def encodingHere? (cs : List Char) : Option (List Char) := do
  match ← afterWord? "encoding=".toList cs with
  | [] => none
  | quote :: rest =>
    match isQuote quote, rest.span fun c => !isQuote c with
    | true, (name, _ :: after) => if occursIn ['?', '>'] after then some name else none
    | _, _ => none

/-- The length of the start of a text in which an instruction declares a character set. -/
def prologLength : Nat := 1024

/-- The name that an instruction at the start declares, the last if there are several. -/
def inProlog? (cs : List Char) : Option (List Char) :=
  match (cs.take prologLength).dropWhile isSpace with
  | '<' :: '?' :: rest => findLast? encodingHere? (rest.takeWhile (· != '\n'))
  | _ => none

/-! ## In a tag -/

/-- What ends a name in a tag. -/
def endsCharset (c : Char) : Bool :=
  isQuote c || c == ' ' || c == '/' || c == ';' || c == '>'

/-- The name up to what ends it; it has to end. -/
def charsetName? (cs : List Char) : Option (List Char) :=
  match cs.span fun c => !endsCharset c with
  | (name, _ :: _) => some name
  | (_, []) => none

/-- The name after `charset` and a sign of equality. -/
def charsetHere? (cs : List Char) : Option (List Char) := do
  match ((← afterWord? "charset".toList cs).dropWhile isSpace) with
  | '=' :: rest =>
    match rest.dropWhile isSpace with
    | c :: rest => if isQuote c then (charsetName? rest).or (some []) else charsetName? (c :: rest)
    | [] => none
  | _ => none

/-- The last name in a tag. -/
def lastCharset? : List Char → Option (List Char)
  | [] => none
  | c :: cs => if c = '>' then none else (lastCharset? cs).or (charsetHere? (c :: cs))

/-- The name that a `meta` tag here declares, the last if there are several. -/
def metaHere? : List Char → Option (List Char)
  | '<' :: cs => do
    match ← afterWord? "meta".toList (cs.dropWhile isSpace) with
    | [] => none
    | c :: rest => if c = '>' then none else lastCharset? rest
  | _ => none

/-- The length of the start of a text in which a tag declares a character set. -/
def metaLength (length : Nat) : Nat :=
  max 2048 (length / 20)

/-- The name that the first `meta` tag with one declares. -/
def inMeta? (cs : List Char) : Option (List Char) :=
  findFirst? metaHere? (cs.take (metaLength cs.length))

/-! ## The text -/

/-- The character set that a text declares; UTF-8 if it declares none. -/
def declared (text : String) : Charset :=
  let cs := byteChars text
  .named (String.ofList (((inProlog? cs).or (inMeta? cs)).getD [] |>.map Char.toLower))

/-- What a text says in the character set that it declares. -/
def decoded (text : String) : String :=
  if text.toList.head? = some '\ufeff' then text else (declared text).reread text

end ReleaseReview.Encoding
