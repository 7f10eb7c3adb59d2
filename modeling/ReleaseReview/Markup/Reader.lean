import ReleaseReview.Markup.Doctype
import ReleaseReview.Markup.Nesting

/-!
# Reading markup

Markup is read as leniently as it can be: every text is some list of events. Reading goes from
piece to piece: a tag, a comment, an instruction, a declaration or a run of text. It ends with the
text, or with an end tag after which no element is open.
-/

namespace ReleaseReview.Markup

/-! ## Comments and instructions -/

/-- The content of a comment up to its end, and what stands after that; nothing if it does not end.
-/
def cutComment : List Char → Option (List Char × List Char)
  | [] => none
  | '-' :: '-' :: '>' :: cs => some ([], cs)
  | '-' :: '-' :: '!' :: '>' :: cs => some ([], cs)
  | c :: cs => (cutComment cs).map fun (content, rest) => (c :: content, rest)

/-- A comment after its start, and what stands after it. -/
def readComment (cs : List Char) : Option Event × List Char :=
  match cs with
  | '>' :: rest => (some (.comment []), rest)
  | '-' :: '>' :: rest => (some (.comment []), rest)
  | cs =>
    match cutComment cs with
    | some (content, rest) => (some (.comment (keptText content)), rest)
    | none => (none, [])

/-- An instruction after its start, and what stands after it. Its content is its name, a blank and
the rest; what has no name is text. -/
def readInstruction (cs : List Char) : Option Event × List Char :=
  match readFullName cs with
  | none => (none, cs)
  | some (name, '>' :: rest) => (some (.instruction (name ++ [' '])), rest)
  | some (name, rest) =>
    match (rest.dropWhile isTagBlank).span (· != '>') with
    | (content, _ :: rest) => (some (.instruction (name ++ ' ' :: keptText content)), rest)
    | (_, []) => (none, [])

/-- A declaration after its start, and what stands after it. One that is neither a comment nor a
document type is passed over. -/
def readDeclaration (cs : List Char) : Option Event × List Char :=
  match cs with
  | '-' :: '-' :: rest => readComment rest
  | cs =>
    if startsWithWord "doctype".toList cs then
      let (content, rest) := readDoctype (cs.drop 7)
      (some (.doctype content), rest)
    else (none, afterBracket cs)

/-! ## Pieces -/

/-- Adds an event, if there is one. -/
def Scan.emit? (s : Scan) : Option Event → Scan
  | some event => s.emit event
  | none => s

/-- A start tag after its first bracket. -/
def readStart (s : Scan) (cs : List Char) : Scan × List Char :=
  let (name, rest) := readName cs
  let (attributes, rest) := readAttributes rest
  let s := (s.makeRoom name).takeStart ⟨name, attributes⟩
  match rest with
  | '/' :: '>' :: rest => (s.leave, rest)
  | '>' :: rest => (if s.opened.head?.any voidElements.contains then s.leave else s, rest)
  | rest => (s.forget, rest)

/-- An end tag after its first two characters. Nothing is read after one that leaves no element
open. -/
def readEnd (s : Scan) (cs : List Char) : Scan × List Char :=
  let (s, rest) :=
    if cs.head?.any startsName then
      let (name, rest) := readName cs
      (s.takeEnd name, afterBracket rest)
    else (s, cs)
  (s, if s.opened.isEmpty then [] else rest)

/-- A run of text; it needs a paragraph unless it is blank. -/
def readRun (s : Scan) (run : List Char) : Scan :=
  let s := if (keptText run).all isTagBlank then s else s.paragraph
  let text := runText run
  if text.isEmpty then s else s.emit (.text text)

/-- A piece of markup at the start of a text. -/
def readMarkup (s : Scan) : List Char → Scan × List Char
  | '<' :: '/' :: cs => readEnd s cs
  | '<' :: '!' :: cs =>
    let (event, rest) := readDeclaration cs
    (s.emit? event, rest)
  | '<' :: '?' :: cs =>
    let (event, rest) := readInstruction cs
    (s.emit? event, rest)
  | '<' :: cs =>
    if cs.head?.any startsName then readStart s cs else (s.paragraph.emit (.text ['<']), cs)
  | cs =>
    let (run, rest) := cs.span (· != '<')
    (readRun s run, rest)

/-- Does an end tag start here, or one whose name starts with this name? -/
def startsEndTag (name : List Char) : List Char → Bool
  | '<' :: '/' :: cs => startsWithWord name cs
  | _ => false

/-- The text up to an end tag for the name, and the text from there on. -/
def cutRaw (name : List Char) : List Char → List Char × List Char
  | [] => ([], [])
  | c :: cs =>
    if startsEndTag name (c :: cs) then ([], c :: cs)
    else
      let (raw, rest) := cutRaw name cs
      (c :: raw, rest)

/-- A piece of an element whose content is no markup: the content, or the end tag after it. -/
def readRaw (s : Scan) (name : List Char) (cs : List Char) : Scan × List Char :=
  match cutRaw name cs with
  | ([], rest) => readEnd s (rest.drop 2)
  | (raw, rest) => (s.emit (.text (keptText raw)), rest)

/-- The last character of a text, if it is a plain one: it is text as it is, unless it could start
something. -/
def readLast (s : Scan) (c : Char) : Scan :=
  if c = '<' ∨ c = '&' then s
  else (if isTagBlank c then s else s.paragraph).emit (.text [c])

/-- The piece at the start of a text. A null character before it is passed over. -/
def readPiece (s : Scan) (cs : List Char) : Scan × List Char :=
  match cs with
  | [] => (s, [])
  | c :: rest =>
    if c = nullChar then (s, rest)
    else if rest.isEmpty && c.toNat < 0x80 then (readLast s c, [])
    else
      match s.opened.head? with
      | some name => if rawElements.contains name then readRaw s name.toList cs else readMarkup s cs
      | none => readMarkup s cs

/-- The pieces of a text, at most `fuel` of them. -/
def readPieces : Nat → Scan → List Char → Scan
  | 0, s, _ => s
  | _, s, [] => s
  | fuel + 1, s, cs =>
    let (s, rest) := readPiece s cs
    readPieces fuel s rest

/-- Is a piece that goes on to the end of the text a whole one? -/
def isWhole (cs : List Char) : Bool :=
  cs.head? == some '<' && cs.getLast? == some '>'

/-- What follows the whole pieces of a text, at most `fuel` of them. -/
def afterWhole : Nat → Scan → List Char → List Char
  | 0, _, cs => cs
  | _, _, [] => []
  | fuel + 1, s, cs =>
    let (s, rest) := readPiece s cs
    if rest.isEmpty && !isWhole cs then cs else afterWhole fuel s rest

/-- The whole pieces of a text that breaks off. -/
def wholePieces (cs : List Char) : List Char :=
  cs.take (cs.length - (afterWhole cs.length .empty cs).length)

/-- The mark at the start of a text that tells the order of its bytes. -/
def byteOrderMark : Char := '\ufeff'

/-- The text without the mark at its start. -/
def withoutMark : List Char → List Char
  | [] => []
  | c :: cs => if c = byteOrderMark then cs else c :: cs

/-- The events of a text; every piece takes at least one character. -/
def events (text : String) : List Event :=
  let cs := withoutMark text.toList
  (readPieces cs.length .empty cs).events.reverse

end ReleaseReview.Markup
