import ReleaseReview.Json.Basic
import ReleaseReview.Number.Literal

/-!
# Reading JSON

`Json.read` reads a document that fills a text. Beyond the standard it takes the words `NaN`,
`Infinity` and `-Infinity`. Where the text is no document, the answer says what was wrong and
where: the character's number from 0, and its line and column from 1. A control character may not
stand in a string, and of two members with one name the later value counts, in the place of the
first.
-/

namespace ReleaseReview.Json

open Text (Point)

/-! ## What can be wrong -/

/-- What is wrong at a place in the text. -/
inductive Problem where
  | expectingValue
  | expectingName
  | expectingColon
  | expectingComma
  | unterminated
  | badEscape
  | badCodeEscape
  | controlCharacter
  | extraData
  | byteOrderMark
  deriving DecidableEq, Repr

/-- A problem and the place where it was met. -/
structure Flaw where
  problem : Problem
  line : Nat
  column : Nat
  offset : Nat
  deriving DecidableEq, Repr

/-- Why a text could not be read. -/
inductive ReadError where
  | flaw (flaw : Flaw)
  /-- An integer with more digits than are converted. -/
  | tooManyDigits (digits : Nat)
  deriving DecidableEq, Repr

/-- The flaw at character number `offset` of the text. -/
def Flaw.at (problem : Problem) (offset : Nat) (text : List Char) : Flaw :=
  let before := text.take offset
  { problem
    line := before.count '\n' + 1
    column := (before.reverse.takeWhile (· != '\n')).length + 1
    offset }

/-- What ended the reading before its time: a problem at a character, or an integer with too many
digits. -/
inductive Stop where
  | problem (problem : Problem) (offset : Nat)
  | digits (count : Nat)

/-- A place in the text: the number of characters before it, and those after it. -/
structure Place where
  offset : Nat
  rest : List Char

/-- The place after `n` more characters. -/
def Place.skip (p : Place) (n : Nat) : Place :=
  ⟨p.offset + n, p.rest.drop n⟩

/-- Is the character a blank between the parts of a document? -/
def isSpace (c : Char) : Bool :=
  c == ' ' || c == '\t' || c == '\n' || c == '\r'

/-- The place after the blanks. -/
def Place.skipSpace (p : Place) : Place :=
  p.skip (p.rest.takeWhile isSpace).length

/-- The first character after the place. -/
def Place.next? (p : Place) : Option Char :=
  p.rest.head?

def Place.fail {α : Type} (p : Place) (problem : Problem) : Except Stop (α × Place) :=
  .error (.problem problem p.offset)

/-! ## Strings -/

/-- The value of a hexadecimal digit. -/
def hexValue? (c : Char) : Option Nat :=
  if '0' ≤ c ∧ c ≤ '9' then some (c.toNat - '0'.toNat)
  else if 'a' ≤ c ∧ c ≤ 'f' then some (c.toNat - 'a'.toNat + 10)
  else if 'A' ≤ c ∧ c ≤ 'F' then some (c.toNat - 'A'.toNat + 10)
  else none

/-- The value of four hexadecimal digits. -/
def hexCode? (cs : List Char) : Option Nat :=
  cs.foldlM (fun n c => (hexValue? c).map (16 * n + ·)) 0

def isHighHalf (n : Nat) : Bool := decide (0xd800 ≤ n) && decide (n ≤ 0xdbff)

def isLowHalf (n : Nat) : Bool := decide (0xdc00 ≤ n) && decide (n ≤ 0xdfff)

/-- The point with a code below `0x10000`. -/
def pointOfCode (n : Nat) : Point :=
  if isHighHalf n || isLowHalf n then .half n else .scalar (Char.ofNat n)

/-- The character that an escape letter stands for. -/
def escaped? : Char → Option Char
  | '"' => some '"'
  | '\\' => some '\\'
  | '/' => some '/'
  | 'b' => some '\x08'
  | 'f' => some '\x0c'
  | 'n' => some '\n'
  | 'r' => some '\r'
  | 't' => some '\t'
  | _ => none

/-- Reads the four digits of a code escape; `p` stands after the letter `u`. The digits may not be
the last characters of the text. -/
def readCode (p : Place) : Except Stop Nat :=
  match hexCode? (p.rest.take 4) with
  | some n => if p.rest.length < 5 then .error (.problem .badCodeEscape (p.offset - 1)) else .ok n
  | none => .error (.problem .badCodeEscape (p.offset - 1))

/-- The low half that completes a pair, if the text at `p` goes on with an escape for one. -/
def readLowHalf? (p : Place) : Except Stop (Option Nat) :=
  match p.rest with
  | '\\' :: 'u' :: rest =>
    if rest.length < 5 then .ok none
    else do
      let n ← readCode ⟨p.offset + 2, rest⟩
      return if isLowHalf n then some n else none
  | _ => .ok none

/-- Reads an escape; `p` stands after the backslash, and the string began at `start`. -/
def readEscape (start : Nat) (p : Place) : Except Stop (Point × Place) :=
  match p.rest with
  | [] => .error (.problem .unterminated start)
  | 'u' :: _ => do
    let n ← readCode (p.skip 1)
    let after := p.skip 5
    if isHighHalf n then
      match ← readLowHalf? after with
      | some m =>
        return (.scalar (Char.ofNat (0x10000 + (n - 0xd800) * 0x400 + (m - 0xdc00))), after.skip 6)
      | none => return (.half n, after)
    else return (pointOfCode n, after)
  | c :: _ =>
    match escaped? c with
    | some e => .ok (.scalar e, p.skip 1)
    | none => .error (.problem .badEscape (p.offset - 1))

/-- Reads a string up to and with its closing quote. `start` is the place of its opening quote, and
`read` holds the points so far in reverse. -/
def readString (start : Nat) : (fuel : Nat) → (read : List Point) → Place →
    Except Stop (List Point × Place)
  | 0, _, _ => .error (.problem .unterminated start)
  | fuel + 1, read, p =>
    match p.rest with
    | [] => .error (.problem .unterminated start)
    | '"' :: _ => .ok (read.reverse, p.skip 1)
    | '\\' :: _ => do
      let (point, p) ← readEscape start (p.skip 1)
      readString start fuel (point :: read) p
    | c :: _ =>
      if c.toNat < 0x20 then p.fail .controlCharacter
      else readString start fuel (.scalar c :: read) (p.skip 1)

/-! ## Numbers -/

/-- The length of the fraction that the text starts with: a point and at least one digit. -/
def fractionLength : List Char → Nat
  | '.' :: cs =>
    match (cs.takeWhile Char.isDigit).length with
    | 0 => 0
    | n + 1 => n + 2
  | _ => 0

/-- The length of the exponent that the text starts with: a mark, perhaps a sign, and digits. -/
def exponentLength : List Char → Nat
  | c :: cs =>
    if c = 'e' ∨ c = 'E' then
      let sign := match cs with
        | s :: _ :: _ => if s = '+' ∨ s = '-' then 1 else 0
        | _ => 0
      match ((cs.drop sign).takeWhile Char.isDigit).length with
      | 0 => 0
      | n + 1 => 1 + sign + (n + 1)
    else 0
  | [] => 0

/-- The length of the whole digits that the text starts with: a zero alone, or any run that does not
start with one. -/
def wholeLength : List Char → Nat
  | '0' :: _ => 1
  | cs => (cs.takeWhile Char.isDigit).length

/-- Reads a number. -/
def readNumber (p : Place) : Except Stop (Json × Place) :=
  let sign := if p.next? = some '-' then 1 else 0
  let digits := p.rest.drop sign
  let whole := wholeLength digits
  if whole = 0 then p.fail .expectingValue
  else
    let fraction := fractionLength (digits.drop whole)
    let exponent := exponentLength (digits.drop (whole + fraction))
    let length := sign + whole + fraction + exponent
    let text := p.rest.take length
    if fraction + exponent = 0 then
      if Number.digitLimit < whole then .error (.digits whole)
      else .ok (.int ((Number.int? text).getD 0), p.skip length)
    else .ok (.num (.float ((Number.float? text).getD 0)), p.skip length)

/-! ## Documents -/

/-- The documents that are single words. -/
def words : List (String × Json) :=
  [("null", .null), ("true", .bool true), ("false", .bool false),
   ("NaN", .num (.float (0.0 / 0.0))), ("Infinity", .num (.float (1.0 / 0.0))),
   ("-Infinity", .num (.float (-1.0 / 0.0)))]

/-- Reads a word or a number. -/
def readAtom (p : Place) : Except Stop (Json × Place) :=
  match words.find? fun w => w.1.toList.isPrefixOf p.rest with
  | some (w, value) => .ok (value, p.skip w.length)
  | none => readNumber p

mutual

/-- Reads a document. -/
def readValue : (fuel : Nat) → Place → Except Stop (Json × Place)
  | 0, p => p.fail .expectingValue
  | fuel + 1, p =>
    match p.rest with
    | [] => p.fail .expectingValue
    | '"' :: rest => do
      let (s, p) ← readString p.offset (rest.length + 1) [] (p.skip 1)
      return (.str s, p)
    | '[' :: _ =>
      let inside := (p.skip 1).skipSpace
      if inside.next? = some ']' then .ok (.arr [], inside.skip 1)
      else do
        let (items, p) ← readItems fuel inside
        return (.arr items, p)
    | '\x7b' :: _ =>
      let inside := (p.skip 1).skipSpace
      if inside.next? = some '\x7d' then .ok (.obj [], inside.skip 1)
      else do
        let (fields, p) ← readFields fuel [] inside
        return (.obj fields, p)
    | _ => readAtom p

/-- Reads the items of an array up to and with its closing bracket. -/
def readItems : (fuel : Nat) → Place → Except Stop (List Json × Place)
  | 0, p => p.fail .expectingValue
  | fuel + 1, p => do
    let (item, p) ← readValue fuel p
    let p := p.skipSpace
    match p.next? with
    | some ']' => return ([item], p.skip 1)
    | some ',' => do
      let (items, p) ← readItems fuel (p.skip 1).skipSpace
      return (item :: items, p)
    | _ => p.fail .expectingComma

/-- Reads the members of an object up to and with its closing brace; `fields` are those so far. -/
def readFields : (fuel : Nat) → (fields : List (List Point × Json)) → Place →
    Except Stop (List (List Point × Json) × Place)
  | 0, _, p => p.fail .expectingName
  | fuel + 1, fields, p =>
    if p.next? ≠ some '"' then p.fail .expectingName
    else do
      let (name, p) ← readString p.offset p.rest.length [] (p.skip 1)
      let p := p.skipSpace
      if p.next? ≠ some ':' then p.fail .expectingColon
      else do
        let (value, p) ← readValue fuel (p.skip 1).skipSpace
        let fields := put name value fields
        let p := p.skipSpace
        match p.next? with
        | some '\x7d' => return (fields, p.skip 1)
        | some ',' => readFields fuel fields (p.skip 1).skipSpace
        | _ => p.fail .expectingComma

end

/-- Reads a document and nothing after it. -/
def readWhole (cs : List Char) : Except Stop Json :=
  if cs.head? = some '\ufeff' then .error (.problem .byteOrderMark 0)
  else do
    let (value, p) ← readValue (2 * cs.length + 2) (Place.mk 0 cs).skipSpace
    let p := p.skipSpace
    if p.rest.isEmpty then .ok value else .error (.problem .extraData p.offset)

/-- Reads a document that fills the text. -/
def read (text : String) : Except ReadError Json :=
  match readWhole text.toList with
  | .ok value => .ok value
  | .error (.digits n) => .error (.tooManyDigits n)
  | .error (.problem problem offset) => .error (.flaw (.at problem offset text.toList))

end ReleaseReview.Json
