import ReleaseReview.Json.Basic
import ReleaseReview.Number.Decimal
import ReleaseReview.Text.Quoted

/-!
# Writing JSON

`Json.render` writes a document on one line and in ASCII: a blank follows each comma and each colon,
and every point outside the printable ASCII characters is escaped, those beyond sixteen bits as a
surrogate pair. The three floating-point values that are not finite have words of their own.
-/

namespace ReleaseReview.Json

open Text (Point hexDigits)

/-- One sixteen-bit unit as an escape. -/
def unitEscape (n : Nat) : List Char :=
  '\\' :: 'u' :: hexDigits 4 n

/-- A point as it stands in a string. -/
def renderPoint (p : Point) : List Char :=
  match p.code with
  | 0x22 => ['\\', '"']
  | 0x5c => ['\\', '\\']
  | 0x0a => ['\\', 'n']
  | 0x0d => ['\\', 'r']
  | 0x09 => ['\\', 't']
  | 0x0c => ['\\', 'f']
  | 0x08 => ['\\', 'b']
  | n =>
    if 0x20 ≤ n ∧ n < 0x7f then [Char.ofNat n]
    else if n < 0x10000 then unitEscape n
    else unitEscape (0xd800 + (n - 0x10000) / 0x400) ++ unitEscape (0xdc00 + (n - 0x10000) % 0x400)

/-- A string with its quotes. -/
def renderString (s : List Point) : String :=
  String.ofList ('"' :: (s.flatMap renderPoint ++ ['"']))

/-- A floating-point number. -/
def renderFloat (x : Float) : String :=
  if x.isNaN then "NaN"
  else if x.isInf then if x < 0 then "-Infinity" else "Infinity"
  else Number.floatText x

/-- A number. -/
def renderNumber : Number → String
  | .int n => Number.intText n
  | .float x => renderFloat x

mutual

/-- The text of a document. -/
def render : Json → String
  | .null => "null"
  | .bool true => "true"
  | .bool false => "false"
  | .num n => renderNumber n
  | .str s => renderString s
  | .arr items => "[" ++ renderItems items ++ "]"
  | .obj fields => "\x7b" ++ renderFields fields ++ "\x7d"

/-- The items of an array, with commas between them. -/
def renderItems : List Json → String
  | [] => ""
  | [item] => item.render
  | item :: items => item.render ++ ", " ++ renderItems items

/-- The members of an object, with commas between them. -/
def renderFields : List (List Point × Json) → String
  | [] => ""
  | [(name, value)] => renderString name ++ ": " ++ value.render
  | (name, value) :: fields =>
    renderString name ++ ": " ++ value.render ++ ", " ++ renderFields fields

end

end ReleaseReview.Json
