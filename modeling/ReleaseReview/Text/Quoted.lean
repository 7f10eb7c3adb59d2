import ReleaseReview.Text.Point
import ReleaseReview.Text.Printable

/-!
# Quoted text

A text in quotes, on one line and in printable characters only. Single quotes are used unless the
text has a single quote and no double quote. The quote in use and the backslash are escaped, and so
is every point that is not printable: by a letter for tab and the line ends, else by its code in
hexadecimal.
-/

namespace ReleaseReview.Text

/-- The lowest `width` hexadecimal digits of a number. -/
def hexDigits : Nat → Nat → List Char
  | 0, _ => []
  | width + 1, n => hexDigits width (n / 16) ++ [Nat.digitChar (n % 16)]

/-- A code point as an escape, in the shortest of the three widths that holds it. -/
def codeEscape (n : Nat) : List Char :=
  if n < 0x100 then '\\' :: 'x' :: hexDigits 2 n
  else if n < 0x10000 then '\\' :: 'u' :: hexDigits 4 n
  else '\\' :: 'U' :: hexDigits 8 n

/-- A point as it stands between two `quote` characters. -/
def escapePoint (quote : Char) : Point → List Char
  | .half n => codeEscape n
  | .scalar c =>
    if c = quote ∨ c = '\\' then ['\\', c]
    else if c = '\t' then ['\\', 't']
    else if c = '\n' then ['\\', 'n']
    else if c = '\r' then ['\\', 'r']
    else if isPrintable c then [c]
    else codeEscape c.toNat

/-- The quote that a text is put in. -/
def quoteOf (ps : List Point) : Char :=
  if ps.contains (.scalar '\'') && !ps.contains (.scalar '"') then '"' else '\''

/-- The text in quotes. -/
def quotedPoints (ps : List Point) : String :=
  let quote := quoteOf ps
  String.ofList (quote :: (ps.flatMap (escapePoint quote) ++ [quote]))

/-- The plain text in quotes. -/
def quoted (s : String) : String :=
  quotedPoints (points s)

end ReleaseReview.Text
