import ReleaseReview.Report.Review

/-!
# Releases in files

A release in a file is read as text, in which every line ends in the same way. There is a standard
file to read, unless another one is named.
-/

namespace ReleaseReview.Console

/-- The text with every line end the same: a carriage return, alone or before a line feed, becomes a
line feed. -/
def plainLines : List Char → List Char
  | '\r' :: '\n' :: cs => '\n' :: plainLines cs
  | '\r' :: cs => '\n' :: plainLines cs
  | c :: cs => c :: plainLines cs
  | [] => []

/-- The text of a file. -/
def fileText (content : String) : String :=
  String.ofList (plainLines content.toList)

/-- The file to read for a path, which may be missing or empty: then it is the standard one. -/
def fileFor (standard : String) (path : Option String) : String :=
  match path with
  | some path => if path.isEmpty then standard else path
  | none => standard

/-- What is said of a file without text. -/
def notRead : String := "XML wasn't read"

/-- The report on the release in a file; nothing if the file has no text. -/
def reportOnFile (isDate : DateReader) (content : String) : Except Fault (Option String) := do
  let text := fileText content
  if text.isEmpty then return none
  return some (← reportText isDate text)

end ReleaseReview.Console
