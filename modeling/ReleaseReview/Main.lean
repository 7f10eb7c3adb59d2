import ReleaseReview.Calendar.Recognise
import ReleaseReview.Console.Listing

/-!
# The command line

Reads a release from the standard input. Without an argument it prints the report on the release,
with the argument `list` a listing of it. A date is what the calendar recognises.
-/

namespace ReleaseReview

/-- The rest of a stream as text. -/
partial def readAll (stream : IO.FS.Stream) (before : String) : IO String := do
  let line ← stream.getLine
  if line.isEmpty then return before else readAll stream (before ++ line)

/-- Prints a listing, and the fault that ended it. -/
def printListing (content : String) : IO UInt32 := do
  let account := Console.listRelease Calendar.recognise content
  for line in account.notes do
    IO.println line
  match account.result with
  | .ok () => return 0
  | .error fault =>
    IO.eprintln fault.message
    return 1

/-- Prints the report on a release, or the fault that prevented it. -/
def printReport (content : String) : IO UInt32 :=
  match Console.reportOnFile Calendar.recognise content with
  | .ok (some report) => do
    IO.println report
    return 0
  | .ok none => do
    IO.println Console.notRead
    return 0
  | .error fault => do
    IO.eprintln fault.message
    return 1

end ReleaseReview

/-- Runs the command line. -/
def main (args : List String) : IO UInt32 := do
  let content ← ReleaseReview.readAll (← IO.getStdin) ""
  if args = ["list"] then ReleaseReview.printListing content else ReleaseReview.printReport content
