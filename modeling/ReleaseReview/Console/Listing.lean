import ReleaseReview.Check.EnvironmentData
import ReleaseReview.Console.File

/-!
# Listing a release

A listing names the objects, processes and queues of a release, and then goes through its objects
to say what data of an environment is in them. It is an `Account` of the lines it prints, so that
they are kept when a fault ends it.
-/

namespace ReleaseReview.Console

open Markup Text

/-- What the lines that tell how long something took start with. -/
def timings : List String :=
  ["Time to extract", "Consideration Time: ", "Full Process Speed: "]

/-- Does the line tell how long something took? -/
def isTiming (line : String) : Bool :=
  timings.any fun start => start.toList.isPrefixOf line.toList

/-- Prints a text and a line end. Lines that tell how long something took are left out. -/
def say (text : String) : Account String Unit :=
  ⟨(cut "\n" text).filter fun line => !isTiming line, .ok ()⟩

/-- Prints each of the texts. -/
def sayEach : List String → Account String Unit
  | [] => pure ()
  | text :: texts => do
    say text
    sayEach texts

/-- Prints the name of each of the nodes. -/
def sayNames : List Node → Account String Unit
  | [] => pure ()
  | node :: nodes => do
    say (shown (← node.attr "name"))
    sayNames nodes

/-- Prints a heading after an empty line, and the names of the nodes under it. -/
def listNames (heading : String) (nodes : List Node) : Account String Unit := do
  say ("\n" ++ heading)
  sayNames nodes

/-- The facts about an object of a release in production. -/
def productionFacts (kind : Kind) : Facts where
  kind := .ok kind
  surfaceUsed := .error (.noKey "Surface Automation Used?")
  inProduction := .ok true

/-- Prints what an object's check for the data of an environment says. -/
def sayRemarks (isDate : DateReader) (object : Placed) (kind : Kind) : Account String Unit := do
  let remarks := environmentRemarks isDate object (productionFacts kind)
  sayEach (remarks.notes.filterMap Remark.said)
  Account.of (remarks.result.map fun _ => ())

/-- Prints the name and kind of an object and what is said of it. A leaf has no name. -/
def listObject (isDate : DateReader) : Except LeafKind Placed → Account String Unit
  | .error kind => Account.of (.error (.noMember kind.word "get"))
  | .ok object => do
    let name ← need "lower" (object.attr? "name")
    let classified ← classify (lower name) object
    say ("\n=== Current Object: " ++ name ++ " (" ++ classified.kind.name ++ ") ===")
    sayRemarks isDate object classified.kind

/-- Lists each of the objects. -/
def listObjects (isDate : DateReader) : List (Except LeafKind Placed) → Account String Unit
  | [] => pure ()
  | object :: objects => do
    listObject isDate object
    listObjects isDate objects

/-- Lists the release in a file. -/
def listRelease (isDate : DateReader) (content : String) : Account String Unit := do
  say "__main__ running for UnitTesting"
  say "Extracting without multi-processing xml"
  let release := Release.read (fileText content)
  listNames "Objects:" release.objects
  listNames "Processes:" release.processes
  listNames "Queue:" release.queues
  listObjects isDate (placed release.objects)
  say ""
  say ""

/-! ## Single objects -/

/-- Was the element exported with the version of the program in it? -/
def hasVersion (e : Element) : Bool :=
  e.hasAttr "bpversion"

/-- Prints the names of all pages in an object. -/
def listActions (object : Placed) : Except Fault (List String) := do
  let names ← (object.placedWithin "subsheet").mapM pageName
  return ["", "---", ""] ++ names.flatMap fun name => cut "\n" (shown name)

/-- Prints the name of the first node in an element. -/
def listFirstName (e : Element) : Except Fault (List String) :=
  match e.children with
  | [] => .error .outOfRange
  | node :: _ => do return ["", "---", ""] ++ cut "\n" (shown (← node.attr "name"))

end ReleaseReview.Console
