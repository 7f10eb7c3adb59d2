import ReleaseReview.Encoding.Declaration
import ReleaseReview.Json.Writer
import ReleaseReview.Report.Configuration
import ReleaseReview.Report.ObjectPage
import ReleaseReview.Report.Release

/-!
# Reviews

The review of a release is a report: the pages about its objects, then those about its processes,
then the settings page. `respond` answers a request for a review.
-/

namespace ReleaseReview

open Markup

/-- The page about a process. -/
def processPage (process : Element) : Except Fault Page :=
  match process.attr? "name" with
  | some name => .ok ⟨some name, .process, none, [], []⟩
  | none => .error (.notJoined "NoneType")

/-- The page with the settings of a configuration. -/
def settingsPage (configuration : Json) : Except Fault Page := do
  let settings ← configuration.member "settings"
  return ⟨some "Settings Page", .settings, none, [], ← settings.parts⟩

/-- What a page is to be made about. No page can be made about a leaf that stands among objects or
processes. -/
inductive Subject where
  | object (object : Placed)
  | process (process : Element)
  | leaf (kind : LeafKind)
  | settings

/-- The page about a subject. -/
def makePage (isDate : DateReader) (active : List Consideration) (configuration : Json) :
    Subject → Except Fault Page
  | .object object => objectPage isDate configuration active object
  | .process process => processPage process
  | .leaf kind => .error (.noMember kind.word "get")
  | .settings => settingsPage configuration

/-- The configuration after the page about a subject. -/
def configurationAfterPage (configuration : Json) : Subject → Json
  | .object object => configurationAfter configuration object
  | _ => configuration

/-- The pages about subjects, each with the configuration after it. -/
def makePages (isDate : DateReader) (active : List Consideration) (configuration : Json) :
    List Subject → List (Except Fault Page × Json)
  | [] => []
  | subject :: subjects =>
    let after := configurationAfterPage configuration subject
    (makePage isDate active configuration subject, after) ::
      makePages isDate active after subjects

namespace Subject

/-- A node among objects. -/
def ofObject : Except LeafKind Placed → Subject
  | .ok found => .object found
  | .error kind => .leaf kind

/-- A node among processes. -/
def ofProcess : Except LeafKind Placed → Subject
  | .ok found => .process found
  | .error kind => .leaf kind

end Subject

/-- The subjects of a release's report. -/
def subjectsOf (release : Release) : List Subject :=
  (placed release.objects).map .ofObject ++ (placed release.processes).map .ofProcess ++ [.settings]

/-- The report on the parts of a release. -/
def Release.report (isDate : DateReader) (release : Release) : Except Fault (List Page) := do
  let configuration ← configurationOf release.header
  let (active, _) ← activeConsiderations [] configuration
  ((makePages isDate active configuration (subjectsOf release)).map Prod.fst).mapM id

/-- The report on a release. -/
def reportOn (isDate : DateReader) (text : String) : Except Fault (List Page) :=
  (Release.read text).report isDate

/-- The report on a release as a text. -/
def reportText (isDate : DateReader) (text : String) : Except Fault String := do
  return (Json.arr ((← reportOn isDate text).map Page.toJson)).render

/-- An answer to a request. -/
structure Response where
  status : Nat
  body : String

/-- Answers a request for a review; the request may have no readable body. The body is read in the
character set that it declares. -/
def respond (isDate : DateReader) (body : Option String) : Except Fault Response := do
  let text := body.getD ""
  if text.isEmpty then return ⟨400, "Unable to read XML"⟩
  return ⟨200, ← reportText isDate (Encoding.decoded text)⟩

end ReleaseReview
