import ReleaseReview.Markup.Assembly
import ReleaseReview.Markup.Reader

/-!
# Releases

A release is a text that holds processes, objects, work queues and a header, each picked out by its
tag. An object is a process of type `object`. A document type in the text is in every part.
-/

namespace ReleaseReview

open Markup

/-- The parts of a release. -/
structure Release where
  processes : List Node
  objects : List Node
  queues : List Node
  header : List Node

/-- Is the tag one with a name and a namespace? -/
def isExported (name : String) (tag : Tag) : Bool :=
  tag.name == name && tag.hasAttr "xmlns"

/-- Is the tag that of an object? -/
def isObject (tag : Tag) : Bool :=
  tag.name == "process" && tag.attr? "type" == some "object"

/-- Is the tag that of the header? -/
def isHeader (tag : Tag) : Bool :=
  tag.name == "header"

/-- The header in a text. -/
def headerIn (text : String) : List Node :=
  assemble isHeader (events text)

/-- The objects in a text. -/
def objectsIn (text : String) : List Node :=
  assemble isObject (events text)

namespace Release

/-- The parts of a release. -/
def read (text : String) : Release :=
  let found := events text
  { processes := assemble (isExported "process") found
    objects := assemble isObject found
    queues := assemble (isExported "work-queue") found
    header := assemble isHeader found }

/-- The parts of a release that were stored apart, in the order processes, objects, queues, header.
-/
def ofParts (texts : List String) : Except Fault Release :=
  match texts with
  | processes :: objects :: queues :: header :: _ =>
    let exported := fun text => assemble (·.hasAttr "xmlns") (events text)
    .ok ⟨exported processes, objectsIn objects, exported queues, exported header⟩
  | _ => .error .outOfRange

end Release

end ReleaseReview
