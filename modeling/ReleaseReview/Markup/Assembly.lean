import ReleaseReview.Markup.Event
import ReleaseReview.Markup.Node

/-!
# Building trees

Trees are built from events. Only what stands in the elements that satisfy a condition `keep`, and
are not inside another such element, is kept, and declarations of the document type wherever they
stand. The end of an element closes everything up to the nearest open element of its name; what is
still open at the end is closed there.
-/

namespace ReleaseReview.Markup

/-- Blanks that are of no account by themselves. -/
def isPlainBlank (c : Char) : Bool :=
  c == ' ' || c == '\n' || c == '\t' || c == '\x0c' || c == '\r'

/-- The content of a leaf: nothing but blanks comes down to a line end, if there is one, or a
blank. -/
def leafContent (cs : List Char) : String :=
  if cs.all isPlainBlank then if cs.contains '\n' then "\n" else " "
  else String.ofList cs

/-- The kind of text that stands in an element of a name, unless it is ordinary text. -/
def textKind? : String → Option LeafKind
  | "script" => some .script
  | "style" => some .stylesheet
  | "template" => some .template
  | "rt" => some .rubyText
  | "rp" => some .rubyParenthesis
  | _ => none

/-- An open element: what its start tag says, and the nodes before it, the nearest first. -/
structure OpenElement where
  tag : Tag
  before : List Node

/-- Trees while they are built: the open elements, the innermost first, the nodes inside the
innermost, the last first, and the text since the last node, the last run first. -/
structure Assembly where
  opened : List OpenElement
  nodes : List Node
  pending : List (List Char)

namespace Assembly

/-- Nothing built. -/
def empty : Assembly := ⟨[], [], []⟩

/-- Do blanks count where the next node stands? -/
def keepsBlanks (a : Assembly) : Bool :=
  a.opened.any fun e => e.tag.name == "pre" || e.tag.name == "textarea"

/-- The kind of text where the next node stands. -/
def textKind (a : Assembly) : LeafKind :=
  (a.opened.findSome? fun e => textKind? e.tag.name).getD .text

/-- Adds a leaf, if it stands in an element. -/
def addLeaf (a : Assembly) (kind : LeafKind) (cs : List Char) : Assembly :=
  if a.opened.isEmpty then a
  else
    let content := if a.keepsBlanks then String.ofList cs else leafContent cs
    { a with nodes := .leaf kind content :: a.nodes }

/-- Makes a leaf of the text since the last node. -/
def settle (a : Assembly) : Assembly :=
  let text := a.pending.reverse.flatten
  let a := { a with pending := [] }
  if text.isEmpty then a else a.addLeaf a.textKind text

/-- Opens an element. -/
def enter (a : Assembly) (tag : Tag) : Assembly :=
  ⟨⟨tag, a.nodes⟩ :: a.opened, [], []⟩

/-- Closes open elements up to and with the first that satisfies `last`, or all of them. -/
def closeThrough (last : OpenElement → Bool) :
    List OpenElement → List Node → List OpenElement × List Node
  | [], nodes => ([], nodes)
  | e :: opened, nodes =>
    let nodes' := .element e.tag.name e.tag.attributes nodes.reverse :: e.before
    if last e then (opened, nodes') else closeThrough last opened nodes'

/-- Closes the nearest open element of a name, with all in it; nothing if there is none. -/
def close (a : Assembly) (name : String) : Assembly :=
  if a.opened.any (·.tag.name == name) then
    let (opened, nodes) := closeThrough (·.tag.name == name) a.opened a.nodes
    ⟨opened, nodes, []⟩
  else a

/-- Takes up an event. -/
def take (keep : Tag → Bool) (a : Assembly) : Event → Assembly
  | .start tag => if a.opened.isEmpty && !keep tag then a.settle else a.settle.enter tag
  | .stop name => a.settle.close name
  | .text run => { a with pending := run :: a.pending }
  | .comment content => a.settle.addLeaf .comment content
  | .instruction content => a.settle.addLeaf .instruction content
  | .doctype content =>
    let a := a.settle
    { a with nodes := .leaf .doctype content :: a.nodes }

/-- The trees, with everything closed. -/
def trees (a : Assembly) : List Node :=
  let a := a.settle
  (closeThrough (fun _ => false) a.opened a.nodes).2.reverse

end Assembly

/-- The trees of the events, with what is kept of them. -/
def assemble (keep : Tag → Bool) (events : List Event) : List Node :=
  (events.foldl (Assembly.take keep) .empty).trees

end ReleaseReview.Markup
