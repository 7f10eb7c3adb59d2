import ReleaseReview.Markup.Event

/-!
# Nesting of elements

While a text is read, a `Scan` keeps the names of the open elements, the innermost first. A start
tag first ends the innermost elements that cannot hold it (`leaveEndedBy`) and opens the parts of a
page that it implies (`imply`). An end tag closes everything up to the nearest open element of its
name, unless an element of higher rank stands between (`takeEnd`). A part of a page that is opened
where it cannot stand is passed over, and so is one end tag for it.
-/

namespace ReleaseReview.Markup

/-! ## Rules -/

/-- Elements that never have children. -/
def voidElements : List String :=
  ["area", "base", "basefont", "br", "col", "frame", "hr", "img", "input", "isindex", "link",
   "meta", "param"]

/-- Elements whose content is no markup. -/
def rawElements : List String :=
  ["script", "style"]

/-- The parts of a page around its content. -/
def pageElements : List String :=
  ["html", "head", "body"]

/-- Elements that belong into the head of a page. -/
def headElements : List String :=
  ["script", "style", "meta", "link", "title", "base"]

/-- Elements that stand in a page without a body. -/
def frameElements : List String :=
  ["noframes", "frame", "frameset"]

/-- The headings. -/
def headings : List String :=
  ["h1", "h2", "h3", "h4", "h5", "h6"]

/-- Elements whose start ends the head of a page. -/
def contentElements : List String :=
  ["a", "abbr", "acronym", "address", "b", "bdo", "big", "blockquote", "body", "br", "center",
   "cite", "code", "dd", "dfn", "dir", "div", "dl", "dt", "em", "fieldset", "font", "form",
   "frameset", "hr", "i", "iframe", "img", "kbd", "li", "listing", "map", "menu", "ol", "p", "pre",
   "q", "s", "samp", "small", "span", "strike", "strong", "sub", "sup", "table", "tt", "u", "ul",
   "var", "xmp"] ++ headings

/-- Elements whose start ends a paragraph. -/
def blockElements : List String :=
  ["address", "blockquote", "body", "caption", "center", "col", "colgroup", "dd", "dir", "div",
   "dl", "dt", "fieldset", "form", "frameset", "head", "hr", "li", "listing", "menu", "multicol",
   "ol", "p", "pre", "table", "tbody", "td", "tfoot", "th", "title", "tr", "ul", "xmp"] ++ headings

/-- The names of the elements whose start ends an element of a name. -/
def enders (name : String) : List String :=
  if headings.contains name then ["fieldset", "form", "li", "p", "table"]
  else
    match name with
    | "a" => ["a", "fieldset", "table", "td", "th"]
    | "address" => ["dd", "dl", "dt", "form", "li", "ul"]
    | "b" => ["center", "p", "td", "th"]
    | "caption" | "col" => ["col", "colgroup", "tbody", "tfoot", "thead", "tr"]
    | "colgroup" => ["colgroup", "tbody", "tfoot", "thead", "tr"]
    | "dd" => ["dt"]
    | "dir" | "menu" => ["dd", "dl", "dt", "form", "ul"]
    | "dl" => ["form", "li"]
    | "dt" => ["dd", "dl"]
    | "font" => ["center", "td", "th"]
    | "form" | "hr" | "ol" => ["form"]
    | "head" => contentElements
    | "i" => ["center"]
    | "legend" => ["fieldset"]
    | "li" => ["li"]
    | "link" | "style" | "title" => ["body", "frameset"]
    | "listing" | "pre" | "xmp" => ["dd", "dl", "dt", "fieldset", "form", "li", "table", "ul"]
    | "option" => ["optgroup", "option"]
    | "p" => blockElements
    | "big" | "s" | "small" | "strike" | "tt" => ["p"]
    | "script" => ["noscript"]
    | "span" => ["td", "th"]
    | "tbody" | "thead" => ["tbody", "tfoot"]
    | "td" | "th" => ["tbody", "td", "tfoot", "th", "tr"]
    | "tfoot" => ["tbody"]
    | "tr" => ["tbody", "tfoot", "tr"]
    | "u" => ["p", "td", "th"]
    | "ul" => ["address", "form", "menu", "ol", "pre"]
    | _ => []

/-- The rank of an element: an end tag does not reach past an open element of higher rank. -/
def endRank : String → Nat
  | "div" => 150
  | "td" | "th" => 160
  | "tr" => 170
  | "thead" | "tbody" | "tfoot" => 180
  | "table" => 190
  | "head" | "body" => 200
  | "html" => 220
  | _ => 100

/-! ## Open elements -/

/-- How far a text is read: the names of the open elements, the innermost first, whether the head
and the body of the page were opened, the number of tags that were passed over as misplaced, and the
events, the last first. -/
structure Scan where
  opened : List String
  headSeen : Bool
  bodySeen : Bool
  passedOver : Nat
  events : List Event

namespace Scan

/-- Nothing read. -/
def empty : Scan := ⟨[], false, false, 0, []⟩

/-- Adds an event. -/
def emit (s : Scan) (event : Event) : Scan :=
  { s with events := event :: s.events }

/-- Is an element of the name open? -/
def isOpen (s : Scan) (name : String) : Bool :=
  s.opened.contains name

/-- Opens an element. -/
def enter (s : Scan) (tag : Tag) : Scan :=
  { s with
    opened := tag.name :: s.opened
    headSeen := s.headSeen || tag.name == "head"
    bodySeen := s.bodySeen || tag.name == "body"
    events := .start tag :: s.events }

/-- Closes the innermost elements whose names satisfy `p`, up to one that does not. -/
def leaveWhile (s : Scan) (p : String → Bool) : Scan :=
  { s with
    opened := s.opened.dropWhile p
    events := ((s.opened.takeWhile p).map .stop).reverse ++ s.events }

/-- Closes the innermost element. -/
def leave (s : Scan) : Scan :=
  match s.opened with
  | [] => s
  | name :: outer => { s with opened := outer, events := .stop name :: s.events }

/-- Forgets the innermost element, whose tag has no end. -/
def forget (s : Scan) : Scan :=
  { s with opened := s.opened.tail }

/-- Closes the innermost elements that the start of an element ends. -/
def leaveEndedBy (s : Scan) (name : String) : Scan :=
  s.leaveWhile fun inner => (enders inner).contains name

/-- Opens the page around an element. -/
def implyPage (s : Scan) : Scan :=
  if s.opened.isEmpty then s.enter (.bare "html") else s

/-- Opens the part of a page that an element belongs into. -/
def implyPart (s : Scan) (name : String) : Scan :=
  if s.opened.length ≤ 1 && headElements.contains name then
    if s.headSeen || s.bodySeen then s else s.enter (.bare "head")
  else if frameElements.contains name || s.bodySeen || s.isOpen "body" || s.isOpen "head" then s
  else s.enter (.bare "body")

/-- Opens the parts of a page that the start of an element implies. -/
def imply (s : Scan) (name : String) : Scan :=
  if name == "html" then s
  else if name == "head" || name == "body" then s.implyPage
  else s.implyPage.implyPart name

/-- Is the start of a part of a page misplaced? -/
def isMisplaced (s : Scan) (name : String) : Bool :=
  (name == "html" && !s.opened.isEmpty) || (name == "head" && s.opened.length != 1) ||
    (name == "body" && s.isOpen "body")

/-- Prepares for the start of an element. -/
def makeRoom (s : Scan) (name : String) : Scan :=
  (s.leaveEndedBy name).imply name

/-- Takes up a start tag for which room was made. -/
def takeStart (s : Scan) (tag : Tag) : Scan :=
  if s.isMisplaced tag.name then { s with passedOver := s.passedOver + 1 } else s.enter tag

/-- Opens a paragraph for text where only elements can stand. -/
def paragraph (s : Scan) : Scan :=
  if s.opened.head?.all fun name => name == "html" || name == "head" then
    (s.makeRoom "p").enter (.bare "p")
  else s

/-- Takes up an end tag. -/
def takeEnd (s : Scan) (name : String) : Scan :=
  if s.passedOver ≠ 0 && pageElements.contains name then
    { s with passedOver := s.passedOver - 1 }
  else if !s.isOpen name then s
  else if (s.opened.takeWhile (· != name)).any fun inner => endRank name < endRank inner then s
  else (s.leaveWhile (· != name)).leave

end Scan

end ReleaseReview.Markup
