import ReleaseReview.Markup.Reference

/-!
# Tags

A start tag has a name and attributes. Names are in lower case and at most a hundred characters
long: what follows a longer one is read as the next part of the tag. The first attribute of a name
counts. What is no attribute is passed over.
-/

namespace ReleaseReview.Markup

/-- What a start tag says. -/
structure Tag where
  name : String
  attributes : List (String × String)

namespace Tag

/-- The tag of an element that is implied. -/
def bare (name : String) : Tag := ⟨name, []⟩

/-- The value of an attribute. -/
def attr? (tag : Tag) (name : String) : Option String :=
  tag.attributes.lookup name

/-- Does the tag have the attribute, with any value? -/
def hasAttr (tag : Tag) (name : String) : Bool :=
  (tag.attr? name).isSome

end Tag

/-- The length that a name can have. -/
def nameLimit : Nat := 100

/-- A name, and what stands after it. -/
def readName (cs : List Char) : String × List Char :=
  let name := (cs.takeWhile isNameChar).take nameLimit
  (String.ofList (name.map Char.toLower), cs.drop name.length)

/-- The value of an attribute between two quotes, and what stands after it. -/
def readQuoted (quote : Char) (cs : List Char) : String × List Char :=
  match cutBefore quote cs with
  | (value, c :: rest) => (attributeValue value, if c = quote then rest else c :: rest)
  | (value, []) => (attributeValue value, [])

/-- The value of an attribute, and what stands after it. -/
def readValue (cs : List Char) : String × List Char :=
  match cs with
  | '"' :: cs => readQuoted '"' cs
  | '\'' :: cs => readQuoted '\'' cs
  | cs =>
    let (value, rest) := cs.span fun c => !isTagBlank c && c != '>' && c != nullChar
    (attributeValue value, rest)

/-- What an attribute is set to, and what stands after it. -/
def readSetting (cs : List Char) : String × List Char :=
  match cs.dropWhile isTagBlank with
  | '=' :: rest => readValue (rest.dropWhile isTagBlank)
  | rest => ("", rest)

/-- Does a tag end here? -/
def endsTag : List Char → Bool
  | [] => true
  | '>' :: _ => true
  | '/' :: '>' :: _ => true
  | c :: _ => c == nullChar

/-- The text from the next place on where a part of a tag can start. -/
def skipBogus : List Char → List Char
  | [] => []
  | c :: cs => if isTagBlank c || endsTag (c :: cs) then c :: cs else skipBogus cs

/-- Adds an attribute, unless there is one of its name. -/
def addAttribute (name value : String) (attributes : List (String × String)) :
    List (String × String) :=
  if (attributes.lookup name).isSome then attributes else attributes ++ [(name, value)]

/-- The attributes of a start tag, and the text from its end on; at most `fuel` parts are read. -/
def readParts : Nat → List (String × String) → List Char → List (String × String) × List Char
  | 0, attributes, cs => (attributes, cs)
  | fuel + 1, attributes, cs =>
    let cs := cs.dropWhile isTagBlank
    if endsTag cs then (attributes, cs)
    else if cs.head?.any startsName then
      let (name, rest) := readName cs
      let (value, rest) := readSetting rest
      readParts fuel (addAttribute name value attributes) rest
    else readParts fuel attributes (skipBogus cs)

/-- The attributes of a start tag, and the text from its end on; every part takes a character. -/
def readAttributes (cs : List Char) : List (String × String) × List Char :=
  readParts (cs.length + 1) [] cs

end ReleaseReview.Markup
