import ReleaseReview.Markup.FullName

/-!
# Document types

A declaration of the document type names the type, and may say where its description is found: by a
public name, a place in the system, or both. What else stands in the declaration is passed over.
-/

namespace ReleaseReview.Markup

/-- Does the text start with the word, in letters of any case? -/
def startsWithWord (word : List Char) (cs : List Char) : Bool :=
  (cs.take word.length).map Char.toLower == word

/-- May the character stand in a public name? -/
def isPublicChar (c : Char) : Bool :=
  c.isAlphanum || " \n\r-'()+,./:=?;!*#@$_%".toList.contains c

/-- The text between two quotes, if all its characters satisfy `isValid`, and what stands after it.
-/
def readLiteral (isValid : Char → Bool) (cs : List Char) : Option String × List Char :=
  match cs with
  | [] => (none, [])
  | quote :: after =>
    if quote = '"' ∨ quote = '\'' then
      match cutBefore quote after with
      | (content, c :: rest) =>
        if c = quote then
          (if content.all isValid then some (String.ofList content) else none, rest)
        else (none, c :: rest)
      | (_, []) => (none, [])
    else (none, quote :: after)

/-- A place in the system, and what stands after it. -/
def readSystem (cs : List Char) : Option String × List Char :=
  readLiteral (fun c => isAllowed c.toNat || decide (0x80 ≤ c.toNat)) (cs.dropWhile isTagBlank)

/-- The public name and the place in the system of a document type, and what stands after them. -/
def readExternal (cs : List Char) : Option String × Option String × List Char :=
  if startsWithWord "system".toList cs then
    let (place, rest) := readSystem (cs.drop 6)
    (none, place, rest)
  else if startsWithWord "public".toList cs then
    let (name, rest) := readLiteral isPublicChar ((cs.drop 6).dropWhile isTagBlank)
    let (place, rest) := readSystem rest
    (name, place, rest)
  else (none, none, cs)

/-- The text of a document type. -/
def doctypeText (name : String) : Option String → Option String → String
  | some publicName, some place => name ++ " PUBLIC \"" ++ publicName ++ "\" \"" ++ place ++ "\""
  | some publicName, none => name ++ " PUBLIC \"" ++ publicName ++ "\""
  | none, some place => name ++ " SYSTEM \"" ++ place ++ "\""
  | none, none => name

/-- The text of a declaration of the document type after its first word, and what stands after it.
-/
def readDoctype (cs : List Char) : String × List Char :=
  let cs := cs.dropWhile isTagBlank
  let (name, rest) := (readFullName cs).getD ([], cs)
  let (publicName, place, rest) := readExternal (rest.dropWhile isTagBlank)
  (doctypeText (String.ofList name) publicName place, afterBracket rest)

end ReleaseReview.Markup
