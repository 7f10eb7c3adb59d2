import ReleaseReview.Number.Basic
import ReleaseReview.Text.Point

/-!
# JSON documents

A document keeps what its text says: integers stay apart from floating-point numbers, the members
of an object stay in the order in which their names first came, and a text may hold lone surrogate
halves.
-/

namespace ReleaseReview

open Text (Point points plain?)

/-- A JSON document. -/
inductive Json where
  | null
  | bool (b : Bool)
  | num (n : Number)
  | str (s : List Point)
  | arr (items : List Json)
  | obj (fields : List (List Point × Json))
  deriving Inhabited

namespace Json

/-- A plain text as a document. -/
def text (s : String) : Json :=
  .str (points s)

/-- A text that may be missing. -/
def text? : Option String → Json
  | some s => .text s
  | none => .null

/-- An integer as a document. -/
def int (n : Int) : Json :=
  .num (.int n)

/-- An object with plain names. -/
def object (fields : List (String × Json)) : Json :=
  .obj (fields.map fun (name, value) => (points name, value))

/-- Sets a member of an object: a present one keeps its place, a new one goes to the end. -/
def put (name : List Point) (value : Json) :
    List (List Point × Json) → List (List Point × Json)
  | [] => [(name, value)]
  | (n, v) :: fields => if n = name then (n, value) :: fields else (n, v) :: put name value fields

/-- The member of an object with a plain name. -/
def find? (name : String) (fields : List (List Point × Json)) : Option Json :=
  (fields.find? fun f => f.1 = points name).map Prod.snd

/-- The plain text that the document is, if it is one. -/
def plain? : Json → Option String
  | .str s => Text.plain? s
  | _ => none

/-- Is the document this plain text? -/
def isText (s : String) : Json → Bool
  | .str t => t = points s
  | _ => false

/-- The word for the kind of document in messages. -/
def kind : Json → String
  | .null => "NoneType"
  | .bool _ => "bool"
  | .num (.int _) => "int"
  | .num (.float _) => "float"
  | .str _ => "str"
  | .arr _ => "list"
  | .obj _ => "dict"

/-- Does the document count as true: all but null, false, zero and what is empty? -/
def isTrue : Json → Bool
  | .null => false
  | .bool b => b
  | .num n => n.isNonzero
  | .str s => !s.isEmpty
  | .arr items => !items.isEmpty
  | .obj fields => !fields.isEmpty

theorem isText_iff {s : String} {document : Json} :
    document.isText s = true ↔ document.plain? = some s := by
  cases document <;> simp [isText, plain?, Text.plain?_eq_some_iff]

theorem find?_put_of_ne {name : List Point} {value : Json} {key : String}
    (h : points key ≠ name) (fields : List (List Point × Json)) :
    find? key (put name value fields) = find? key fields := by
  induction fields with
  | nil => simp [put, find?, Ne.symm h]
  | cons f fields ih =>
    obtain ⟨n, v⟩ := f
    by_cases hn : n = name
    · subst hn
      simp [put, find?, Ne.symm h]
    · by_cases hk : n = points key
      · subst hk
        simp [put, h, find?]
      · simp only [put, hn, if_false, find?, List.find?_cons, hk, decide_false] at ih ⊢
        exact ih

@[simp] theorem find?_put_self (key : String) (value : Json) (fields : List (List Point × Json)) :
    find? key (put (points key) value fields) = some value := by
  induction fields with
  | nil => simp [put, find?]
  | cons f fields ih =>
    obtain ⟨n, v⟩ := f
    by_cases hn : n = points key
    · simp [put, hn, find?]
    · simp only [put, hn, if_false, find?, List.find?_cons, decide_false] at ih ⊢
      exact ih

end Json

end ReleaseReview
