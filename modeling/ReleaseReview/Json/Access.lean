import ReleaseReview.Fault

/-!
# Looking into documents

A configuration is a document whose shape nobody has checked, so each look into it can be a fault:
`member` asks for a named part, `parts` goes through the parts in order.
-/

namespace ReleaseReview.Json

open Text (Point)

/-- The named part of a document. -/
def member (name : String) : Json → Except Fault Json
  | .obj fields =>
    match find? name fields with
    | some value => .ok value
    | none => .error (.noKey name)
  | .arr _ => .error .keyIntoList
  | .str _ => .error .keyIntoText
  | other => .error (.notKeyed other.kind)

/-- The parts of a document in order: the items of a list, the names of an object, the points of a
text. -/
def parts : Json → Except Fault (List Json)
  | .arr items => .ok items
  | .obj fields => .ok (fields.map fun f => .str f.1)
  | .str s => .ok (s.map fun p => .str [p])
  | other => .error (.notIterable other.kind)

@[simp] theorem member_obj_of_find? {name : String} {fields : List (List Point × Json)}
    {value : Json} (h : find? name fields = some value) :
    member name (.obj fields) = .ok value := by
  simp [member, h]

end ReleaseReview.Json
