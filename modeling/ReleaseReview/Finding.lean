import ReleaseReview.Json.Basic

/-!
# Findings

A finding names what is wrong and where, as an error or as a warning. Either part may be missing,
when the object does not give a name for it.
-/

namespace ReleaseReview

/-- Something noticed at a place. -/
structure Finding where
  name : Option String
  location : Option String
  deriving DecidableEq, Repr, Inhabited

/-- The findings of a review: the errors and the warnings, each in order. -/
structure Findings where
  errors : List Finding
  warnings : List Finding
  deriving DecidableEq, Repr, Inhabited

namespace Findings

/-- Nothing found. -/
def none : Findings := ⟨[], []⟩

/-- One error. -/
def error (name : String) (location : Option String) : Findings :=
  ⟨[⟨name, location⟩], []⟩

/-- One warning. -/
def warning (name : String) (location : Option String) : Findings :=
  ⟨[], [⟨name, location⟩]⟩

/-- The findings of one review after those of another. -/
def append (a b : Findings) : Findings :=
  ⟨a.errors ++ b.errors, a.warnings ++ b.warnings⟩

instance : Append Findings := ⟨append⟩

/-- The findings of several reviews in order. -/
def join (parts : List Findings) : Findings :=
  ⟨parts.flatMap Findings.errors, parts.flatMap Findings.warnings⟩

@[simp] theorem errors_none : none.errors = [] := rfl

@[simp] theorem warnings_none : none.warnings = [] := rfl

@[simp] theorem errors_append (a b : Findings) : (a ++ b).errors = a.errors ++ b.errors := rfl

@[simp] theorem warnings_append (a b : Findings) : (a ++ b).warnings = a.warnings ++ b.warnings :=
  rfl

theorem append_none (a : Findings) : a ++ none = a := by
  obtain ⟨errors, warnings⟩ := a
  change mk (errors ++ []) (warnings ++ []) = mk errors warnings
  rw [List.append_nil, List.append_nil]

theorem append_assoc (a b c : Findings) : a ++ b ++ c = a ++ (b ++ c) := by
  change mk (a.errors ++ b.errors ++ c.errors) (a.warnings ++ b.warnings ++ c.warnings) = _
  rw [List.append_assoc, List.append_assoc]
  rfl

@[simp] theorem join_nil : join [] = none := rfl

@[simp] theorem join_cons (a : Findings) (parts : List Findings) :
    join (a :: parts) = a ++ join parts := rfl

@[simp] theorem errors_join (parts : List Findings) :
    (join parts).errors = parts.flatMap Findings.errors := rfl

@[simp] theorem warnings_join (parts : List Findings) :
    (join parts).warnings = parts.flatMap Findings.warnings := rfl

end Findings

/-- A name that may be missing, inside a sentence. -/
def shown (name : Option String) : String :=
  name.getD "None"

namespace Finding

/-- An error as it stands in a report. -/
def errorJson (f : Finding) : Json :=
  .object [("Error Name", .text? f.name), ("Error Location", .text? f.location)]

/-- A warning as it stands in a report. -/
def warningJson (f : Finding) : Json :=
  .object [("Warning Name", .text? f.name), ("Warning Location", .text? f.location)]

end Finding

end ReleaseReview
