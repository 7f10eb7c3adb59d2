/-!
# Text with broken surrogate pairs

A written escape can name one half of a surrogate pair without the other. Such a half is no
character, yet it has to be kept and written out again, so texts that come from escapes are lists
of points: a character, or a half that stands alone.
-/

namespace ReleaseReview.Text

/-- A unit of text: a character, or half of a surrogate pair that stands alone. -/
inductive Point where
  | scalar (c : Char)
  | half (code : Nat)
  deriving DecidableEq, Repr, Inhabited

namespace Point

/-- The code point. -/
def code : Point → Nat
  | .scalar c => c.toNat
  | .half n => n

/-- The character, unless the point is a lone half. -/
def char? : Point → Option Char
  | .scalar c => some c
  | .half _ => none

end Point

/-- The points of a plain text. -/
def points (s : String) : List Point :=
  s.toList.map .scalar

/-- The plain text with these points, if there is no lone half among them. -/
def plain? (ps : List Point) : Option String :=
  (ps.mapM Point.char?).map String.ofList

theorem mapM_char?_scalar (cs : List Char) : (cs.map Point.scalar).mapM Point.char? = some cs := by
  induction cs with
  | nil => rfl
  | cons c cs ih => simp [List.mapM_cons, ih, Point.char?]

@[simp] theorem plain?_points (s : String) : plain? (points s) = some s := by
  rw [plain?, points, mapM_char?_scalar]
  simp

theorem eq_scalar_of_mapM_char? {ps : List Point} :
    ∀ {cs : List Char}, ps.mapM Point.char? = some cs → ps = cs.map .scalar := by
  induction ps with
  | nil => simp
  | cons p ps ih =>
    intro cs h
    cases p with
    | half n => simp [List.mapM_cons, Point.char?] at h
    | scalar c =>
      simp only [List.mapM_cons, Point.char?, Option.pure_def, Option.bind_eq_bind,
        Option.bind_some, Option.bind_eq_some_iff, Option.some.injEq] at h
      obtain ⟨rest, hrest, rfl⟩ := h
      rw [ih hrest, List.map_cons]

theorem plain?_eq_some_iff {ps : List Point} {s : String} : plain? ps = some s ↔ ps = points s := by
  constructor
  · intro h
    obtain ⟨cs, hcs, rfl⟩ := Option.map_eq_some_iff.mp h
    rw [eq_scalar_of_mapM_char? hcs, points, String.toList_ofList]
  · rintro rfl
    exact plain?_points s

end ReleaseReview.Text
