import ReleaseReview.Fault

/-!
# Accounts

An account is a piece of work that leaves notes as it goes: the notes, in order, and what the work
came to, or the fault that ended it. The notes left before a fault remain.
-/

namespace ReleaseReview

/-- The notes of a piece of work, and what it came to. -/
structure Account (ν α : Type) where
  notes : List ν
  result : Except Fault α

namespace Account

variable {ν α β : Type}

/-- Work that leaves no notes. -/
def of (result : Except Fault α) : Account ν α :=
  ⟨[], result⟩

/-- One note. -/
def note (n : ν) : Account ν Unit :=
  ⟨[n], .ok ()⟩

/-- One piece of work and then another, which depends on what the first came to. -/
def andThen (first : Account ν α) (rest : α → Account ν β) : Account ν β :=
  match first.result with
  | .ok a => ⟨first.notes ++ (rest a).notes, (rest a).result⟩
  | .error fault => ⟨first.notes, .error fault⟩

instance : Monad (Account ν) where
  pure a := of (.ok a)
  bind := andThen

instance : MonadLift (Except Fault) (Account ν) := ⟨of⟩

@[simp] theorem notes_note (n : ν) : (note n).notes = [n] := rfl

@[simp] theorem result_note (n : ν) : (note n).result = .ok () := rfl

@[simp] theorem notes_of (result : Except Fault α) : (of result : Account ν α).notes = [] := rfl

@[simp] theorem result_of (result : Except Fault α) : (of result : Account ν α).result = result :=
  rfl

theorem result_bind (first : Account ν α) (rest : α → Account ν β) :
    (first >>= rest).result = first.result >>= fun a => (rest a).result := by
  cases h : first.result <;> simp [bind, andThen, h, Except.bind]

theorem notes_bind_of_ok {first : Account ν α} {a : α} (h : first.result = .ok a)
    (rest : α → Account ν β) : (first >>= rest).notes = first.notes ++ (rest a).notes := by
  simp [bind, andThen, h]

theorem notes_bind_of_error {first : Account ν α} {fault : Fault} (h : first.result = .error fault)
    (rest : α → Account ν β) : (first >>= rest).notes = first.notes := by
  simp [bind, andThen, h]

end Account

end ReleaseReview
