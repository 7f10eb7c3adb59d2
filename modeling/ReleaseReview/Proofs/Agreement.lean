import Mathlib.Data.List.Perm.Basic
import ReleaseReview.Proofs.Success

/-!
# Work that agrees

Two pieces of work `Agree` in a relation if it holds between their results whenever both have one;
a fault in either is no disagreement. So work on the same items in another order agrees, although
the first fault may be another one: the results are the same but for their order (`Agree.mapM`), and
a search finds something in both or in neither (`Agree.anyM`). The items only have to be the same as
far as some key of them goes.
-/

namespace ReleaseReview

variable {α β γ δ : Type}

/-- Whatever the two pieces of work give, if both give anything, is related by `R`. -/
def Agree (R : α → β → Prop) (x : Except Fault α) (y : Except Fault β) : Prop :=
  ∀ a b, x = .ok a → y = .ok b → R a b

/-! ## Items in another order -/

/-- If the keys of two lists are the same but for their order, one list can be put into an order in
which its keys are those of the other. -/
theorem exists_perm_of_map_perm {k : α → γ} {as bs : List α} (h : (as.map k).Perm (bs.map k)) :
    ∃ cs, List.Forall₂ (fun a c => k a = k c) as cs ∧ cs.Perm bs := by
  have hkeys : List.Forall₂ (fun key b => key = k b) (bs.map k) bs := by
    rw [List.forall₂_map_left_iff, List.forall₂_same]
    exact fun _ _ => rfl
  obtain ⟨cs, hcs, hperm⟩ := List.perm_comp_forall₂ h hkeys
  exact ⟨cs, List.forall₂_map_left_iff.mp hcs, hperm⟩

theorem exists_mem_of_map_perm {k : α → γ} {as bs : List α} (h : (as.map k).Perm (bs.map k)) :
    ∀ a ∈ as, ∃ b ∈ bs, k b = k a := by
  intro a ha
  exact List.mem_map.mp (h.mem_iff.mp (List.mem_map_of_mem ha))

theorem anyM_eq_ok_true {f : α → Except Fault Bool} {as : List α} (h : as.anyM f = .ok true) :
    ∃ a ∈ as, f a = .ok true := by
  induction as with
  | nil => cases h
  | cons a as ih =>
    rw [List.anyM_cons] at h
    obtain ⟨found, ha, h⟩ := bind_eq_ok.mp h
    cases found with
    | true => exact ⟨a, List.mem_cons_self, ha⟩
    | false =>
      obtain ⟨b, hb, hfound⟩ := ih h
      exact ⟨b, List.mem_cons_of_mem a hb, hfound⟩

theorem anyM_eq_ok_false {f : α → Except Fault Bool} {as : List α} (h : as.anyM f = .ok false) :
    ∀ a ∈ as, f a = .ok false := by
  induction as with
  | nil => exact nofun
  | cons a as ih =>
    rw [List.anyM_cons] at h
    obtain ⟨found, ha, h⟩ := bind_eq_ok.mp h
    cases found with
    | true => cases h
    | false =>
      intro b hb
      rcases List.mem_cons.mp hb with rfl | hb
      · exact ha
      · exact ih h b hb

theorem nodup_eraseDups [BEq α] [LawfulBEq α] : ∀ as : List α, as.eraseDups.Nodup
  | [] => by simp
  | a :: as => by
    rw [List.eraseDups_cons, List.nodup_cons]
    refine ⟨fun ha => ?_, nodup_eraseDups _⟩
    have hne := (List.mem_filter.mp (List.mem_eraseDups.mp ha)).2
    simp at hne
termination_by as => as.length
decreasing_by exact Nat.lt_succ_of_le (List.length_filter_le _ as)

/-- The first occurrences of the same items are the same items. -/
theorem perm_eraseDups [BEq α] [LawfulBEq α] {as bs : List α} (h : as.Perm bs) :
    as.eraseDups.Perm bs.eraseDups := by
  refine (List.perm_ext_iff_of_nodup (nodup_eraseDups as) (nodup_eraseDups bs)).mpr fun a => ?_
  rw [List.mem_eraseDups, List.mem_eraseDups]
  exact h.mem_iff

/-! ## Along the steps -/

namespace Agree

variable {R : α → β → Prop} {S : γ → δ → Prop}

theorem pure {a : α} {b : β} (h : R a b) :
    Agree R (Pure.pure a : Except Fault α) (Pure.pure b) := by
  rintro _ _ ⟨⟩ ⟨⟩
  exact h

theorem rfl {x : Except Fault α} : Agree Eq x x := by
  rintro a b ha hb
  exact Except.ok.inj (ha.symm.trans hb)

/-- The second steps agree, if they can rely on what the first ones agree in. -/
theorem bind {x : Except Fault α} {y : Except Fault β} {f : α → Except Fault γ}
    {g : β → Except Fault δ} (h : Agree R x y) (hfg : ∀ a b, R a b → Agree S (f a) (g b)) :
    Agree S (x >>= f) (y >>= g) := by
  intro c d hc hd
  obtain ⟨a, ha, hc⟩ := bind_eq_ok.mp hc
  obtain ⟨b, hb, hd⟩ := bind_eq_ok.mp hd
  exact hfg a b (h a b ha hb) c d hc hd

/-- The first step is the same. -/
theorem after {x : Except Fault α} {f : α → Except Fault γ} {g : α → Except Fault δ}
    (hfg : ∀ a, Agree S (f a) (g a)) : Agree S (x >>= f) (x >>= g) := by
  refine bind rfl fun a b hab => ?_
  subst hab
  exact hfg a

theorem ite {p : Prop} [Decidable p] {x x' : Except Fault α} {y y' : Except Fault β}
    (h : p → Agree R x y) (h' : ¬p → Agree R x' y') :
    Agree R (if p then x else x') (if p then y else y') := by
  split
  · exact h ‹p›
  · exact h' ‹¬p›

variable {k : α → γ} {as bs : List α}

/-- Work on items with the same keys has the same results. -/
theorem mapM_of_forall₂ {f g : α → Except Fault β} (h : ∀ a b, k a = k b → Agree Eq (f a) (g b))
    (hkeys : List.Forall₂ (fun a b => k a = k b) as bs) :
    Agree Eq (as.mapM f) (bs.mapM g) := by
  induction hkeys with
  | nil => exact rfl
  | cons hab _ ih =>
    rw [List.mapM_cons, List.mapM_cons]
    refine bind (h _ _ hab) fun x y hxy => bind ih fun xs ys hall => pure ?_
    rw [hxy, hall]

/-- Work on items that are the same but for their order has the same results but for theirs. -/
theorem mapM {f g : α → Except Fault β} (hperm : (as.map k).Perm (bs.map k))
    (h : ∀ a b, k a = k b → Agree Eq (f a) (g b)) :
    Agree List.Perm (as.mapM f) (bs.mapM g) := by
  intro xs ys hxs hys
  obtain ⟨cs, hcs, hperm⟩ := exists_perm_of_map_perm hperm
  obtain ⟨zs, hzs, hperm⟩ := List.perm_comp_forall₂ hperm (mapM_eq_ok_iff.mp hys)
  rw [mapM_of_forall₂ h hcs xs zs hxs (mapM_eq_ok_iff.mpr hzs)]
  exact hperm

/-- A search through items that are the same but for their order finds something in both lists or
in neither. -/
theorem anyM {f g : α → Except Fault Bool} (hperm : (as.map k).Perm (bs.map k))
    (h : ∀ a b, k a = k b → Agree Eq (f a) (g b)) : Agree Eq (as.anyM f) (bs.anyM g) := by
  intro x y hx hy
  cases x with
  | true =>
    obtain ⟨a, ha, hfound⟩ := anyM_eq_ok_true hx
    obtain ⟨b, hb, hkey⟩ := exists_mem_of_map_perm hperm a ha
    cases y with
    | true => exact Eq.refl true
    | false => exact h a b hkey.symm _ _ hfound (anyM_eq_ok_false hy b hb)
  | false =>
    cases y with
    | false => exact Eq.refl false
    | true =>
      obtain ⟨b, hb, hfound⟩ := anyM_eq_ok_true hy
      obtain ⟨a, ha, hkey⟩ := exists_mem_of_map_perm hperm.symm b hb
      exact h a b hkey _ _ (anyM_eq_ok_false hx a ha) hfound

theorem anyM_of_perm (hperm : as.Perm bs) (f : α → Except Fault Bool) :
    Agree Eq (as.anyM f) (bs.anyM f) := by
  refine anyM (hperm.map id) fun a b hab => ?_
  rw [show a = b from hab]
  exact rfl

end Agree

end ReleaseReview
