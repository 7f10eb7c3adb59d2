import Mathlib.Data.List.Forall2
import ReleaseReview.Check.Basic

/-!
# Work that succeeds

A piece of work that may end in a fault succeeds if each of its steps does. `bind_eq_ok` peels the
first step off, `mapM_eq_ok_iff` says what it is to go through a list without a fault: each item has
its own result, in order. `Yields` says what holds of a result whenever there is one, and is built
up along the steps of the work.
-/

namespace ReleaseReview

variable {α β γ : Type}

/-- Two steps succeed if the first does, and the second on what the first gave. -/
theorem bind_eq_ok {x : Except Fault α} {f : α → Except Fault β} {b : β} :
    x >>= f = .ok b ↔ ∃ a, x = .ok a ∧ f a = .ok b := by
  cases x <;> simp [bind, Except.bind]

@[simp] theorem pure_eq_ok {a b : α} : (pure a : Except Fault α) = .ok b ↔ a = b := by
  simp [pure, Except.pure]

@[simp] theorem ok_bind (a : α) (f : α → Except Fault β) : (Except.ok a >>= f) = f a :=
  rfl

theorem map_eq_ok {x : Except Fault α} {f : α → β} {b : β} (h : x.map f = .ok b) :
    ∃ a, x = .ok a ∧ f a = b := by
  cases x with
  | error fault => cases h
  | ok a => exact ⟨a, rfl, Except.ok.inj h⟩

theorem exists_of_toBool {x : Except Fault α} (h : x.toBool = true) : ∃ a, x = .ok a := by
  cases x with
  | ok a => exact ⟨a, rfl⟩
  | error fault => cases h

/-- Going through a list succeeds if each item gives its result. -/
theorem mapM_eq_ok_iff {f : α → Except Fault β} {as : List α} {bs : List β} :
    as.mapM f = .ok bs ↔ List.Forall₂ (fun a b => f a = .ok b) as bs := by
  induction as generalizing bs with
  | nil => cases bs <;> simp [pure, Except.pure]
  | cons a as ih =>
    rw [List.mapM_cons, List.forall₂_cons_left_iff, bind_eq_ok]
    constructor
    · rintro ⟨b, hb, h⟩
      obtain ⟨rest, hrest, h⟩ := bind_eq_ok.mp h
      exact ⟨b, rest, hb, ih.mp hrest, (pure_eq_ok.mp h).symm⟩
    · rintro ⟨b, rest, hb, hrest, rfl⟩
      exact ⟨b, hb, by rw [ih.mpr hrest]; rfl⟩

/-- If each item has a result, so has a list of them. -/
theorem mapM_eq_ok_map {f : α → Except Fault β} {g : α → β} {as : List α}
    (h : ∀ a ∈ as, f a = .ok (g a)) : as.mapM f = .ok (as.map g) := by
  rw [mapM_eq_ok_iff, List.forall₂_map_right_iff, List.forall₂_same]
  exact h

/-- If going through a list succeeds, each item has its result among the results. -/
theorem exists_mem_of_mapM_eq_ok {f : α → Except Fault β} {as : List α} {bs : List β}
    (h : as.mapM f = .ok bs) : ∀ a ∈ as, ∃ b ∈ bs, f a = .ok b := by
  intro a ha
  obtain ⟨i, hi, rfl⟩ := List.getElem_of_mem ha
  have hall := List.forall₂_iff_get.mp (mapM_eq_ok_iff.mp h)
  have hi' : i < bs.length := hall.1 ▸ hi
  exact ⟨bs[i], List.getElem_mem hi', hall.2 i hi hi'⟩

/-- If going through a list succeeds, each item has a result. -/
theorem exists_of_mapM_eq_ok {f : α → Except Fault β} {as : List α} {bs : List β}
    (h : as.mapM f = .ok bs) : ∀ a ∈ as, ∃ b, f a = .ok b := by
  intro a ha
  obtain ⟨b, -, hb⟩ := exists_mem_of_mapM_eq_ok h a ha
  exact ⟨b, hb⟩

/-- A review that succeeds joins the findings of the items, in order. -/
theorem review_eq_ok {judge : α → Except Fault Findings} {items : List α} {findings : Findings}
    (h : review items judge = .ok findings) :
    ∃ shares, findings = .join shares ∧
      List.Forall₂ (fun item share => judge item = .ok share) items shares := by
  obtain ⟨shares, hmap, hjoin⟩ := bind_eq_ok.mp h
  exact ⟨shares, (pure_eq_ok.mp hjoin).symm, mapM_eq_ok_iff.mp hmap⟩

/-- Going through two lists comes to the same if the work only looks at what `g` keeps of an item,
and `g` keeps the same of both lists. -/
theorem mapM_eq_of_map_eq {g : α → γ} {f : α → Except Fault β} (hf : ∀ a b, g a = g b → f a = f b) :
    ∀ {as bs : List α}, as.map g = bs.map g → as.mapM f = bs.mapM f
  | [], [], _ => rfl
  | a :: as, b :: bs, h => by
    rw [List.map_cons, List.map_cons, List.cons.injEq] at h
    rw [List.mapM_cons, List.mapM_cons, hf a b h.1, mapM_eq_of_map_eq hf h.2]

/-- The same of a search through two lists. -/
theorem anyM_eq_of_map_eq {g : α → γ} {f : α → Except Fault Bool}
    (hf : ∀ a b, g a = g b → f a = f b) :
    ∀ {as bs : List α}, as.map g = bs.map g → as.anyM f = bs.anyM f
  | [], [], _ => rfl
  | a :: as, b :: bs, h => by
    rw [List.map_cons, List.map_cons, List.cons.injEq] at h
    rw [List.anyM_cons, List.anyM_cons, hf a b h.1, anyM_eq_of_map_eq hf h.2]

/-! ## Items and their results -/

theorem map_eq_map_of_forall₂ {f : α → γ} {g : β → γ} {as : List α} {bs : List β}
    (h : List.Forall₂ (fun a b => f a = g b) as bs) : as.map f = bs.map g := by
  induction h with
  | nil => rfl
  | cons hab _ ih => rw [List.map_cons, List.map_cons, hab, ih]

/-- Each result is that of an item. -/
theorem exists_of_forall₂ {R : α → β → Prop} {as : List α} {bs : List β}
    (h : List.Forall₂ R as bs) : ∀ b ∈ bs, ∃ a ∈ as, R a b := by
  induction h with
  | nil => exact fun _ hb => nomatch hb
  | cons hab _ ih =>
    rw [List.forall_mem_cons]
    refine ⟨⟨_, List.mem_cons_self, hab⟩, fun b hb => ?_⟩
    obtain ⟨a, ha, hab⟩ := ih b hb
    exact ⟨a, List.mem_cons_of_mem _ ha, hab⟩

/-- A search through items and one through their results find nothing, or an item and its result. -/
theorem find?_of_forall₂ {R : α → β → Prop} {k : α → Bool} {l : β → Bool}
    (hkl : ∀ a b, R a b → k a = l b) {as : List α} {bs : List β} (h : List.Forall₂ R as bs) :
    (as.find? k = none ∧ bs.find? l = none) ∨
      ∃ a b, as.find? k = some a ∧ bs.find? l = some b ∧ R a b := by
  induction h with
  | nil => exact .inl ⟨rfl, rfl⟩
  | @cons a b as bs hab _ ih =>
    rw [List.find?_cons, List.find?_cons, hkl a b hab]
    split
    · exact .inr ⟨a, b, rfl, rfl, hab⟩
    · exact ih

/-- A search through two lists finds nothing in either, or the same as far as `g` keeps it. -/
theorem find?_of_map_eq {g : α → γ} {k : α → Bool} (hk : ∀ a b, g a = g b → k a = k b)
    {as bs : List α} (h : as.map g = bs.map g) :
    (as.find? k = none ∧ bs.find? k = none) ∨
      ∃ a b, as.find? k = some a ∧ bs.find? k = some b ∧ g a = g b := by
  have hkeys : List.Forall₂ (fun x y => x = y) (as.map g) (bs.map g) := by
    rw [h, List.forall₂_same]
    exact fun _ _ => rfl
  exact find?_of_forall₂ hk (List.forall₂_map_right_iff.mp (List.forall₂_map_left_iff.mp hkeys))

/-- Items that have two kinds of results have pairs of them. -/
theorem exists_pairs_of_forall₂ {R : α → β → Prop} {S : α → γ → Prop} {as : List α} {bs : List β}
    {cs : List γ} (hbs : List.Forall₂ R as bs) (hcs : List.Forall₂ S as cs) :
    ∃ pairs : List (β × γ), pairs.map Prod.fst = bs ∧ pairs.map Prod.snd = cs ∧
      List.Forall₂ (fun a pair => R a pair.1 ∧ S a pair.2) as pairs := by
  induction hbs generalizing cs with
  | nil =>
    cases hcs
    exact ⟨[], rfl, rfl, .nil⟩
  | @cons a b as bs hb _ ih =>
    obtain ⟨c, rest, hc, hrest, rfl⟩ := List.forall₂_cons_left_iff.mp hcs
    obtain ⟨pairs, rfl, rfl, hpairs⟩ := ih hrest
    exact ⟨(b, c) :: pairs, rfl, rfl, .cons ⟨hb, hc⟩ hpairs⟩

/-- If an item can only have one result, going through a list can only have one. -/
theorem eq_map_of_mapM_eq_ok {f : α → Except Fault β} {g : α → β} {as : List α} {bs : List β}
    (hf : ∀ a b, f a = .ok b → b = g a) (h : as.mapM f = .ok bs) : bs = as.map g := by
  have hall : List.Forall₂ (fun a b => g a = id b) as bs :=
    (mapM_eq_ok_iff.mp h).imp fun a b hab => (hf a b hab).symm
  rw [map_eq_map_of_forall₂ hall, List.map_id]

/-- Items that are passed over give nothing, so what is left goes with the others. -/
theorem forall₂_filterMap {keep : α → Bool} {R : α → β → Prop} {as : List α}
    {found : List (Option β)}
    (h : List.Forall₂ (fun a o => (keep a = true ∧ ∃ b, o = some b ∧ R a b) ∨
      (keep a = false ∧ o = none)) as found) :
    List.Forall₂ R (as.filter keep) (found.filterMap id) := by
  induction h with
  | nil => exact .nil
  | cons hab _ ih =>
    rcases hab with ⟨hkeep, b, rfl, hb⟩ | ⟨hkeep, rfl⟩
    · rw [List.filter_cons_of_pos hkeep]
      exact .cons hb ih
    · rw [List.filter_cons_of_neg (by simp [hkeep])]
      exact ih

/-- Items that each stand for several, and several results for each of them. -/
theorem forall₂_flatMap {R : γ → β → Prop} {f : α → List γ} {as : List α} {results : List (List β)}
    (h : List.Forall₂ (fun a bs => List.Forall₂ R (f a) bs) as results) :
    List.Forall₂ R (as.flatMap f) results.flatten := by
  induction h with
  | nil => exact .nil
  | cons hab _ ih =>
    rw [List.flatMap_cons, List.flatten_cons]
    exact List.rel_append hab ih

/-! ## What holds of a result -/

/-- Whatever the work gives, if it gives anything, satisfies `P`. -/
def Yields (P : α → Prop) (x : Except Fault α) : Prop :=
  ∀ a, x = .ok a → P a

namespace Yields

variable {P : β → Prop} {Q : α → Prop}

theorem ok {b : β} (h : P b) : Yields P (.ok b) := by
  intro a ha
  cases ha
  exact h

theorem pure {b : β} (h : P b) : Yields P (Pure.pure b) :=
  ok h

theorem error (fault : Fault) : Yields P (.error fault) :=
  fun _ hfault => nomatch hfault

/-- The second step counts, if it can rely on what the first gives. -/
theorem bind {x : Except Fault α} {f : α → Except Fault β} (hx : Yields Q x)
    (hf : ∀ a, Q a → Yields P (f a)) : Yields P (x >>= f) := by
  intro b hb
  obtain ⟨a, ha, hb⟩ := bind_eq_ok.mp hb
  exact hf a (hx a ha) b hb

/-- The second step counts, for what the first does give. -/
theorem bind_ok {x : Except Fault α} {f : α → Except Fault β}
    (hf : ∀ a, x = .ok a → Yields P (f a)) : Yields P (x >>= f) :=
  bind (fun _ ha => ha) hf

/-- The second step counts, whatever the first gives. -/
theorem after {x : Except Fault α} {f : α → Except Fault β} (hf : ∀ a, Yields P (f a)) :
    Yields P (x >>= f) :=
  bind_ok fun a _ => hf a

theorem ite {p : Prop} [Decidable p] {x y : Except Fault β} (hx : p → Yields P x)
    (hy : ¬p → Yields P y) : Yields P (if p then x else y) := by
  split
  · exact hx ‹p›
  · exact hy ‹¬p›

theorem mapM {f : α → Except Fault β} {as : List α} (h : ∀ a ∈ as, Yields P (f a)) :
    Yields (fun bs => ∀ b ∈ bs, P b) (as.mapM f) := by
  intro bs hbs b hb
  obtain ⟨i, hi, rfl⟩ := List.getElem_of_mem hb
  have hall := List.forall₂_iff_get.mp (mapM_eq_ok_iff.mp hbs)
  exact h _ (List.get_mem as ⟨i, hall.1 ▸ hi⟩) _ (hall.2 i (hall.1 ▸ hi) hi)

/-- Of items that may have no result, the results that are there. -/
theorem filterMap_mapM {f : α → Except Fault (Option β)} {as : List α}
    (h : ∀ a ∈ as, Yields (fun found => ∀ b ∈ found, P b) (f a)) :
    Yields (fun bs => ∀ b ∈ bs, P b)
      (as.mapM f >>= fun found => Pure.pure (found.filterMap id)) := by
  refine bind (mapM h) fun found hfound => pure fun b hb => ?_
  obtain ⟨o, ho, hsome⟩ := List.mem_filterMap.mp hb
  exact hfound o ho b hsome

end Yields

end ReleaseReview
