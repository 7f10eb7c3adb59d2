import Mathlib.Data.List.Count
import Mathlib.Logic.Relation
import ReleaseReview.Proofs.Agreement
import ReleaseReview.Proofs.Locality

/-!
# Walks from stage to stage

Two checks follow the links between stages for as long as they meet anchors: one from a navigation,
one from the end of a wait, which may also pass a calculation. Nothing in the object bounds such a
walk, so the loops are taken apart here into their rounds (`timeoutRound`, `anchorRound`), and
`EndsWithin` counts the rounds up to the end.

If no anchors lead round in a circle, the anchors beyond a stage become fewer with every anchor
that is passed (`anchorsBeyond_lt`). This bounds both walks, and `stage_walks_end` gives the bounds:
a walk from a navigation meets each anchor at most once, one from the end of a wait at most once
before its calculation and once after it.
-/

namespace ReleaseReview

open Markup Placed Relation

/-! ## Loops and their rounds -/

/-- What a round of a loop comes to: the result of the loop, or the state of the next round. -/
inductive Round (σ ρ : Type) where
  | done (result : ρ)
  | next (state : σ)

variable {σ ρ : Type} {round : σ → Except Fault (Round σ ρ)}

/-- The loop comes to an end, with a result or a fault, in at most this many rounds. -/
inductive EndsWithin (round : σ → Except Fault (Round σ ρ)) : Nat → σ → Prop
  | fault {n : Nat} {s : σ} {fault : Fault} (h : round s = .error fault) :
    EndsWithin round (n + 1) s
  | done {n : Nat} {s : σ} {result : ρ} (h : round s = .ok (.done result)) :
    EndsWithin round (n + 1) s
  | next {n : Nat} {s t : σ} (h : round s = .ok (.next t)) (rest : EndsWithin round n t) :
    EndsWithin round (n + 1) s

/-- Runs a loop for so many rounds at most. -/
def loop (round : σ → Except Fault (Round σ ρ)) : Nat → σ → Except Fault ρ
  | 0, _ => .error .endless
  | n + 1, s => do
    match ← round s with
    | .done result => return result
    | .next t => loop round n t

namespace EndsWithin

theorem mono {n m : Nat} {s : σ} (h : EndsWithin round n s) (hle : n ≤ m) :
    EndsWithin round m s := by
  induction h generalizing m with
  | fault hround =>
    obtain ⟨m, rfl⟩ := Nat.exists_eq_add_of_lt hle
    exact .fault hround
  | done hround =>
    obtain ⟨m, rfl⟩ := Nat.exists_eq_add_of_lt hle
    exact .done hround
  | next hround _ ih =>
    obtain ⟨k, rfl⟩ : ∃ k, m = k + 1 := ⟨m - 1, by omega⟩
    exact .next hround (ih (by omega))

/-- A loop ends if something becomes less with every round that has a next one. -/
theorem of_decreasing (size : σ → Nat)
    (h : ∀ s t, round s = .ok (.next t) → size t < size s) (s : σ) :
    EndsWithin round (size s + 1) s := by
  induction hsize : size s using Nat.strongRecOn generalizing s with
  | ind n ih =>
    cases hround : round s with
    | error fault => exact .fault hround
    | ok outcome =>
      cases outcome with
      | done result => exact .done hround
      | next t =>
        have hlt : size t < n := hsize ▸ h s t hround
        exact .next hround ((ih (size t) hlt t rfl).mono hlt)

/-- Once a loop has come to its end, more rounds change nothing. -/
theorem loop_eq {n m : Nat} {s : σ} (h : EndsWithin round n s) (hle : n ≤ m) :
    loop round m s = loop round n s := by
  induction h generalizing m with
  | fault hround | done hround =>
    obtain ⟨k, rfl⟩ : ∃ k, m = k + 1 := ⟨m - 1, by omega⟩
    simp only [loop, hround]
    rfl
  | next hround _ ih =>
    obtain ⟨k, rfl⟩ : ∃ k, m = k + 1 := ⟨m - 1, by omega⟩
    simp only [loop, hround, ok_bind]
    exact ih (by omega)

theorem loop_ne_endless {n : Nat} {s : σ} (h : EndsWithin round n s)
    (hround : ∀ s, round s ≠ .error .endless) : loop round n s ≠ .error .endless := by
  induction h with
  | @fault n s fault hfault =>
    simp only [loop, hfault]
    rintro ⟨rfl⟩
    exact hround s hfault
  | done hdone =>
    simp only [loop, hdone, ok_bind]
    exact nofun
  | next hnext _ ih =>
    simp only [loop, hnext, ok_bind]
    exact ih

end EndsWithin

/-! ## The rounds of the two walks -/

/-- The stage that a link leads to. -/
def target? (object : Element) (link : Option Element) : Option Element :=
  link.bind fun l => stageWithId? object l.soleText?

theorem successor?_eq_target? (stage object : Element) :
    successor? stage object = target? object (stage.within? "onsuccess") := by
  unfold successor? target?
  cases stage.within? "onsuccess" <;> rfl

/-- A round of the walk from a stage over anchors. -/
def anchorRound (object stage : Element) : Except Fault (Round Element (Option String)) := do
  let link ← need "string" (stage.within? "onsuccess")
  let next ← need "get" (stageWithId? object link.soleText?)
  if next.attr? "type" = some "Anchor" then return .next next
  return .done (next.attr? "type")

theorem afterAnchors_eq_loop (object : Element) (fuel : Nat) (stage : Element) :
    afterAnchors object fuel stage = loop (anchorRound object) fuel stage := by
  induction fuel generalizing stage with
  | zero => rfl
  | succ fuel ih =>
    simp only [afterAnchors, loop, anchorRound, bind_assoc]
    refine bind_congr fun link => bind_congr fun next => ?_
    split
    · exact ih next
    · rfl

/-- A round of the walk along a link over anchors and a calculation. -/
def timeoutRound (object : Element) (ids : TimeoutIds) (state : Bool × Option Element) :
    Except Fault (Round (Bool × Option Element) (Option String)) := do
  let target := (← need "string" state.2).soleText?
  if ← leadsTo ids.exceptions target then return .done (some "Exception")
  if ← leadsTo ids.ends target then return .done (some "End")
  let calculation ← leadsTo ids.calculations target
  if calculation && state.1 then return .done (some "Calculation")
  let stage ← need "get" (stageWithId? object target)
  let type := stage.attr? "type"
  if type = some "Anchor" ∨ type = some "Calculation" then
    return .next (state.1 || calculation, stage.within? "onsuccess")
  return .done type

theorem timeoutTarget_eq_loop (object : Element) (ids : TimeoutIds) (fuel : Nat)
    (calculated : Bool) (link : Option Element) :
    timeoutTarget object ids fuel calculated link =
      loop (timeoutRound object ids) fuel (calculated, link) := by
  induction fuel generalizing calculated link with
  | zero => rfl
  | succ fuel ih =>
    simp only [timeoutTarget, loop, timeoutRound, bind_assoc]
    refine bind_congr fun target => bind_congr fun exception => ?_
    split
    · rfl
    simp only [bind_assoc]
    refine bind_congr fun ending => ?_
    split
    · rfl
    simp only [bind_assoc]
    refine bind_congr fun calculation => ?_
    split
    · rfl
    simp only [bind_assoc]
    refine bind_congr fun stage => ?_
    split
    · exact ih _ _
    · rfl

/-- The ways in which a round along a link comes out without a fault. -/
inductive TimeoutCase (object : Element) (ids : TimeoutIds) (calculated : Bool) (link : Element) :
    Round (Bool × Option Element) (Option String) → Prop
  | exception (hexception : leadsTo ids.exceptions link.soleText? = .ok true) :
    TimeoutCase object ids calculated link (.done (some "Exception"))
  | ending (hexception : leadsTo ids.exceptions link.soleText? = .ok false)
    (hending : leadsTo ids.ends link.soleText? = .ok true) :
    TimeoutCase object ids calculated link (.done (some "End"))
  | secondCalculation (hexception : leadsTo ids.exceptions link.soleText? = .ok false)
    (hending : leadsTo ids.ends link.soleText? = .ok false)
    (hcalculation : leadsTo ids.calculations link.soleText? = .ok true)
    (hcalculated : calculated = true) :
    TimeoutCase object ids calculated link (.done (some "Calculation"))
  | pass {calculation : Bool} {stage : Element}
    (hexception : leadsTo ids.exceptions link.soleText? = .ok false)
    (hending : leadsTo ids.ends link.soleText? = .ok false)
    (hcalculation : leadsTo ids.calculations link.soleText? = .ok calculation)
    (hfirst : (calculation && calculated) = false)
    (hstage : stageWithId? object link.soleText? = some stage)
    (htype : stage.attr? "type" = some "Anchor" ∨ stage.attr? "type" = some "Calculation") :
    TimeoutCase object ids calculated link
      (.next (calculated || calculation, stage.within? "onsuccess"))
  | stop {calculation : Bool} {stage : Element}
    (hexception : leadsTo ids.exceptions link.soleText? = .ok false)
    (hending : leadsTo ids.ends link.soleText? = .ok false)
    (hcalculation : leadsTo ids.calculations link.soleText? = .ok calculation)
    (hstage : stageWithId? object link.soleText? = some stage)
    (htype : ¬(stage.attr? "type" = some "Anchor" ∨ stage.attr? "type" = some "Calculation")) :
    TimeoutCase object ids calculated link (.done (stage.attr? "type"))

theorem timeoutRound_cases {object : Element} {ids : TimeoutIds} {calculated : Bool}
    {link? : Option Element} {outcome : Round (Bool × Option Element) (Option String)}
    (h : timeoutRound object ids (calculated, link?) = .ok outcome) :
    ∃ link, link? = some link ∧ TimeoutCase object ids calculated link outcome := by
  obtain ⟨link, hlink, h⟩ := bind_eq_ok.mp h
  refine ⟨link, need_eq_ok_iff.mp hlink, ?_⟩
  obtain ⟨exception, hexception, h⟩ := bind_eq_ok.mp h
  cases exception with
  | true =>
    rw [← pure_eq_ok.mp h]
    exact .exception hexception
  | false =>
  obtain ⟨ending, hending, h⟩ := bind_eq_ok.mp h
  cases ending with
  | true =>
    rw [← pure_eq_ok.mp h]
    exact .ending hexception hending
  | false =>
  obtain ⟨calculation, hcalculation, h⟩ := bind_eq_ok.mp h
  cases hfirst : calculation && calculated with
  | true =>
    obtain ⟨rfl, rfl⟩ := Bool.and_eq_true_iff.mp hfirst
    rw [← pure_eq_ok.mp h]
    exact .secondCalculation hexception hending hcalculation rfl
  | false =>
  simp only [hfirst, Bool.false_eq_true, if_false] at h
  obtain ⟨stage, hstage, h⟩ := bind_eq_ok.mp h
  rw [need_eq_ok_iff] at hstage
  split at h
  next htype =>
    rw [← pure_eq_ok.mp h]
    exact .pass hexception hending hcalculation hfirst hstage htype
  next htype =>
    rw [← pure_eq_ok.mp h]
    exact .stop hexception hending hcalculation hstage htype

/-! ## Faults of a round -/

theorem bind_ne_endless {α β : Type} {x : Except Fault α} {f : α → Except Fault β}
    (hx : x ≠ .error .endless) (hf : ∀ a, f a ≠ .error .endless) : x >>= f ≠ .error .endless := by
  cases x with
  | error fault =>
    intro h
    exact hx (congrArg Except.error (Except.error.inj h))
  | ok a => exact hf a

theorem need_ne_endless {α : Type} (member : String) (x : Option α) :
    need member x ≠ .error .endless := by
  cases x <;> exact nofun

theorem leadsTo_ne_endless (ids : List (Option String)) (link : Option String) :
    leadsTo ids link ≠ .error .endless := by
  unfold leadsTo
  induction ids with
  | nil => exact nofun
  | cons id ids ih =>
    rw [List.anyM_cons]
    refine bind_ne_endless ?_ fun found => ?_
    · cases link <;> cases id <;> exact nofun
    · cases found
      · exact ih
      · exact nofun

theorem anchorRound_ne_endless (object stage : Element) :
    anchorRound object stage ≠ .error .endless := by
  refine bind_ne_endless (need_ne_endless _ _) fun link =>
    bind_ne_endless (need_ne_endless _ _) fun next => ?_
  split <;> exact nofun

theorem timeoutRound_ne_endless (object : Element) (ids : TimeoutIds)
    (state : Bool × Option Element) : timeoutRound object ids state ≠ .error .endless := by
  refine bind_ne_endless (need_ne_endless _ _) fun target =>
    bind_ne_endless (leadsTo_ne_endless _ _) fun exception => ?_
  split
  · exact nofun
  refine bind_ne_endless (leadsTo_ne_endless _ _) fun ending => ?_
  split
  · exact nofun
  refine bind_ne_endless (leadsTo_ne_endless _ _) fun calculation => ?_
  split
  · exact nofun
  refine bind_ne_endless (need_ne_endless _ _) fun stage => ?_
  dsimp only
  split <;> exact nofun

/-! ## Anchors ahead -/

/-- One of the object's anchors leads on to another. -/
structure AnchorLink (object a b : Element) : Prop where
  mem : a ∈ object.childrenNamed "stage"
  type : a.attr? "type" = some "Anchor"
  next : successor? a object = some b
  nextType : b.attr? "type" = some "Anchor"

/-- No anchors lead round in a circle. -/
def NoAnchorCircle (object : Element) : Prop :=
  ∀ anchor, ¬TransGen (AnchorLink object) anchor anchor

open Classical in
/-- The number of the object's anchors that a stage leads to over anchors. -/
noncomputable def anchorsBeyond (object : Placed) (stage : Element) : Nat :=
  (stagesOf object "Anchor").countP fun anchor =>
    TransGen (AnchorLink object) stage anchor.toElement

/-- The number of anchors on the way along a link, from the stage that it leads to. -/
noncomputable def anchorsAhead (object : Placed) (link : Option Element) : Nat :=
  match target? object link with
  | some next =>
    if next.attr? "type" = some "Anchor" then anchorsBeyond object next + 1 else 0
  | none => 0

variable {object : Placed}

/-- A stage that is found by its id is among the object's stages of its type. -/
theorem mem_stagesOf_of_stageWithId? {id : Option String} {stage : Element} {type : String}
    (h : stageWithId? object id = some stage) (htype : stage.attr? "type" = some type) :
    ∃ found ∈ stagesOf object type, found.toElement = stage := by
  have hmem : stage ∈ (stagesOf object type).map toElement := by
    rw [map_toElement_stagesOf]
    exact List.mem_filter.mpr ⟨List.mem_of_find?_eq_some h, by simp [htype]⟩
  exact List.mem_map.mp hmem

/-- The id that a stage is found by is its own, if it has one. -/
theorem eq_some_of_stageWithId? {object : Element} {id : Option String} {stage : Element}
    {own : String} (h : stageWithId? object id = some stage)
    (hown : stage.attr? "stageid" = some own) : id = some own := by
  have hmeets : meets id (stage.attr? "stageid") = true := by
    simpa using List.find?_some h
  simpa [meets, hown] using hmeets

theorem mem_stagesOf_of_target? {link : Option Element} {stage : Element} {type : String}
    (h : target? object link = some stage) (htype : stage.attr? "type" = some type) :
    ∃ found ∈ stagesOf object type, found.toElement = stage := by
  obtain ⟨l, rfl, hfound⟩ := Option.bind_eq_some_iff.mp h
  exact mem_stagesOf_of_stageWithId? hfound htype

open Classical in
/-- With every anchor that is passed there are fewer anchors beyond. -/
theorem anchorsBeyond_lt (hcircle : NoAnchorCircle object) {a b : Element}
    (h : AnchorLink object a b) : anchorsBeyond object b < anchorsBeyond object a := by
  obtain ⟨found, hfound, rfl⟩ := mem_stagesOf_of_target?
    ((successor?_eq_target? a object).symm.trans h.next) h.nextType
  let beyond (stage : Element) (anchor : Placed) : Bool :=
    TransGen (AnchorLink object) stage anchor.toElement
  have hsub : ∀ anchor, beyond found anchor = (beyond found anchor && beyond a anchor) := by
    intro anchor
    by_cases hanchor : beyond found anchor = true
    · have : beyond a anchor = true :=
        decide_eq_true (TransGen.head h (of_decide_eq_true hanchor))
      simp [hanchor, this]
    · simp [hanchor]
  calc anchorsBeyond object found
      = ((stagesOf object "Anchor").filter (beyond a)).countP (beyond found) := by
        rw [List.countP_filter]
        exact List.countP_congr fun anchor _ => by rw [← hsub anchor]
    _ < ((stagesOf object "Anchor").filter (beyond a)).length := by
        refine List.countP_lt_length_iff.mpr ⟨found, List.mem_filter.mpr ⟨hfound, ?_⟩, ?_⟩
        · exact decide_eq_true (TransGen.single h)
        · exact decide_eq_false (hcircle found)
    _ = anchorsBeyond object a := List.countP_eq_length_filter.symm

open Classical in
/-- An anchor is not beyond itself, so there are fewer beyond it than there are anchors. -/
theorem anchorsBeyond_lt_anchorCount (hcircle : NoAnchorCircle object) {link : Option Element}
    {stage : Element} (h : target? object link = some stage)
    (htype : stage.attr? "type" = some "Anchor") :
    anchorsBeyond object stage < anchorCount object := by
  obtain ⟨found, hfound, rfl⟩ := mem_stagesOf_of_target? h htype
  exact List.countP_lt_length_iff.mpr ⟨found, hfound, decide_eq_false (hcircle found)⟩

theorem anchorsAhead_le (hcircle : NoAnchorCircle object) (link : Option Element) :
    anchorsAhead object link ≤ anchorCount object := by
  unfold anchorsAhead
  split
  next next hnext =>
    split
    next htype => exact anchorsBeyond_lt_anchorCount hcircle hnext htype
    next => exact Nat.zero_le _
  next => exact Nat.zero_le _

/-- There are fewer anchors ahead at an anchor's own link than at a link that leads to it. -/
theorem anchorsAhead_lt (hcircle : NoAnchorCircle object) {link : Option Element} {stage : Element}
    (h : target? object link = some stage) (htype : stage.attr? "type" = some "Anchor") :
    anchorsAhead object (stage.within? "onsuccess") < anchorsAhead object link := by
  have hahead : anchorsAhead object link = anchorsBeyond object stage + 1 := by
    simp only [anchorsAhead, h, htype, if_true]
  obtain ⟨l, rfl, hfound⟩ := Option.bind_eq_some_iff.mp h
  rw [hahead, Nat.lt_succ_iff, anchorsAhead]
  split
  next next hnext =>
    split
    next hanchor =>
      exact anchorsBeyond_lt hcircle ⟨List.mem_of_find?_eq_some hfound, htype,
        (successor?_eq_target? _ _).trans hnext, hanchor⟩
    next => exact Nat.zero_le _
  next => exact Nat.zero_le _

/-! ## The walks come to an end -/

/-- A round of the walk over anchors that has a next one passes an anchor. -/
theorem anchorRound_next {stage next : Element}
    (h : anchorRound object stage = .ok (.next next)) :
    target? object (stage.within? "onsuccess") = some next ∧
      next.attr? "type" = some "Anchor" := by
  obtain ⟨link, hlink, h⟩ := bind_eq_ok.mp h
  obtain ⟨found, hfound, h⟩ := bind_eq_ok.mp h
  rw [need_eq_ok_iff] at hlink hfound
  split at h
  next htype =>
    obtain rfl : found = next := Round.next.inj (pure_eq_ok.mp h)
    exact ⟨by rw [hlink]; exact hfound, htype⟩
  next => cases h

theorem occurs_self (word : String) : Text.occurs word word = true :=
  Text.occursIn_iff.mpr (List.infix_refl _)

/-- A link that leads to a stage is told to lead to its type, since the stage's id stands in it. -/
theorem leadsTo_of_stageWithId? {id : Option String} {stage : Element} {type : String}
    {leads : Bool} (hstage : stageWithId? object id = some stage)
    (htype : stage.attr? "type" = some type)
    (h : leadsTo ((stagesOf object type).map fun s => s.attr? "stageid") id = .ok leads) :
    leads = true := by
  obtain ⟨found, hfound, rfl⟩ := mem_stagesOf_of_stageWithId? hstage htype
  cases leads with
  | true => rfl
  | false =>
    have hnot := anyM_eq_ok_false h _ (List.mem_map_of_mem hfound)
    cases hid : found.attr? "stageid" with
    | none => cases id <;> simp [nameIn, hid] at hnot
    | some own =>
      obtain rfl := eq_some_of_stageWithId? hstage hid
      simp [nameIn, hid, occurs_self] at hnot

/-- How far the walk along a link can still go: over each anchor once, and once more after its
calculation. -/
noncomputable def timeoutSize (object : Placed) (state : Bool × Option Element) : Nat :=
  (if state.1 then 0 else anchorCount object + 1) + anchorsAhead object state.2

/-- A round of the walk along a link brings the walk nearer to its end. -/
theorem timeoutSize_lt (hcircle : NoAnchorCircle object) {s t : Bool × Option Element}
    (h : timeoutRound object (.of object) s = .ok (.next t)) :
    timeoutSize object t < timeoutSize object s := by
  obtain ⟨calculated, link?⟩ := s
  obtain ⟨link, rfl, hcase⟩ := timeoutRound_cases h
  cases hcase with
  | @pass calculation stage _ _ hcalculation hfirst hstage htype =>
    have htarget : target? object (some link) = some stage := hstage
    rcases htype with htype | htype
    · have hlt := anchorsAhead_lt hcircle htarget htype
      cases calculated <;> cases calculation <;>
        simp only [timeoutSize, Bool.or_true, Bool.or_false, Bool.false_eq_true, if_true,
          if_false] <;> omega
    · -- The flag is raised at the first calculation, however the links go on from there.
      obtain rfl := leadsTo_of_stageWithId? hstage htype hcalculation
      obtain rfl : calculated = false := by simpa using hfirst
      have hle := anchorsAhead_le hcircle (stage.within? "onsuccess")
      simp only [timeoutSize, Bool.or_true, Bool.false_eq_true, if_true, if_false]
      omega

theorem endsWithin_timeoutRound (hcircle : NoAnchorCircle object) (link : Option Element) :
    EndsWithin (timeoutRound object (.of object)) (timeoutFuel object) (false, link) := by
  refine (EndsWithin.of_decreasing (timeoutSize object)
    (fun _ _ => timeoutSize_lt hcircle) (false, link)).mono ?_
  have hle := anchorsAhead_le hcircle link
  simp only [timeoutSize, timeoutFuel, Bool.false_eq_true, if_false]
  omega

theorem endsWithin_anchorRound (hcircle : NoAnchorCircle object) (stage : Element) :
    EndsWithin (anchorRound object) (anchorCount object + 1) stage := by
  refine (EndsWithin.of_decreasing (fun s => anchorsAhead object (s.within? "onsuccess"))
    (fun s next h => ?_) stage).mono (Nat.succ_le_succ (anchorsAhead_le hcircle _))
  obtain ⟨hnext, htype⟩ := anchorRound_next h
  exact anchorsAhead_lt hcircle hnext htype

/-- If no anchors lead round in a circle, the walk from the end of a wait ends within two rounds
more than twice the number of anchors, and that from a navigation within one round more than there
are anchors. So each has a result or a fault of its own, and more rounds would not change it. -/
theorem stage_walks_end (hcircle : NoAnchorCircle object) :
    (∀ link : Option Element,
      EndsWithin (timeoutRound object (.of object)) (2 * anchorCount object + 2) (false, link) ∧
      ∀ fuel, 2 * anchorCount object + 2 ≤ fuel →
        timeoutTarget object (.of object) fuel false link =
          timeoutTarget object (.of object) (timeoutFuel object) false link ∧
        timeoutTarget object (.of object) fuel false link ≠ .error .endless) ∧
    ∀ stage : Element,
      EndsWithin (anchorRound object) (anchorCount object + 1) stage ∧
      ∀ fuel, anchorCount object + 1 ≤ fuel →
        afterAnchors object fuel stage = afterAnchors object (anchorCount object + 1) stage ∧
        afterAnchors object fuel stage ≠ .error .endless := by
  constructor
  · intro link
    have hends := endsWithin_timeoutRound hcircle link
    refine ⟨hends, fun fuel hfuel => ?_⟩
    simp only [timeoutTarget_eq_loop]
    rw [hends.loop_eq hfuel]
    exact ⟨rfl, hends.loop_ne_endless (timeoutRound_ne_endless object _)⟩
  · intro stage
    have hends := endsWithin_anchorRound hcircle stage
    refine ⟨hends, fun fuel hfuel => ?_⟩
    simp only [afterAnchors_eq_loop]
    rw [hends.loop_eq hfuel]
    exact ⟨rfl, hends.loop_ne_endless (anchorRound_ne_endless object)⟩

/-- Something that becomes less from anchor to anchor rules circles out. -/
theorem noAnchorCircle_of_rank {object : Element} (rank : Element → Nat)
    (h : ∀ a b, AnchorLink object a b → rank b < rank a) : NoAnchorCircle object := by
  have hlt : ∀ a b, TransGen (AnchorLink object) a b → rank b < rank a := by
    intro a b hab
    induction hab with
    | single hlink => exact h _ _ hlink
    | tail _ hlink ih => exact Nat.lt_trans (h _ _ hlink) ih
  exact fun anchor hanchor => Nat.lt_irrefl _ (hlt anchor anchor hanchor)

/-- A stage with an id, a type and a link, on the only page of its object. -/
def linkedStage (id type next : String) : Element where
  name := "stage"
  attributes := [("stageid", id), ("type", type), ("name", id)]
  children :=
    [.element "subsheetid" [] [.leaf .text "page"], .element "onsuccess" [] [.leaf .text next]]

/-- An object with one page and these stages. -/
def stagedObject (stages : List Element) : Placed :=
  .alone ⟨"process", [("name", "Base A")],
    .element "subsheet" [("subsheetid", "page")] [.element "name" [] [.leaf .text "Page"]] ::
      stages.map Element.toNode⟩

/-- Two anchors and a calculation in a circle, and the end of a wait that leads there. -/
def circlingStages : List Element :=
  [linkedStage "w" "WaitEnd" "a", linkedStage "a" "Anchor" "b", linkedStage "b" "Anchor" "c",
   linkedStage "c" "Calculation" "a"]

/-- The object with these stages. -/
def circlingObject : Placed :=
  stagedObject circlingStages

theorem stages_circlingObject : circlingObject.childrenNamed "stage" = circlingStages :=
  rfl

theorem circlingObject_noAnchorCircle : NoAnchorCircle circlingObject := by
  refine noAnchorCircle_of_rank (fun s => if s.attr? "stageid" = some "a" then 1 else 0) ?_
  rintro a b ⟨hmem, htype, hnext, hnextType⟩
  simp only [stages_circlingObject, circlingStages, List.mem_cons, List.not_mem_nil,
    or_false] at hmem
  rcases hmem with rfl | rfl | rfl | rfl
  · exact absurd htype (by decide)
  · cases hnext
    decide
  · cases hnext
    exact absurd hnextType (by decide)
  · exact absurd htype (by decide)

/-- The walk from the end of the wait goes through the circle twice before it ends, so it needs all
the rounds that the bound allows. -/
theorem circling_walk_ends :
    NoAnchorCircle circlingObject ∧ anchorCount circlingObject = 2 ∧
    timeoutTarget circlingObject (.of circlingObject) 5 false
      ((linkedStage "w" "WaitEnd" "a").within? "onsuccess") = .error .endless ∧
    EndsWithin (timeoutRound circlingObject (.of circlingObject)) 6
      (false, (linkedStage "w" "WaitEnd" "a").within? "onsuccess") ∧
    afterAnchors circlingObject 2 (linkedStage "w" "WaitEnd" "a") = .error .endless ∧
    EndsWithin (anchorRound circlingObject) 3 (linkedStage "w" "WaitEnd" "a") :=
  ⟨circlingObject_noAnchorCircle, rfl, by decide +kernel,
    ((stage_walks_end circlingObject_noAnchorCircle).1 _).1, by decide +kernel,
    ((stage_walks_end circlingObject_noAnchorCircle).2 _).1⟩

end ReleaseReview
