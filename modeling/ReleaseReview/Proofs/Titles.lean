import Mathlib.Data.List.Perm.Basic
import ReleaseReview.Check.Title
import ReleaseReview.Proofs.ModelElements

/-!
# Titles and their findings

A title is cut at its hyphens, from the left, and has to come apart into two parts of which one
names a known type of element. `CutAt` says what it is to cut a text, `WellTitled` what a title
should be.

`TitleCase` lists the ways in which the check of a title ends without a fault, each with all that it
notes. From this follows what one call adds to the findings (`CallAdds`), and from that, along a run
of calls, that the errors count the calls that were answered with `false`.
-/

namespace ReleaseReview

open Markup Text

/-! ## What work leaves -/

namespace Account

variable {ν α β : Type} {P : List ν → β → Prop}

/-- Whatever the work comes to, if it comes to anything, satisfies `P` with the notes left. -/
def Leaves (P : List ν → α → Prop) (account : Account ν α) : Prop :=
  ∀ a, account.result = .ok a → P account.notes a

namespace Leaves

theorem pure {b : β} (h : P [] b) : Leaves P (Pure.pure b) := by
  intro a ha
  cases ha
  exact h

theorem error (fault : Fault) : Leaves P (of (.error fault)) :=
  fun _ hfault => nomatch hfault

/-- Work that leaves no notes, and then more of it. -/
theorem after {x : Except Fault α} {rest : α → Account ν β}
    (h : ∀ a, x = .ok a → Leaves P (rest a)) :
    Leaves P ((liftM x : Account ν α) >>= rest) := by
  intro b hb
  obtain ⟨a, ha, hrest, hnotes⟩ := bind_eq_ok hb
  rw [hnotes]
  exact h a ha b hrest

theorem note {n : ν} {rest : Unit → Account ν β}
    (h : Leaves (fun notes b => P (n :: notes) b) (rest ())) :
    Leaves P (Account.note n >>= rest) := by
  intro b hb
  obtain ⟨⟨⟩, -, hrest, hnotes⟩ := bind_eq_ok hb
  rw [hnotes]
  exact h b hrest

theorem ite {p : Prop} [Decidable p] {x y : Account ν β} (hx : p → Leaves P x)
    (hy : ¬p → Leaves P y) : Leaves P (if p then x else y) := by
  split
  · exact hx ‹p›
  · exact hy ‹¬p›

end Leaves

end Account

/-! ## Texts cut at a mark -/

namespace Text

/-- The text cut at the first place where the mark stands, and then what follows it again. -/
inductive CutAt (mark : List Char) : List Char → List (List Char) → Prop
  | whole {text : List Char} (htext : ¬mark <:+: text) : CutAt mark text [text]
  | first {part rest : List Char} {parts : List (List Char)}
      (hpart : ∀ before after, part ++ mark ++ rest = before ++ mark ++ after →
        part.length ≤ before.length)
      (hrest : CutAt mark rest parts) : CutAt mark (part ++ mark ++ rest) (part :: parts)

theorem cutFrom_skip (mark : List Char) (skip : Nat) (part cs : List Char) :
    cutFrom mark skip part cs = cutFrom mark 0 part (cs.drop skip) := by
  induction skip generalizing cs with
  | zero => rfl
  | succ skip ih =>
    cases cs with
    | nil => rfl
    | cons c cs => exact ih cs

/-- The current part ends where the mark stands. -/
theorem cutFrom_mark {mark : List Char} (hmark : mark ≠ []) (part rest : List Char) :
    cutFrom mark 0 part (mark ++ rest) = part.reverse :: cutFrom mark 0 [] rest := by
  obtain ⟨c, cs, rfl⟩ := List.exists_cons_of_ne_nil hmark
  have hprefix : (c :: cs).isPrefixOf (c :: (cs ++ rest)) = true :=
    List.isPrefixOf_iff_prefix.mpr (List.prefix_append (c :: cs) rest)
  rw [List.cons_append, cutFrom, if_pos hprefix, cutFrom_skip]
  simp

/-- The mark is not missed if it does not begin inside the current part. -/
theorem cutAt_cutFrom {mark : List Char} (hmark : mark ≠ []) (cs part : List Char)
    (hpart : ∀ before after, part.reverse ++ cs = before ++ mark ++ after →
      part.length ≤ before.length) :
    CutAt mark (part.reverse ++ cs) (cutFrom mark 0 part cs) := by
  -- By the length of what is left, since a mark is passed over as a whole.
  induction hlength : cs.length using Nat.strongRecOn generalizing cs part with
  | ind n ih =>
    by_cases hprefix : mark <+: cs
    · obtain ⟨rest, rfl⟩ := hprefix
      have hshorter : rest.length < n := by
        have hpos := List.length_pos_of_ne_nil hmark
        rw [← hlength, List.length_append]
        omega
      have hrest := ih rest.length hshorter rest [] (fun _ _ _ => Nat.zero_le _) rfl
      rw [cutFrom_mark hmark, ← List.append_assoc]
      refine .first (fun before after h => ?_) hrest
      rw [List.length_reverse]
      exact hpart before after (by rw [← List.append_assoc, h])
    · cases cs with
      | nil =>
        rw [List.append_nil]
        refine .whole ?_
        rintro ⟨before, after, h⟩
        have hle := hpart before after (by rw [List.append_nil, h])
        have hlen := congrArg List.length h
        have hpos := List.length_pos_of_ne_nil hmark
        simp only [List.length_append, List.length_reverse] at hlen
        omega
      | cons c cs =>
        have hnot : mark.isPrefixOf (c :: cs) = false := by
          rw [← Bool.not_eq_true, List.isPrefixOf_iff_prefix]
          exact hprefix
        rw [cutFrom, if_neg (by rw [hnot]; exact Bool.false_ne_true)]
        have hsplit : part.reverse ++ c :: cs = (c :: part).reverse ++ cs := by simp
        rw [hsplit] at hpart ⊢
        refine ih cs.length (by rw [← hlength]; simp) cs (c :: part) (fun before after h => ?_) rfl
        -- A mark that begins right behind the part would be at the front of what is left.
        rcases Nat.lt_or_ge part.length before.length with hlt | hge
        · exact hlt
        · exfalso
          have hlen := Nat.le_antisymm (hpart before after h) hge
          rw [← hsplit, List.append_assoc] at h
          have hinj := List.append_inj h (by simp [hlen])
          exact hprefix ⟨after, hinj.2.symm⟩

theorem CutAt.unique {mark text : List Char} {parts others : List (List Char)}
    (h : CutAt mark text parts) (hother : CutAt mark text others) : parts = others := by
  induction h generalizing others with
  | whole htext =>
    cases hother with
    | whole => rfl
    | @first part rest _ _ _ => exact absurd ⟨part, rest, rfl⟩ htext
  | @first part rest parts hpart hrest ih =>
    generalize htext : part ++ mark ++ rest = text at hother
    cases hother with
    | whole hnot => exact absurd ⟨part, rest, htext⟩ hnot
    | @first part' rest' parts' hpart' hrest' =>
      have hlen : part.length = part'.length :=
        Nat.le_antisymm (hpart _ _ htext) (hpart' _ _ htext.symm)
      rw [List.append_assoc, List.append_assoc] at htext
      obtain ⟨rfl, hrests⟩ := List.append_inj htext hlen
      obtain rfl := List.append_cancel_left hrests
      rw [ih hrest']

theorem cutAt_iff {mark text : String} (hmark : mark.toList ≠ []) {parts : List (List Char)} :
    CutAt mark.toList text.toList parts ↔ cut mark text = parts.map String.ofList := by
  have hcut : CutAt mark.toList text.toList (cutFrom mark.toList 0 [] text.toList) :=
    cutAt_cutFrom hmark text.toList [] fun _ _ _ => Nat.zero_le _
  constructor
  · intro h
    rw [cut, h.unique hcut]
  · intro h
    have hparts : cutFrom mark.toList 0 [] text.toList = parts :=
      List.map_injective_iff.mpr (fun _ _ => String.ofList_inj.mp) h
    exact hparts ▸ hcut

end Text

/-! ## Good titles -/

/-- The part of a title has the word for a known type of element in it, in lower case. -/
def NamesKnownType (part : List Char) : Prop :=
  ∃ word ∈ elementTypeWords, word.toList <:+: (lower (String.ofList part)).toList

/-- The title has two parts, and the one for the type names a known type of element. -/
def WellTitled (typeFirst : Bool) (title : String) : Prop :=
  ∃ first second, CutAt " - ".toList title.toList [first, second] ∧
    NamesKnownType (if typeFirst then first else second)

/-- The part of a title in which the type of the element should stand. -/
def typePart (typeFirst : Bool) (first second : String) : String :=
  if typeFirst then first else second

variable {application title first second : String} {typeFirst : Bool}

theorem namesElementType_iff {part : List Char} :
    namesElementType (String.ofList part) = true ↔ NamesKnownType part := by
  simp only [namesElementType, anyOccurs, List.any_eq_true, occurs, occursIn_iff, NamesKnownType]

theorem wellTitled_iff_of_parts (hparts : titleParts title = [first, second]) :
    WellTitled typeFirst title ↔ namesElementType (typePart typeFirst first second) = true := by
  have hcut : CutAt " - ".toList title.toList [first.toList, second.toList] := by
    rw [cutAt_iff (by decide)]
    simpa [titleParts] using hparts
  have htype : typePart typeFirst first second =
      String.ofList (if typeFirst then first.toList else second.toList) := by
    cases typeFirst <;> simp [typePart]
  rw [htype, namesElementType_iff]
  constructor
  · rintro ⟨first', second', hcut', htype'⟩
    have heq := hcut.unique hcut'
    simp only [List.cons.injEq, and_true] at heq
    rwa [heq.1, heq.2]
  · exact fun h => ⟨_, _, hcut, h⟩

theorem exists_parts_of_wellTitled (h : WellTitled typeFirst title) :
    ∃ first second, titleParts title = [first, second] := by
  obtain ⟨first, second, hcut, -⟩ := h
  exact ⟨_, _, (cutAt_iff (by decide)).mp hcut⟩

/-! ## One call -/

theorem length_titleParts_pos (title : String) : 0 < (titleParts title).length := by
  rw [titleParts, cut, List.length_map]
  exact length_cutFrom_pos _ _ _ _

/-- What has to be at a place in a list of parts is there if the list is long enough. -/
theorem partAt_eq_ok {parts : List String} {i : Nat} (h : i < parts.length) :
    partAt parts i = .ok parts[i] := by
  rw [partAt, List.getElem?_eq_getElem h]

/-- The type stands in the first part or in the second. -/
theorem partAt_type (typeFirst : Bool) (first second : String) :
    partAt [first, second] (if typeFirst then 0 else 1) =
      .ok (typePart typeFirst first second) := by
  cases typeFirst <;> rfl

/-- How the check of a title ends without a fault, and what it notes. -/
inductive TitleCase (application : String) (typeFirst : Bool) (title : String) :
    Bool → List Findings → Prop
  | uncut (hparts : (titleParts title).length ≠ 2) :
    TitleCase application typeFirst title false [judgeHyphens title]
  | unknown {first second : String} (hparts : titleParts title = [first, second])
      (htype : namesElementType (typePart typeFirst first second) = false) :
    TitleCase application typeFirst title false
      [unknownType title (typePart typeFirst first second) typeFirst]
  | known {first second type : String} {dynamic : Bool}
      (hparts : titleParts title = [first, second])
      (htype : namesElementType (typePart typeFirst first second) = true) :
    TitleCase application typeFirst title true
      [judgeTypeLength (typePart typeFirst first second),
        judgeSpyMode title second application type, judgeDynamic title dynamic]

theorem leaves_checkTitle (application : String) (typeFirst : Bool) (element : Element) :
    (checkTitle application typeFirst element).Leaves fun notes returned =>
      ∃ title, element.attr? "name" = some title ∧
        TitleCase application typeFirst title returned notes := by
  refine .after fun type _ => .after fun title htitle => ?_
  have hname := need_eq_ok_iff.mp htitle
  refine .ite (fun hlength => .after fun part hpart => ?_) fun hlength =>
    .note (.pure ⟨title, hname, .uncut hlength⟩)
  obtain ⟨first, second, hparts⟩ := List.length_eq_two.mp hlength
  rw [hparts, partAt_type] at hpart
  obtain rfl := Except.ok.inj hpart
  refine .ite (fun hknown => .note ?_) fun hunknown => ?_
  · cases type with
    | none => exact .error _
    | some type =>
      refine .after fun ending hending => .note (.after fun dynamic _ => .note (.pure ?_))
      rw [hparts] at hending
      obtain rfl : second = ending := Except.ok.inj hending
      exact ⟨title, hname, .known hparts hknown⟩
  · exact .note (.pure ⟨title, hname, .unknown hparts (Bool.eq_false_iff.mpr hunknown)⟩)

/-! ## What a call adds -/

/-- Nothing, or one warning of some sort. -/
def Findings.WarnsOnce (P : Finding → Prop) (findings : Findings) : Prop :=
  findings = .none ∨ ∃ warning, P warning ∧ findings = ⟨[], [warning]⟩

/-- The type that stands in a title is long. -/
def IsLongType (warning : Finding) : Prop :=
  warning.name = some "Element type may be excessively long"

/-- A title does not say how the element was spied, or says it wrongly. -/
inductive IsSpyMode (title : String) : Finding → Prop
  | unstated (application spied : String) :
    IsSpyMode title ⟨some ("Object's application type is '" ++ application ++
      "' but element's base type is '" ++ spied ++
      "'. Please note the spy mode within brackets at the end of the element's name"), some title⟩
  | misstated (stated spied : String) :
    IsSpyMode title ⟨some ("Stated spying mode '" ++ stated ++
      "' is not the element's spy mode: '" ++ spied ++ "'"), some title⟩

/-- A title does not say that the element is dynamic. -/
def IsUndeclared (title : String) (warning : Finding) : Prop :=
  warning = ⟨some "Element has a dynamic attribute. Please include 'Dynamic' in the element name",
    some title⟩

theorem warnsOnce_judgeTypeLength (type : String) :
    (judgeTypeLength type).WarnsOnce IsLongType := by
  unfold judgeTypeLength
  split
  · refine .inr ⟨_, ?_, rfl⟩
    rfl
  · exact .inl rfl

theorem warnsOnce_judgeDynamic (title : String) (dynamic : Bool) :
    (judgeDynamic title dynamic).WarnsOnce (IsUndeclared title) := by
  unfold judgeDynamic
  split
  · exact .inr ⟨_, rfl, rfl⟩
  · exact .inl rfl

theorem warnsOnce_judgeSpyMode (title ending application type : String) :
    (judgeSpyMode title ending application type).WarnsOnce (IsSpyMode title) := by
  have hunstated : ∀ (p : Prop) [Decidable p] (spied : String),
      (if p then Findings.none else unstatedSpyMode title application spied).WarnsOnce
        (IsSpyMode title) := by
    intro p _ spied
    split
    · exact .inl rfl
    · exact .inr ⟨_, .unstated application spied, rfl⟩
  unfold judgeSpyMode
  split
  · exact .inl rfl
  dsimp only
  generalize (if isWin32Type type then "Win32" else type) = spied
  split
  · exact hunstated _ _
  split
  · exact hunstated _ _
  split
  · exact .inl rfl
  · exact .inr ⟨_, .misstated _ _, rfl⟩

/-- What a call adds to the findings if it is answered with `returned`. -/
structure CallAdds (typeFirst : Bool) (title : String) (returned : Bool) (more : Findings) :
    Prop where
  returned_iff : returned = true ↔ WellTitled typeFirst title
  of_false : returned = false → more.errors.length = 1 ∧ more.warnings = []
  of_true : returned = true → more.errors = [] ∧ more.warnings.length ≤ 3 ∧
    ∃ long spied dynamic, more = .join [long, spied, dynamic] ∧ long.WarnsOnce IsLongType ∧
      spied.WarnsOnce (IsSpyMode title) ∧ dynamic.WarnsOnce (IsUndeclared title)

theorem Findings.WarnsOnce.errors_eq {P : Finding → Prop} {findings : Findings}
    (h : findings.WarnsOnce P) : findings.errors = [] := by
  rcases h with rfl | ⟨warning, -, rfl⟩ <;> rfl

theorem Findings.WarnsOnce.length_le {P : Finding → Prop} {findings : Findings}
    (h : findings.WarnsOnce P) : findings.warnings.length ≤ 1 := by
  rcases h with rfl | ⟨warning, -, rfl⟩
  · exact Nat.zero_le 1
  · exact Nat.le_refl 1

/-- A title that is not of two parts has one or at least three, and either is an error. -/
theorem errors_judgeHyphens {title : String} (h : (titleParts title).length ≠ 2) :
    (judgeHyphens title).errors.length = 1 ∧ (judgeHyphens title).warnings = [] := by
  have hpos := length_titleParts_pos title
  unfold judgeHyphens
  split
  · exact ⟨rfl, rfl⟩
  next hfew =>
    have hone : (titleParts title).length = 1 := by omega
    rw [if_pos hone]
    split <;> exact ⟨rfl, rfl⟩

theorem TitleCase.adds {returned : Bool} {notes : List Findings}
    (h : TitleCase application typeFirst title returned notes) :
    CallAdds typeFirst title returned (.join notes) := by
  cases h with
  | uncut hparts =>
    refine ⟨iff_of_false nofun fun h => ?_, fun _ => ?_, nofun⟩
    · obtain ⟨first, second, hfound⟩ := exists_parts_of_wellTitled h
      exact hparts (List.length_eq_two.mpr ⟨first, second, hfound⟩)
    · simpa using errors_judgeHyphens hparts
  | unknown hparts htype =>
    refine ⟨iff_of_false nofun fun h => ?_, fun _ => ⟨rfl, rfl⟩, nofun⟩
    rw [wellTitled_iff_of_parts hparts, htype] at h
    cases h
  | @known first second type dynamic hparts htype =>
    have hlong := warnsOnce_judgeTypeLength (typePart typeFirst first second)
    have hspied := warnsOnce_judgeSpyMode title second application type
    have hdynamic := warnsOnce_judgeDynamic title dynamic
    refine ⟨iff_of_true rfl ((wellTitled_iff_of_parts hparts).mpr htype), nofun, fun _ => ?_⟩
    refine ⟨?_, ?_, _, _, _, rfl, hlong, hspied, hdynamic⟩
    · simp [hlong.errors_eq, hspied.errors_eq, hdynamic.errors_eq]
    · have := hlong.length_le
      have := hspied.length_le
      have := hdynamic.length_le
      simp only [Findings.warnings_join, List.flatMap_cons, List.flatMap_nil, List.append_nil,
        List.length_append]
      omega

theorem CallAdds.length_errors {returned : Bool} {more : Findings}
    (h : CallAdds typeFirst title returned more) :
    more.errors.length = [returned].count false := by
  cases returned with
  | true => rw [(h.of_true rfl).1]; rfl
  | false => exact (h.of_false rfl).1

theorem adds_checkTitle {element : Element} {returned : Bool}
    (h : (checkTitle application typeFirst element).result = .ok returned) :
    ∃ title, element.attr? "name" = some title ∧
      CallAdds typeFirst title returned
        (.join (checkTitle application typeFirst element).notes) := by
  obtain ⟨title, hname, hcase⟩ := leaves_checkTitle application typeFirst element returned h
  exact ⟨title, hname, hcase.adds⟩

/-! ## Faults of a call -/

namespace Account

variable {ν α β : Type} {fault : Fault}

/-- The work does not end in this fault. -/
def Avoids (fault : Fault) (account : Account ν α) : Prop :=
  account.result ≠ .error fault

namespace Avoids

theorem pure (b : β) : Avoids fault (Pure.pure b : Account ν β) :=
  fun h => nomatch h

theorem bind {first : Account ν α} {rest : α → Account ν β} (hfirst : Avoids fault first)
    (hrest : ∀ a, Avoids fault (rest a)) : Avoids fault (first >>= rest) := by
  rw [Avoids, result_bind]
  cases hresult : first.result with
  | ok a => exact hrest a
  | error other =>
    rintro ⟨⟩
    exact hfirst hresult

theorem note (n : ν) {rest : Unit → Account ν β} (h : Avoids fault (rest ())) :
    Avoids fault (Account.note n >>= rest) :=
  bind (fun hnote => nomatch hnote) fun _ => h

theorem ite {p : Prop} [Decidable p] {x y : Account ν β} (hx : p → Avoids fault x)
    (hy : ¬p → Avoids fault y) : Avoids fault (if p then x else y) := by
  split
  · exact hx ‹p›
  · exact hy ‹¬p›

end Avoids

end Account

theorem need_ne_outOfRange {α : Type} (member : String) (x : Option α) :
    need member x ≠ .error .outOfRange := by
  cases x <;> exact nofun

theorem baseType_ne_outOfRange (element : Element) : baseType element ≠ .error .outOfRange := by
  unfold baseType
  cases element.child? "basetype" <;> exact nofun

theorem isDynamic_ne_outOfRange (element : Element) : isDynamic element ≠ .error .outOfRange := by
  unfold isDynamic
  cases element.within? "attributes" <;> exact nofun

theorem partAt_ne_outOfRange {parts : List String} {i : Nat} (h : i < parts.length) :
    partAt parts i ≠ .error .outOfRange := by
  rw [partAt_eq_ok h]
  exact nofun

/-- No part of a title is looked for where there is none: it is only looked for in titles of two
parts, and then at the first place or the second. -/
theorem avoids_checkTitle (application : String) (typeFirst : Bool) (element : Element) :
    (checkTitle application typeFirst element).Avoids .outOfRange := by
  refine .bind (baseType_ne_outOfRange element) fun type => ?_
  refine .bind (need_ne_outOfRange _ _) fun title => ?_
  refine .ite (fun hlength => ?_) fun _ => .note _ (.pure false)
  have htype : (if typeFirst then 0 else 1) < (titleParts title).length := by
    rw [hlength]
    cases typeFirst <;> decide
  have hending : 1 < (titleParts title).length := by omega
  refine .bind (partAt_ne_outOfRange htype) fun part => ?_
  refine .ite (fun _ => .note _ ?_) fun _ => .note _ (.pure false)
  cases type with
  | none => exact nofun
  | some type =>
    refine .bind (partAt_ne_outOfRange hending) fun ending => .note _ ?_
    exact .bind (isDynamic_ne_outOfRange element) fun _ => .note _ (.pure true)

/-! ## Runs of calls -/

/-- The findings after the titles of the elements have been checked, one after the other. What a
call notes before a fault remains, and the next call comes all the same. -/
def findingsAfter (application : String) (typeFirst : Bool) (found : Findings)
    (elements : List Element) : Findings :=
  elements.foldl
    (fun found element => found ++ .join (checkTitle application typeFirst element).notes) found

/-- What the calls on the elements are answered with, if none of them ends in a fault. -/
def titleAnswers (application : String) (typeFirst : Bool) (elements : List Element) :
    Except Fault (List Bool) :=
  elements.mapM fun element => (checkTitle application typeFirst element).result

variable (application typeFirst)

theorem findingsAfter_append (found : Findings) (before after : List Element) :
    findingsAfter application typeFirst found (before ++ after) = findingsAfter application
      typeFirst (findingsAfter application typeFirst found before) after :=
  List.foldl_append

theorem prefix_findingsAfter (found : Findings) (elements : List Element) :
    found.errors <+: (findingsAfter application typeFirst found elements).errors ∧
      found.warnings <+: (findingsAfter application typeFirst found elements).warnings := by
  induction elements generalizing found with
  | nil => exact ⟨List.prefix_refl _, List.prefix_refl _⟩
  | cons element elements ih =>
    obtain ⟨herrors, hwarnings⟩ :=
      ih (found ++ .join (checkTitle application typeFirst element).notes)
    exact ⟨(List.prefix_append _ _).trans herrors, (List.prefix_append _ _).trans hwarnings⟩

variable {application typeFirst}

theorem length_errors_findingsAfter {elements : List Element} {returns : List Bool}
    (h : titleAnswers application typeFirst elements = .ok returns) (found : Findings) :
    (findingsAfter application typeFirst found elements).errors.length =
      found.errors.length + returns.count false := by
  induction mapM_eq_ok_iff.mp h generalizing found with
  | nil => rfl
  | @cons element returned elements returns hcall hrest ih =>
    obtain ⟨title, -, hadds⟩ := adds_checkTitle hcall
    have hcount : (returned :: returns).count false =
        [returned].count false + returns.count false := by
      rw [← List.count_append, List.singleton_append]
    rw [findingsAfter, List.foldl_cons, ← findingsAfter, ih (mapM_eq_ok_iff.mpr hrest), hcount,
      ← hadds.length_errors, Findings.errors_append, List.length_append, Nat.add_assoc]

/-- The elements in another order are answered in that order. -/
theorem titleAnswers_of_perm {elements others : List Element} {returns : List Bool}
    (hperm : others.Perm elements)
    (h : titleAnswers application typeFirst elements = .ok returns) :
    ∃ returns', titleAnswers application typeFirst others = .ok returns' ∧
      returns'.Perm returns := by
  obtain ⟨returns', hall, hreturns⟩ := List.perm_comp_forall₂ hperm (mapM_eq_ok_iff.mp h)
  exact ⟨returns', mapM_eq_ok_iff.mpr hall, hreturns⟩

/-- A call that ends without a fault is answered with `true` exactly for a good title, and then adds
at most three warnings, one of each sort; with `false` it adds one error. No call ends because a
part of the title is not there, and none changes what was found before. So the errors of a run count
its calls that are answered with `false`, in whatever order the elements come. -/
theorem title_errors_count_refusals (application : String) (typeFirst : Bool) (found : Findings) :
    (∀ before element returned, (checkTitle application typeFirst element).result = .ok returned →
      ∃ title more, element.attr? "name" = some title ∧ CallAdds typeFirst title returned more ∧
        findingsAfter application typeFirst found (before ++ [element]) =
          findingsAfter application typeFirst found before ++ more) ∧
    (∀ element, (checkTitle application typeFirst element).result ≠ .error .outOfRange) ∧
    (∀ before after,
      (findingsAfter application typeFirst found before).errors <+:
        (findingsAfter application typeFirst found (before ++ after)).errors ∧
      (findingsAfter application typeFirst found before).warnings <+:
        (findingsAfter application typeFirst found (before ++ after)).warnings) ∧
    (∀ elements returns, titleAnswers application typeFirst elements = .ok returns →
      (findingsAfter application typeFirst found elements).errors.length =
        found.errors.length + returns.count false ∧
      ∀ others, others.Perm elements → ∃ returns',
        titleAnswers application typeFirst others = .ok returns' ∧
        returns'.count false = returns.count false ∧
        (findingsAfter application typeFirst found others).errors.length =
          (findingsAfter application typeFirst found elements).errors.length) := by
  refine ⟨fun before element returned h => ?_, avoids_checkTitle application typeFirst,
    fun before after => ?_, fun elements returns h => ?_⟩
  · obtain ⟨title, hname, hadds⟩ := adds_checkTitle h
    exact ⟨title, _, hname, hadds, findingsAfter_append application typeFirst found before _⟩
  · rw [findingsAfter_append]
    exact prefix_findingsAfter application typeFirst _ after
  · refine ⟨length_errors_findingsAfter h found, fun others hperm => ?_⟩
    obtain ⟨returns', hanswers, hreturns⟩ := titleAnswers_of_perm hperm h
    have hcount := hreturns.count_eq false
    refine ⟨returns', hanswers, hcount, ?_⟩
    rw [length_errors_findingsAfter hanswers, length_errors_findingsAfter h, hcount]

/-- A button, a link without spaces around its hyphen, and something of no known type. -/
def titledElements : List Element :=
  [spiedElement "Button - Log in" "AAButton" [], spiedElement "Link-Help" "HTMLLink" [],
   spiedElement "Colour - Background" "HTMLDiv" []]

/-- The first title is good, though it does not say how the element was spied; there are two errors,
also from right to left. -/
theorem two_titles_are_refused :
    titleAnswers "HTML" true titledElements = .ok [true, false, false] ∧
    WellTitled true "Button - Log in" ∧
    (findingsAfter "HTML" true .none titledElements).errors.length = 2 ∧
    (findingsAfter "HTML" true .none titledElements.reverse).errors.length = 2 := by
  have hanswers : titleAnswers "HTML" true titledElements = .ok [true, false, false] := rfl
  obtain ⟨hcall, -, -, hrun⟩ := title_errors_count_refusals "HTML" true .none
  obtain ⟨title, more, hname, hadds, -⟩ :=
    hcall [] (spiedElement "Button - Log in" "AAButton" []) true rfl
  obtain rfl : "Button - Log in" = title := Option.some.inj hname
  obtain ⟨hcount, horder⟩ := hrun titledElements _ hanswers
  obtain ⟨returns, -, -, hreverse⟩ := horder _ (List.reverse_perm titledElements)
  exact ⟨hanswers, hadds.returned_iff.mp rfl, hcount, hreverse.trans hcount⟩

end ReleaseReview
