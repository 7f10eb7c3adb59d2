import Mathlib.Data.List.DropRight
import ReleaseReview.Check.Expression
import ReleaseReview.Proofs.Place
import ReleaseReview.Proofs.Success

/-!
# Expressions that compare flags

An expression is taken for a comparison of two data items by its shape: what is left of it without
the names of the items and without spaces. `Comparison` is the grammar of the expressions meant by
this, with the two names, and `comparesItems_iff` says that the expressions of the right shape are
exactly these. From left to right, the first sign of the shape tells how the expression begins
(`exists_of_shape_item`, `exists_of_shape_sign`), and what follows has the rest of the shape.

The name of the second item is what follows the last bracket that opens, so that a bracket inside a
name cuts off what stands before it. `comparesFlag_by_grammar` puts this together with the data
items of the object.
-/

namespace ReleaseReview

open Markup Placed Text

/-! ## The grammar -/

/-- A run of spaces, perhaps empty. -/
def Spaces (cs : List Char) : Prop :=
  ∀ c ∈ cs, c = ' '

/-- What can stand between the brackets of a data item. -/
def ItemText (cs : List Char) : Prop :=
  ']' ∉ cs ∧ '\n' ∉ cs

/-- A data item in its brackets. -/
def bracketed (cs : List Char) : List Char :=
  '[' :: cs ++ [']']

/-- The signs of comparison, with spaces between the two characters of the second. -/
inductive ComparisonSign : List Char → Prop
  | equal : ComparisonSign ['=']
  | unequal {s : List Char} (hs : Spaces s) : ComparisonSign ('<' :: s ++ ['>'])

/-- A comparison of two data items, with spaces anywhere outside of them. -/
inductive Comparison (left right : List Char) : List Char → Prop
  | mk {s t u v sign : List Char} (hs : Spaces s) (hleft : ItemText left) (ht : Spaces t)
      (hsign : ComparisonSign sign) (hu : Spaces u) (hright : ItemText right) (hv : Spaces v) :
    Comparison left right (s ++ bracketed left ++ t ++ sign ++ u ++ bracketed right ++ v)

/-! ## Emptied items -/

theorem emptyItems_skip (skip : Nat) (cs : List Char) :
    emptyItems skip cs = emptyItems 0 (cs.drop skip) := by
  induction skip generalizing cs with
  | zero => rfl
  | succ skip ih =>
    cases cs with
    | nil => rfl
    | cons c cs => exact ih cs

theorem emptyItems_cons_of_ne {c : Char} (h : c ≠ '[') (cs : List Char) :
    emptyItems 0 (c :: cs) = c :: emptyItems 0 cs := by
  rw [emptyItems, if_neg h]

theorem takeWhile_itemText {text : List Char} (h : ItemText text) (cs : List Char) :
    (text ++ ']' :: cs).takeWhile (fun d => d ≠ ']' ∧ d ≠ '\n') = text := by
  have htext : ∀ d ∈ text, decide (d ≠ ']' ∧ d ≠ '\n') = true := fun d hd =>
    decide_eq_true ⟨fun heq => h.1 (heq ▸ hd), fun heq => h.2 (heq ▸ hd)⟩
  rw [List.takeWhile_append_of_pos htext, List.takeWhile_cons_of_neg (by simp), List.append_nil]

theorem emptyItems_bracketed {text : List Char} (h : ItemText text) (cs : List Char) :
    emptyItems 0 (bracketed text ++ cs) = '[' :: ']' :: emptyItems 0 cs := by
  have hcs : bracketed text ++ cs = '[' :: (text ++ ']' :: cs) := by simp [bracketed]
  have hdrop : (text ++ ']' :: cs).drop (text.length + 1) = cs := by
    rw [← List.drop_drop, List.drop_left]
    rfl
  rw [hcs, emptyItems, if_pos rfl]
  simp only [takeWhile_itemText h, List.getElem?_append_right (Nat.le_refl _), Nat.sub_self,
    List.getElem?_cons_zero, if_true]
  rw [emptyItems_skip, hdrop]

/-- A bracket that opens is that of an item, or stays as it is. -/
theorem emptyItems_cons_bracket (cs : List Char) :
    (∃ text after, ItemText text ∧ cs = text ++ ']' :: after) ∨
      emptyItems 0 ('[' :: cs) = '[' :: emptyItems 0 cs := by
  rw [emptyItems, if_pos rfl]
  dsimp only
  split
  next hclosed =>
    left
    have hitem : ∀ d ∈ cs.takeWhile fun d => d ≠ ']' ∧ d ≠ '\n', d ≠ ']' ∧ d ≠ '\n' := by
      intro d hd
      simpa using List.mem_takeWhile_imp hd
    -- The text of the item is what comes before the first character that cannot stand in one.
    obtain ⟨rest, hcs⟩ := List.takeWhile_prefix (l := cs) fun d => decide (d ≠ ']' ∧ d ≠ '\n')
    generalize cs.takeWhile _ = text at hitem hclosed hcs
    rw [← hcs, List.getElem?_append_right (Nat.le_refl _), Nat.sub_self] at hclosed
    cases rest with
    | nil => cases hclosed
    | cons c after =>
      obtain rfl : c = ']' := Option.some.inj hclosed
      exact ⟨text, after, ⟨fun h => (hitem _ h).1 rfl, fun h => (hitem _ h).2 rfl⟩, hcs.symm⟩
  next => exact .inr rfl

/-! ## Shapes -/

/-- What is left of an expression without the names of its items and without spaces. -/
def shape (cs : List Char) : List Char :=
  (emptyItems 0 cs).filter (· != ' ')

theorem shape_cons_space (cs : List Char) : shape (' ' :: cs) = shape cs := by
  rw [shape, emptyItems_cons_of_ne (by decide)]
  rfl

theorem shape_cons_sign {c : Char} (hopen : c ≠ '[') (hspace : c ≠ ' ') (cs : List Char) :
    shape (c :: cs) = c :: shape cs := by
  rw [shape, emptyItems_cons_of_ne hopen, List.filter_cons_of_pos (by simpa using hspace)]
  rfl

theorem shape_append_of_spaces {s : List Char} (hs : Spaces s) (cs : List Char) :
    shape (s ++ cs) = shape cs := by
  induction s with
  | nil => rfl
  | cons c s ih =>
    obtain ⟨rfl, hs'⟩ := List.forall_mem_cons.mp hs
    rw [List.cons_append, shape_cons_space, ih hs']

theorem shape_bracketed {text : List Char} (h : ItemText text) (cs : List Char) :
    shape (bracketed text ++ cs) = '[' :: ']' :: shape cs := by
  rw [shape, emptyItems_bracketed h]
  rfl

/-- A character that is no space remains, whether it opens an item or not. -/
theorem exists_shape_cons {c : Char} (hspace : c ≠ ' ') (cs : List Char) :
    ∃ t, shape (c :: cs) = c :: t := by
  by_cases hopen : c = '['
  · subst hopen
    rw [shape, emptyItems, if_pos rfl]
    dsimp only
    split
    · exact ⟨_, rfl⟩
    · exact ⟨_, rfl⟩
  · exact ⟨_, shape_cons_sign hopen hspace cs⟩

/-- Only spaces have an empty shape. -/
theorem spaces_of_shape {cs : List Char} (h : shape cs = []) : Spaces cs := by
  induction cs with
  | nil => exact nofun
  | cons c cs ih =>
    by_cases hspace : c = ' '
    · subst hspace
      rw [shape_cons_space] at h
      exact List.forall_mem_cons.mpr ⟨rfl, ih h⟩
    · obtain ⟨t, ht⟩ := exists_shape_cons hspace cs
      rw [ht] at h
      cases h

/-- The first sign of a shape stands in the text after nothing but spaces. -/
theorem exists_of_shape_cons {cs t : List Char} {c : Char} (h : shape cs = c :: t) :
    ∃ s rest, Spaces s ∧ cs = s ++ c :: rest ∧ shape (c :: rest) = c :: t := by
  induction cs with
  | nil => cases h
  | cons d cs ih =>
    by_cases hspace : d = ' '
    · subst hspace
      rw [shape_cons_space] at h
      obtain ⟨s, rest, hs, hcs, hrest⟩ := ih h
      exact ⟨' ' :: s, rest, List.forall_mem_cons.mpr ⟨rfl, hs⟩, by rw [hcs]; rfl, hrest⟩
    · obtain ⟨u, hu⟩ := exists_shape_cons hspace cs
      obtain rfl : d = c := List.head_eq_of_cons_eq (hu.symm.trans h)
      exact ⟨[], cs, nofun, rfl, h⟩

theorem exists_of_shape_sign {cs t : List Char} {c : Char} (hopen : c ≠ '[') (hspace : c ≠ ' ')
    (h : shape cs = c :: t) : ∃ s rest, Spaces s ∧ cs = s ++ c :: rest ∧ shape rest = t := by
  obtain ⟨s, rest, hs, hcs, hrest⟩ := exists_of_shape_cons h
  rw [shape_cons_sign hopen hspace] at hrest
  exact ⟨s, rest, hs, hcs, List.tail_eq_of_cons_eq hrest⟩

/-- Two brackets in a shape are those of an item. A bracket that opens no item and is followed by
one that closes in the shape would have only spaces between itself and that one, and so would open
an item after all. -/
theorem exists_of_shape_item {cs t : List Char} (h : shape cs = '[' :: ']' :: t) :
    ∃ s text rest, Spaces s ∧ ItemText text ∧ cs = s ++ bracketed text ++ rest ∧
      shape rest = t := by
  obtain ⟨s, inner, hs, rfl, hinner⟩ := exists_of_shape_cons h
  suffices hitem : ∃ text after, ItemText text ∧ inner = text ++ ']' :: after by
    obtain ⟨text, after, htext, rfl⟩ := hitem
    have hsplit : '[' :: (text ++ ']' :: after) = bracketed text ++ after := by simp [bracketed]
    rw [hsplit, shape_bracketed htext] at hinner
    refine ⟨s, text, after, hs, htext, ?_, by simpa using hinner⟩
    rw [hsplit, List.append_assoc]
  rcases emptyItems_cons_bracket inner with hitem | hopen
  · exact hitem
  · have hrest : shape inner = ']' :: t := by
      rw [shape, hopen] at hinner
      exact List.tail_eq_of_cons_eq hinner
    obtain ⟨u, after, hu, rfl, -⟩ := exists_of_shape_sign (by decide) (by decide) hrest
    exact ⟨u, after, ⟨fun hmem => absurd (hu _ hmem) (by decide),
      fun hmem => absurd (hu _ hmem) (by decide)⟩, rfl⟩

/-! ## Comparisons and their shapes -/

theorem shape_of_spaces {s : List Char} (hs : Spaces s) : shape s = [] := by
  simpa [shape, emptyItems] using shape_append_of_spaces hs []

theorem shape_comparisonSign {sign : List Char} (h : ComparisonSign sign) (cs : List Char) :
    shape (sign ++ cs) = '=' :: shape cs ∨ shape (sign ++ cs) = '<' :: '>' :: shape cs := by
  cases h with
  | equal => exact .inl (shape_cons_sign (by decide) (by decide) cs)
  | @unequal s hs =>
    right
    calc shape ('<' :: s ++ ['>'] ++ cs)
      _ = shape ('<' :: (s ++ '>' :: cs)) := by simp
      _ = '<' :: shape ('>' :: cs) := by
        rw [shape_cons_sign (by decide) (by decide), shape_append_of_spaces hs]
      _ = '<' :: '>' :: shape cs := by rw [shape_cons_sign (by decide) (by decide)]

theorem exists_of_shape_comparisonSign {cs t : List Char}
    (h : shape cs = '=' :: t ∨ shape cs = '<' :: '>' :: t) :
    ∃ s sign rest, Spaces s ∧ ComparisonSign sign ∧ cs = s ++ sign ++ rest ∧ shape rest = t := by
  rcases h with h | h
  · obtain ⟨s, rest, hs, rfl, hrest⟩ := exists_of_shape_sign (by decide) (by decide) h
    exact ⟨s, _, rest, hs, .equal, by simp, hrest⟩
  · obtain ⟨s, inner, hs, rfl, hinner⟩ := exists_of_shape_sign (by decide) (by decide) h
    obtain ⟨u, rest, hu, rfl, hrest⟩ := exists_of_shape_sign (by decide) (by decide) hinner
    exact ⟨s, _, rest, hs, .unequal hu, by simp, hrest⟩

/-- The shape of a comparison. -/
def IsComparison (t : List Char) : Prop :=
  t = "[]=[]".toList ∨ t = "[]<>[]".toList

theorem isComparison_shape {left right cs : List Char} (h : Comparison left right cs) :
    IsComparison (shape cs) := by
  obtain @⟨s, t, u, v, sign, hs, hleft, ht, hsign, hu, hright, hv⟩ := h
  have hrest : shape (u ++ (bracketed right ++ v)) = ['[', ']'] := by
    rw [shape_append_of_spaces hu, shape_bracketed hright, shape_of_spaces hv]
  simp only [List.append_assoc, IsComparison]
  rw [shape_append_of_spaces hs, shape_bracketed hleft, shape_append_of_spaces ht]
  rcases shape_comparisonSign hsign (u ++ (bracketed right ++ v)) with hshape | hshape
  · exact .inl (by rw [hshape, hrest]; rfl)
  · exact .inr (by rw [hshape, hrest]; rfl)

theorem exists_comparison_of_shape {cs : List Char} (h : IsComparison (shape cs)) :
    ∃ left right, Comparison left right cs := by
  obtain ⟨rest, hshape, hrest⟩ : ∃ rest, shape cs = '[' :: ']' :: rest ∧
      (rest = '=' :: ['[', ']'] ∨ rest = '<' :: '>' :: ['[', ']']) := by
    rcases h with h | h
    · exact ⟨_, h, .inl rfl⟩
    · exact ⟨_, h, .inr rfl⟩
  obtain ⟨s, left, second, hs, hleft, rfl, rfl⟩ := exists_of_shape_item hshape
  obtain ⟨t, sign, third, ht, hsign, rfl, hthird⟩ := exists_of_shape_comparisonSign hrest
  obtain ⟨u, right, v, hu, hright, rfl, hv⟩ := exists_of_shape_item hthird
  refine ⟨left, right, ?_⟩
  simpa using Comparison.mk hs hleft ht hsign hu hright (spaces_of_shape hv)

theorem comparesItems_iff (expression : String) :
    comparesItems expression = true ↔ ∃ left right, Comparison left right expression.toList := by
  have hshape : comparesItems expression = true ↔ IsComparison (shape expression.toList) := by
    simp only [comparesItems, Bool.or_eq_true, beq_iff_eq, ← String.toList_inj,
      String.toList_ofList]
    rfl
  rw [hshape]
  exact ⟨exists_comparison_of_shape, fun ⟨_, _, h⟩ => isComparison_shape h⟩

/-! ## The second item -/

/-- What follows the last bracket that opens in a text, or all of it. -/
def afterBracket (cs : List Char) : List Char :=
  cs.rtakeWhile (· ≠ '[')

theorem lastIndex?_append {c : Char} {after : List Char} (h : c ∉ after) (before : List Char) :
    lastIndex? c (before ++ c :: after) = some before.length := by
  have hnone : after.reverse.findIdx? (· == c) = none := by
    rw [List.findIdx?_eq_none_iff]
    intro d hd
    exact beq_false_of_ne fun heq => h (heq ▸ List.mem_reverse.mp hd)
  simp [lastIndex?, List.findIdx?_append, hnone, List.findIdx?_cons]

/-- A bracket and a text end in a bracket and what follows the last bracket in the text. -/
theorem exists_cons_bracket_eq (cs : List Char) :
    ∃ before, '[' :: cs = before ++ '[' :: afterBracket cs := by
  induction cs using List.reverseRecOn with
  | nil => exact ⟨[], rfl⟩
  | append_singleton cs c ih =>
    by_cases hopen : c = '['
    · subst hopen
      exact ⟨'[' :: cs, by simp [afterBracket, List.rtakeWhile_concat_neg]⟩
    · obtain ⟨before, hbefore⟩ := ih
      refine ⟨before, ?_⟩
      rw [afterBracket, List.rtakeWhile_concat_pos _ _ _ (by simpa using hopen), ← afterBracket,
        ← List.cons_append, hbefore]
      simp

theorem bracket_not_mem_afterBracket (cs : List Char) : '[' ∉ afterBracket cs := by
  intro hmem
  simpa using List.mem_rtakeWhile_imp hmem

/-- The last item of an expression is what stands between its last brackets. -/
theorem lastItem_eq {expression : String} {before text after : List Char}
    (hexpression : expression.toList = before ++ '[' :: text ++ ']' :: after)
    (htext : '[' ∉ text) (hafter : Spaces after) : lastItem expression = String.ofList text := by
  have hclose : lastIndex? ']' expression.toList = some (before ++ '[' :: text).length := by
    rw [hexpression]
    exact lastIndex?_append (fun hmem => absurd (hafter _ hmem) (by decide)) _
  have hopen : lastIndex? '[' expression.toList = some before.length := by
    rw [hexpression, List.append_assoc, List.cons_append]
    refine lastIndex?_append (fun hmem => ?_) _
    rcases List.mem_append.mp hmem with hmem | hmem
    · exact htext hmem
    · rcases List.mem_cons.mp hmem with heq | hmem
      · exact absurd heq (by decide)
      · exact absurd (hafter _ hmem) (by decide)
  have hinner : (before ++ '[' :: text).drop (before.length + 1) = text := by
    rw [← List.drop_drop, List.drop_left]
    rfl
  simp only [lastItem, hclose, hopen]
  rw [hexpression, List.take_left, hinner]

theorem lastItem_of_comparison {left right : List Char} {expression : String}
    (h : Comparison left right expression.toList) :
    lastItem expression = String.ofList (afterBracket right) := by
  obtain ⟨before, hbefore⟩ := exists_cons_bracket_eq right
  generalize hcs : expression.toList = cs at h
  obtain @⟨s, t, u, v, sign, -, -, -, -, -, -, hv⟩ := h
  have hsplit : expression.toList = s ++ bracketed left ++ t ++ sign ++ u ++ before ++
      '[' :: afterBracket right ++ ']' :: v := by
    calc expression.toList
      _ = s ++ bracketed left ++ t ++ sign ++ u ++ ('[' :: right) ++ ']' :: v := by
        rw [hcs]
        simp [bracketed]
      _ = s ++ bracketed left ++ t ++ sign ++ u ++ before ++
          '[' :: afterBracket right ++ ']' :: v := by
        rw [hbefore]
        simp
  exact lastItem_eq hsplit (bracket_not_mem_afterBracket right) hv

example : comparesItems "[a] < > [b [c]" = true ∧ lastItem "[a] < > [b [c]" = "c" := by decide

/-! ## Data items of an object -/

/-- The stage is a data item of this name. No name at all is as good as the empty one. -/
def IsDataItem (name : String) (stage : Element) : Prop :=
  stage.attr? "type" = some "Data" ∧
    (stage.attr? "name" = some name ∨ stage.attr? "name" = none ∧ name = "")

/-- This is the first of the object's stages that is a data item of this name. -/
def FirstDataItem (object : Element) (name : String) (item : Element) : Prop :=
  ∃ before after, object.childrenNamed "stage" = before ++ item :: after ∧ IsDataItem name item ∧
    ∀ other ∈ before, ¬IsDataItem name other

/-- The expression compares an item with this one of the object. -/
def ComparesWith (object : Element) (expression : String) (item : Element) : Prop :=
  ∃ left right, Comparison left right expression.toList ∧
    FirstDataItem object (String.ofList (afterBracket right)) item

theorem isDataItem_iff {name : String} {stage : Element} : IsDataItem name stage ↔
    (stage.attr? "type" == some "Data") = true ∧ meets (some name) (stage.attr? "name") = true := by
  unfold IsDataItem meets
  rw [beq_iff_eq]
  cases stage.attr? "name" with
  | none => simp
  | some value => simp [@eq_comm _ value name]

theorem firstDataItem_iff {object : Placed} {name : String} {item : Element} :
    FirstDataItem object name item ↔ (dataItem? object name).map toElement = some item := by
  have hfind : (dataItem? object name).map toElement = (object.childrenNamed "stage").find?
      fun stage => (stage.attr? "type" == some "Data") = true ∧
        meets (some name) (stage.attr? "name") = true := by
    rw [← map_toElement_placedChildren, List.find?_map, dataItem?, stagesOf, List.find?_filter]
    rfl
  rw [hfind, List.find?_eq_some_iff_append]
  simp only [FirstDataItem, isDataItem_iff, decide_eq_true_eq, Bool.not_eq_true',
    decide_eq_false_iff_not]
  constructor
  · rintro ⟨before, after, hstages, hitem, hbefore⟩
    exact ⟨hitem, before, after, hstages, hbefore⟩
  · rintro ⟨hitem, before, after, hstages, hbefore⟩
    exact ⟨before, after, hstages, hitem, hbefore⟩

variable {object : Placed} {expression : String} {item : Element}

/-- The items that the expression compares with are what the second name in it finds. -/
theorem comparesWith_iff : ComparesWith object expression item ↔
    comparesItems expression = true ∧
      (dataItem? object (lastItem expression)).map toElement = some item := by
  rw [comparesItems_iff]
  constructor
  · rintro ⟨left, right, hcomparison, hitem⟩
    rw [lastItem_of_comparison hcomparison]
    exact ⟨⟨left, right, hcomparison⟩, firstDataItem_iff.mp hitem⟩
  · rintro ⟨⟨left, right, hcomparison⟩, hitem⟩
    rw [lastItem_of_comparison hcomparison] at hitem
    exact ⟨left, right, hcomparison, firstDataItem_iff.mpr hitem⟩

theorem comparesFlag_of_comparesWith (h : ComparesWith object expression item) :
    comparesFlag object expression = do
      let datatype ← need "string" (item.within? "datatype")
      return datatype.soleText? == some "flag" := by
  obtain ⟨hcompares, hitem⟩ := comparesWith_iff.mp h
  obtain ⟨found, hfound, rfl⟩ := Option.map_eq_some_iff.mp hitem
  rw [comparesFlag, if_pos hcompares, hfound]

theorem comparesFlag_of_not (h : ∀ item, ¬ComparesWith object expression item) :
    comparesFlag object expression = .ok false := by
  unfold comparesFlag
  split
  next hcompares =>
    cases hfound : dataItem? object (lastItem expression) with
    | none => rfl
    | some found => exact absurd (comparesWith_iff.mpr ⟨hcompares, by rw [hfound]; rfl⟩) (h found)
  next => rfl

/-- The expression compares with one item at most, so that a statement about all items or about
some is one about this item. -/
theorem ComparesWith.unique {other : Element} (h : ComparesWith object expression item)
    (hother : ComparesWith object expression other) : other = item :=
  Option.some.inj ((comparesWith_iff.mp hother).2.symm.trans (comparesWith_iff.mp h).2)

theorem ComparesWith.exists_iff {P : Element → Prop} (h : ComparesWith object expression item) :
    (∃ other, ComparesWith object expression other ∧ P other) ↔ P item :=
  ⟨fun ⟨_, hother, hP⟩ => h.unique hother ▸ hP, fun hP => ⟨item, h, hP⟩⟩

theorem ComparesWith.forall_iff {P : Element → Prop} (h : ComparesWith object expression item) :
    (∀ other, ComparesWith object expression other → P other) ↔ P item :=
  ⟨fun hP => hP item h, fun hP _ hother => h.unique hother ▸ hP⟩

/-- The data item has a type, and this is its text, if any. -/
def HasDatatype (item : Element) (text : Option String) : Prop :=
  ∃ datatype, item.within? "datatype" = some datatype ∧ datatype.soleText? = text

/-- An expression is taken for a comparison exactly if it is one by the grammar. It then compares
with a flag if the first data item of the second name is one, which is a fault if this item has no
type at all; in any other case it does not. -/
theorem comparesFlag_by_grammar (object : Placed) (expression : String) :
    (comparesItems expression = true ↔ ∃ left right, Comparison left right expression.toList) ∧
    (comparesFlag object expression = .ok true ↔
      ∃ item, ComparesWith object expression item ∧ HasDatatype item (some "flag")) ∧
    (∀ fault, comparesFlag object expression = .error fault ↔ fault = .absent "string" ∧
      ∃ item, ComparesWith object expression item ∧ item.within? "datatype" = none) ∧
    (comparesFlag object expression = .ok false ↔ ∀ item, ComparesWith object expression item →
      ∃ text, HasDatatype item text ∧ text ≠ some "flag") := by
  refine ⟨comparesItems_iff expression, ?_⟩
  by_cases h : ∃ item, ComparesWith object expression item
  · obtain ⟨item, hitem⟩ := h
    simp only [hitem.exists_iff, hitem.forall_iff, comparesFlag_of_comparesWith hitem]
    cases hdatatype : item.within? "datatype" with
    | none => simp [HasDatatype, hdatatype, bind, Except.bind, eq_comm]
    | some datatype => simp [HasDatatype, hdatatype, pure, Except.pure]
  · have hnone := not_exists.mp h
    rw [comparesFlag_of_not hnone]
    refine ⟨iff_of_false nofun ?_, fun fault => iff_of_false nofun ?_, iff_of_true rfl ?_⟩
    · rintro ⟨item, hitem, -⟩
      exact hnone item hitem
    · rintro ⟨-, item, hitem, -⟩
      exact hnone item hitem
    · exact fun item hitem => absurd hitem (hnone item)

end ReleaseReview
