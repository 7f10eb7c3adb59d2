import ReleaseReview.Proofs.Locality

/-!
# Kinds of object by rules

The kind of an object is read off its name, or evaluated from its model, its pages and its stages.
`Decided` states the rules for this one by one, each with all that it depends on. In two of them
the steps that read from the application are searched for one that reads an image; `ImageSearch`
says what this search comes to by what stands before the step at which it ends.

Exactly one of the rules applies to any object, with one answer, and this is the answer that
`classify` gives (`classify_decides_every_object`): a kind, or the fault that something is missing.
-/

namespace ReleaseReview

open Markup Placed Text

/-! ## The search for an image -/

/-- The step performs an action, and its id has this text, if any. -/
def Performs (step : Element) (text : Option String) : Prop :=
  ∃ action id, step.within? "action" = some action ∧ action.within? "id" = some id ∧
    id.soleText? = text

/-- The step has no action, or an action without an id. -/
inductive Unnamed (step : Element) : Fault → Prop
  | noAction (haction : step.within? "action" = none) : Unnamed step (.absent "id")
  | noId {action : Element} (haction : step.within? "action" = some action)
      (hid : action.within? "id" = none) : Unnamed step (.absent "string")

/-- The step performs something else than to read an image. -/
def PassedOver (step : Element) : Prop :=
  ∃ text, Performs step text ∧ text ≠ some "ReadBitmap"

/-- What the search through the steps comes to. It ends at the first step that reads an image or has
no name, and every step before that one is passed over. -/
inductive ImageSearch (steps : List Element) : Except Fault Bool → Prop
  | found {before after : List Element} {step : Element} (hsteps : steps = before ++ step :: after)
      (hbefore : ∀ other ∈ before, PassedOver other) (hstep : Performs step (some "ReadBitmap")) :
    ImageSearch steps (.ok true)
  | stopped {before after : List Element} {step : Element} {fault : Fault}
      (hsteps : steps = before ++ step :: after) (hbefore : ∀ other ∈ before, PassedOver other)
      (hstep : Unnamed step fault) : ImageSearch steps (.error fault)
  | missed (hsteps : ∀ step ∈ steps, PassedOver step) : ImageSearch steps (.ok false)

/-- Does the step read an image? -/
def readsBitmap (step : Element) : Except Fault Bool := do
  return (← stepName step) == some "ReadBitmap"

theorem stepName_of_performs {step : Element} {text : Option String} (h : Performs step text) :
    stepName step = .ok text := by
  obtain ⟨action, id, haction, hid, rfl⟩ := h
  rw [stepName, haction, need_some, ok_bind, hid]
  rfl

theorem stepName_of_unnamed {step : Element} {fault : Fault} (h : Unnamed step fault) :
    stepName step = .error fault := by
  cases h with
  | noAction haction =>
    rw [stepName, haction]
    rfl
  | noId haction hid =>
    rw [stepName, haction, need_some, ok_bind, hid]
    rfl

/-- A step has a name, or it is known what is missing. -/
theorem performs_or_unnamed (step : Element) :
    (∃ text, Performs step text) ∨ ∃ fault, Unnamed step fault := by
  cases haction : step.within? "action" with
  | none => exact .inr ⟨_, .noAction haction⟩
  | some action =>
    cases hid : action.within? "id" with
    | none => exact .inr ⟨_, .noId haction hid⟩
    | some id => exact .inl ⟨_, action, id, haction, hid, rfl⟩

theorem readsBitmap_of_performs {step : Element} {text : Option String} (h : Performs step text) :
    readsBitmap step = .ok (text == some "ReadBitmap") := by
  rw [readsBitmap, stepName_of_performs h]
  rfl

theorem readsBitmap_of_passedOver {step : Element} (h : PassedOver step) :
    readsBitmap step = .ok false := by
  obtain ⟨text, hperforms, hne⟩ := h
  rw [readsBitmap_of_performs hperforms, beq_false_of_ne hne]

theorem readsBitmap_of_unnamed {step : Element} {fault : Fault} (h : Unnamed step fault) :
    readsBitmap step = .error fault := by
  rw [readsBitmap, stepName_of_unnamed h]
  rfl

/-- The search goes on behind the steps that are passed over. -/
theorem anyM_of_passedOver {before : List Element} (h : ∀ other ∈ before, PassedOver other)
    (steps : List Element) : (before ++ steps).anyM readsBitmap = steps.anyM readsBitmap := by
  induction before with
  | nil => rfl
  | cons step before ih =>
    rw [List.forall_mem_cons] at h
    rw [List.cons_append, List.anyM_cons, readsBitmap_of_passedOver h.1, ok_bind]
    exact ih h.2

theorem ImageSearch.anyM_eq {steps : List Element} {image : Except Fault Bool}
    (h : ImageSearch steps image) : steps.anyM readsBitmap = image := by
  cases h with
  | found hsteps hbefore hstep =>
    rw [hsteps, anyM_of_passedOver hbefore, List.anyM_cons, readsBitmap_of_performs hstep]
    rfl
  | stopped hsteps hbefore hstep =>
    rw [hsteps, anyM_of_passedOver hbefore, List.anyM_cons, readsBitmap_of_unnamed hstep]
    rfl
  | missed hsteps => simpa [pure, Except.pure] using anyM_of_passedOver hsteps []

/-- One more step at the front that is passed over does not change what the search comes to. -/
theorem ImageSearch.cons {steps : List Element} {image : Except Fault Bool} {step : Element}
    (h : ImageSearch steps image) (hstep : PassedOver step) :
    ImageSearch (step :: steps) image := by
  cases h with
  | found hsteps hbefore hfound =>
    exact .found (congrArg (step :: ·) hsteps) (List.forall_mem_cons.mpr ⟨hstep, hbefore⟩) hfound
  | stopped hsteps hbefore hstopped =>
    exact .stopped (congrArg (step :: ·) hsteps) (List.forall_mem_cons.mpr ⟨hstep, hbefore⟩)
      hstopped
  | missed hsteps => exact .missed (List.forall_mem_cons.mpr ⟨hstep, hsteps⟩)

/-- The search always comes to something. -/
theorem exists_imageSearch (steps : List Element) : ∃ image, ImageSearch steps image := by
  induction steps with
  | nil => exact ⟨_, .missed nofun⟩
  | cons step steps ih =>
    obtain ⟨image, himage⟩ := ih
    rcases performs_or_unnamed step with ⟨text, hstep⟩ | ⟨fault, hstep⟩
    · by_cases htext : text = some "ReadBitmap"
      · exact ⟨_, .found (List.nil_append _).symm nofun (htext ▸ hstep)⟩
      · exact ⟨image, himage.cons ⟨text, hstep, htext⟩⟩
    · exact ⟨_, .stopped (List.nil_append _).symm nofun hstep⟩

/-! ## The rules -/

/-- The word stands in the name. -/
def Mentions (name word : String) : Prop :=
  word.toList <:+: name.toList

/-- The stages of a type among the object's children. -/
def directStages (object : Element) (type : String) : List Element :=
  (object.childrenNamed "stage").filter fun stage => stage.attr? "type" == some type

/-- The steps of the stages that read from the application, all of them children. -/
def directReadSteps (object : Element) : List Element :=
  (directStages object "Read").flatMap fun stage => stage.childrenNamed "step"

/-- There are many Action stages to a page, three or more on average. -/
def ManyActions (object : Element) : Prop :=
  3 * (object.childrenNamed "subsheet").length ≤ (directStages object "Action").length

/-- The name tells no kind, and the object has this as its model. -/
structure Untold (name : String) (object model : Element) : Prop where
  notBase : ¬Mentions name "base"
  notWrapper : ¬Mentions name "wrapper"
  appdef : object.child? "appdef" = some model

/-- The rules by which an object has its kind, stated by its name or evaluated. -/
inductive Decided (name : String) (object : Element) : Except Fault Classified → Prop
  /-- A base object by its name, whatever else stands there; the stages tell of which sort. -/
  | namedBase {image : Except Fault Bool} (hbase : Mentions name "base")
      (himage : ImageSearch (directReadSteps object) image) :
    Decided name object (image.map fun found => ⟨if found then .surfaceBase else .base, false⟩)
  | namedWrapper (hbase : ¬Mentions name "base") (hwrapper : Mentions name "wrapper") :
    Decided name object (.ok ⟨.wrapper, false⟩)
  | noModel (hbase : ¬Mentions name "base") (hwrapper : ¬Mentions name "wrapper")
      (happdef : object.child? "appdef" = none) :
    Decided name object (.error (.absent "apptypeinfo"))
  | noElement {model info : Element} (h : Untold name object model)
      (hinfo : model.within? "apptypeinfo" = some info)
      (hfirst : model.within? "element" = none) : Decided name object (.error (.absent "find"))
  /-- The model has nothing but its first element. -/
  | emptyModel {model info first : Element} (h : Untold name object model)
      (hinfo : model.within? "apptypeinfo" = some info)
      (hfirst : model.within? "element" = some first) (hinner : first.within? "element" = none) :
    Decided name object (.ok ⟨.wrapper, true⟩)
  | manyActions {model info first : Element} (h : Untold name object model)
      (hinfo : model.within? "apptypeinfo" = some info)
      (hfirst : model.within? "element" = some first) (hactions : ManyActions object) :
    Decided name object (.ok ⟨.wrapper, true⟩)
  | fewActions {model info first inner : Element} (h : Untold name object model)
      (hinfo : model.within? "apptypeinfo" = some info)
      (hfirst : model.within? "element" = some first)
      (hinner : first.within? "element" = some inner) (hactions : ¬ManyActions object) :
    Decided name object (.ok ⟨.base, true⟩)
  /-- The model is that of another object. -/
  | inherited {model parent : Element} (h : Untold name object model)
      (hinfo : model.within? "apptypeinfo" = none)
      (hparent : object.child? "parentobject" = some parent) :
    Decided name object (.ok ⟨.base, false⟩)
  /-- There is no model at all, so an object that does not look at the screen is a wrapper. -/
  | modelless {model : Element} {image : Except Fault Bool} (h : Untold name object model)
      (hinfo : model.within? "apptypeinfo" = none)
      (hparent : object.child? "parentobject" = none)
      (himage : ImageSearch (directReadSteps object) image) :
    Decided name object (image.map fun found => ⟨if found then .surfaceBase else .wrapper, true⟩)

theorem mentions_iff {name word : String} : Mentions name word ↔ occurs word name = true :=
  occursIn_iff.symm

theorem readsImage_eq_anyM (object : Placed) :
    readsImage object = (directReadSteps object).anyM readsBitmap := by
  have hsteps : readSteps object = directReadSteps object := by
    rw [directReadSteps, directStages, ← map_toElement_stagesOf, List.flatMap_map]
    rfl
  rw [← hsteps]
  rfl

theorem manyActions_iff (object : Placed) : ManyActions object ↔
    (object.childrenNamed "subsheet").length * actionsPerWrapperPage ≤
      (stagesOf object "Action").length := by
  rw [ManyActions, directStages, ← map_toElement_stagesOf, List.length_map, Nat.mul_comm]
  rfl

variable {name : String} {object : Placed} {model info : Element}

theorem ImageSearch.readsImage_eq {image : Except Fault Bool}
    (h : ImageSearch (directReadSteps object) image) : readsImage object = image :=
  (readsImage_eq_anyM object).trans h.anyM_eq

theorem classify_of_base (h : Mentions name "base") : classify name object =
    (readsImage object).map fun found => ⟨if found then .surfaceBase else .base, false⟩ := by
  rw [classify, if_pos (mentions_iff.mp h)]
  rfl

theorem classify_of_typed (h : Untold name object model)
    (hinfo : model.within? "apptypeinfo" = some info) :
    classify name object = classifyModelled object model := by
  rw [classify, if_neg (mt mentions_iff.mpr h.notBase), if_neg (mt mentions_iff.mpr h.notWrapper),
    h.appdef, need_some, ok_bind, hinfo]
  rfl

theorem classify_of_untyped (h : Untold name object model)
    (hinfo : model.within? "apptypeinfo" = none) : classify name object =
    if (object.child? "parentobject").isSome then .ok ⟨.base, false⟩
    else (readsImage object).map fun found => ⟨if found then .surfaceBase else .wrapper, true⟩ := by
  rw [classify, if_neg (mt mentions_iff.mpr h.notBase), if_neg (mt mentions_iff.mpr h.notWrapper),
    h.appdef, need_some, ok_bind, hinfo]
  rfl

theorem classifyModelled_of_first {first : Element}
    (hfirst : model.within? "element" = some first) : classifyModelled object model =
    if (first.within? "element").isNone then .ok ⟨.wrapper, true⟩
    else if (object.childrenNamed "subsheet").length * actionsPerWrapperPage ≤
      (stagesOf object "Action").length then .ok ⟨.wrapper, true⟩
    else .ok ⟨.base, true⟩ := by
  rw [classifyModelled, hfirst]
  rfl

/-- What `classify` gives is what the rules say. -/
theorem Decided.classify_eq {answer : Except Fault Classified} (h : Decided name object answer) :
    classify name object = answer := by
  cases h with
  | namedBase hbase himage => rw [classify_of_base hbase, himage.readsImage_eq]
  | namedWrapper hbase hwrapper =>
    rw [classify, if_neg (mt mentions_iff.mpr hbase), if_pos (mentions_iff.mp hwrapper)]
  | noModel hbase hwrapper happdef =>
    rw [classify, if_neg (mt mentions_iff.mpr hbase), if_neg (mt mentions_iff.mpr hwrapper),
      happdef]
    rfl
  | noElement h hinfo hfirst =>
    rw [classify_of_typed h hinfo, classifyModelled, hfirst]
    rfl
  | emptyModel h hinfo hfirst hinner =>
    rw [classify_of_typed h hinfo, classifyModelled_of_first hfirst, hinner]
    rfl
  | manyActions h hinfo hfirst hactions =>
    rw [classify_of_typed h hinfo, classifyModelled_of_first hfirst,
      if_pos ((manyActions_iff object).mp hactions), ite_self]
  | fewActions h hinfo hfirst hinner hactions =>
    rw [classify_of_typed h hinfo, classifyModelled_of_first hfirst, hinner,
      if_neg (mt (manyActions_iff object).mpr hactions)]
    rfl
  | inherited h hinfo hparent =>
    rw [classify_of_untyped h hinfo, hparent]
    rfl
  | modelless h hinfo hparent himage =>
    rw [classify_of_untyped h hinfo, hparent, himage.readsImage_eq]
    rfl

/-- Some rule applies to any object. -/
theorem exists_decided (name : String) (object : Element) :
    ∃ answer, Decided name object answer := by
  obtain ⟨image, himage⟩ := exists_imageSearch (directReadSteps object)
  by_cases hbase : Mentions name "base"
  · exact ⟨_, .namedBase hbase himage⟩
  by_cases hwrapper : Mentions name "wrapper"
  · exact ⟨_, .namedWrapper hbase hwrapper⟩
  cases happdef : object.child? "appdef" with
  | none => exact ⟨_, .noModel hbase hwrapper happdef⟩
  | some model =>
    -- From here on the name is of no use, and the rules look at the object alone.
    have huntold : Untold name object model := ⟨hbase, hwrapper, happdef⟩
    cases hinfo : model.within? "apptypeinfo" with
    | none =>
      cases hparent : object.child? "parentobject" with
      | none => exact ⟨_, .modelless huntold hinfo hparent himage⟩
      | some parent => exact ⟨_, .inherited huntold hinfo hparent⟩
    | some info =>
      cases hfirst : model.within? "element" with
      | none => exact ⟨_, .noElement huntold hinfo hfirst⟩
      | some first =>
        by_cases hactions : ManyActions object
        · exact ⟨_, .manyActions huntold hinfo hfirst hactions⟩
        cases hinner : first.within? "element" with
        | none => exact ⟨_, .emptyModel huntold hinfo hfirst hinner⟩
        | some inner => exact ⟨_, .fewActions huntold hinfo hfirst hinner hactions⟩

/-! ## The answers -/

/-- An answer is one of the three kinds of object, or says what is missing. -/
inductive Answers : Except Fault Classified → Prop
  | kind (classified : Classified) (h : classified.kind ≠ .other) : Answers (.ok classified)
  | missing (member : String) : Answers (.error (.absent member))

theorem ImageSearch.answers {steps : List Element} {image : Except Fault Bool}
    (h : ImageSearch steps image) {otherwise : Kind} (hkind : otherwise ≠ .other)
    (evaluated : Bool) :
    Answers (image.map fun found => ⟨if found then .surfaceBase else otherwise, evaluated⟩) := by
  cases h with
  | found => exact .kind _ nofun
  | stopped _ _ hstep => cases hstep <;> exact .missing _
  | missed => exact .kind _ hkind

theorem Decided.answers {object : Element} {answer : Except Fault Classified}
    (h : Decided name object answer) : Answers answer := by
  cases h with
  | namedBase _ himage => exact himage.answers (by decide) false
  | modelless _ _ _ himage => exact himage.answers (by decide) true
  | noModel | noElement => exact .missing _
  | namedWrapper | emptyModel | manyActions | fewActions | inherited => exact .kind _ (by decide)

/-- The kind of an object is what the rules say, and nothing else. There is always exactly one
answer by the rules: one of the three kinds, or that something is missing. -/
theorem classify_decides_every_object (name : String) (object : Placed) :
    (∀ answer, classify name object = answer ↔ Decided name object answer) ∧
    (∃! answer, Decided name object answer) ∧
    Answers (classify name object) := by
  -- Two rules that apply at once give the same answer, since each gives that of `classify`.
  obtain ⟨answer, hanswer⟩ := exists_decided name object
  have hclassify : Decided name object (classify name object) := hanswer.classify_eq ▸ hanswer
  refine ⟨fun other => ⟨fun h => h ▸ hclassify, Decided.classify_eq⟩, ?_, hclassify.answers⟩
  exact ⟨classify name object, hclassify, fun other hother => hother.classify_eq.symm⟩

end ReleaseReview
