import ReleaseReview.Proofs.UnwantedAttributes

/-!
# Settings of a Java application

A model of a Java application should have its mode set to an external one, and should tell the
application on its command line to leave out hidden elements. The settings of an application are
exported as a list of parameters, each with its name and its value in tags of their own.

The check goes by the names of the tags in that list. A tag that is called like the setting of the
mode is an error whatever it holds, and one that is called like the setting of the command line is a
warning unless its value holds the word by itself. No tag of an exported parameter is called so:
`settings_go_by_tags` says how often each of the two is reported, and that neither ever is for
parameters as they are exported.
-/

namespace ReleaseReview

open Markup Text

/-! ## What is reported -/

/-- The mode is not an external one. -/
def modeError : Finding where
  name := some ("Application Manager mode is not set to External 32/64 bit as " ++
    "recommended when using the JAB.")
  location := some ""

/-- The command line does not leave out hidden elements. -/
def hiddenWarning : Finding where
  name := some ("Recommend to use 'ignorenotshowing' command line param to ignore" ++
    "hidden elements and so increase search performance.")
  location := some ""

/-- Is the node called like the setting of the mode? -/
def setsMode (node : Node) : Bool :=
  node.name? == some "ProcessMode"

/-- Is the node called like the setting of the command line, without the word by itself in its first
value? -/
def lacksWord (node : Node) : Bool :=
  node.name? == some "CommandLineParams" &&
    !(node.element?.bind (·.within? "value")).any (·.holdsLeaf "ignorenotshowing")

/-- What a node among the settings gives rise to. -/
def settingFindings (node : Node) : Findings where
  errors := if setsMode node then [modeError] else []
  warnings := if lacksWord node then [hiddenWarning] else []

section

variable (name : String) (attributes : List (String × String)) (children : List Node)

theorem setsMode_element :
    setsMode (.element name attributes children) = (name == "ProcessMode") := rfl

theorem lacksWord_element :
    lacksWord (.element name attributes children) = (name == "CommandLineParams" &&
      !((Element.mk name attributes children).within? "value").any
        (·.holdsLeaf "ignorenotshowing")) := rfl

end

theorem judgeSetting_eq_ok {node : Node} {findings : Findings}
    (h : judgeSetting node = .ok findings) : findings = settingFindings node := by
  cases node with
  | leaf kind content => exact (Except.ok.inj h).symm
  | element name attributes children =>
    unfold judgeSetting at h
    dsimp only [Node.element?] at h
    rw [settingFindings, setsMode_element, lacksWord_element]
    split at h
    next hmode =>
      obtain rfl := Except.ok.inj h
      obtain rfl := beq_iff_eq.mp hmode
      rfl
    next hmode =>
      rw [if_neg hmode]
      split at h
      next hline =>
        rw [hline, Bool.true_and]
        split at h
        next => cases h
        next value hvalue =>
          obtain rfl := Except.ok.inj h
          rw [hvalue, Option.any_some]
          cases value.holdsLeaf "ignorenotshowing" <;> rfl
      next hline =>
        rw [Bool.eq_false_iff.mpr hline, Bool.false_and]
        exact (Except.ok.inj h).symm

theorem flatMap_ite_eq_replicate {α β : Type} (p : α → Bool) (b : β) (as : List α) :
    (as.flatMap fun a => if p a then [b] else []) = List.replicate (as.countP p) b := by
  induction as with
  | nil => rfl
  | cons a as ih =>
    rw [List.flatMap_cons, ih]
    cases hp : p a with
    | true => rw [List.countP_cons_of_pos hp, List.replicate_succ]; rfl
    | false => rw [List.countP_cons_of_neg (by simp [hp])]; rfl

/-- The findings on the settings are one for each node that is reported. -/
theorem review_judgeSetting_eq_ok {nodes : List Node} {settings : Findings}
    (h : review nodes judgeSetting = .ok settings) :
    settings.errors = List.replicate (nodes.countP setsMode) modeError ∧
      settings.warnings = List.replicate (nodes.countP lacksWord) hiddenWarning := by
  obtain ⟨parts, hparts, h⟩ := bind_eq_ok.mp h
  obtain rfl := pure_eq_ok.mp h
  obtain rfl := eq_map_of_mapM_eq_ok (fun _ _ => judgeSetting_eq_ok) hparts
  rw [Findings.errors_join, Findings.warnings_join, List.flatMap_map, List.flatMap_map]
  exact ⟨flatMap_ite_eq_replicate _ _ _, flatMap_ite_eq_replicate _ _ _⟩

theorem judgeSettings_java {model : Element} {settings : Findings}
    (h : judgeSettings model "Java" = .ok settings) :
    ∃ info parameters, model.child? "apptypeinfo" = some info ∧
      info.within? "parameters" = some parameters ∧
      review parameters.children judgeSetting = .ok settings := by
  rw [judgeSettings, if_neg (not_not_intro rfl)] at h
  obtain ⟨info, hinfo, h⟩ := bind_eq_ok.mp h
  obtain ⟨parameters, hparameters, h⟩ := bind_eq_ok.mp h
  exact ⟨info, parameters, need_eq_ok_iff.mp hinfo, need_eq_ok_iff.mp hparameters, h⟩

/-! ## Other findings of the check -/

/-- A text that starts with a word differs from any other that has another character at some place
of the word. -/
theorem append_ne_of_getElem? {word text : String} {i : Nat} (hi : i < word.toList.length)
    (h : text.toList[i]? ≠ word.toList[i]?) (rest : String) : word ++ rest ≠ text := by
  rintro rfl
  exact h (by rw [String.toList_append, List.getElem?_append_left hi])

theorem modeError_not_mem_errorsOn (item : Examined) : modeError ∉ errorsOn item := by
  unfold errorsOn errorsAgainst judgeMisused
  split
  next => exact List.not_mem_nil
  next =>
    intro hmem
    have hname := Option.some.inj (congrArg Finding.name (List.mem_singleton.mp hmem))
    rw [String.append_assoc, String.append_assoc] at hname
    exact append_ne_of_getElem? (i := 1) (by decide +kernel) (by decide +kernel) _ hname.symm

theorem hiddenWarning_not_mem_warningsOn (before : List Examined) (item : Examined) :
    hiddenWarning ∉ warningsOn before item := by
  unfold warningsOn judgeMissed
  split
  next => exact List.not_mem_nil
  next =>
    intro hmem
    have hname := Option.some.inj (congrArg Finding.name (List.mem_singleton.mp hmem))
    rw [String.append_assoc, String.append_assoc] at hname
    exact append_ne_of_getElem? (i := 0) (by decide +kernel) (by decide +kernel) _ hname.symm

theorem hiddenWarning_not_mem_warningsAfter (before items : List Examined) :
    hiddenWarning ∉ warningsAfter before items := by
  induction items generalizing before with
  | nil => exact List.not_mem_nil
  | cons item items ih =>
    rw [warningsAfter, List.mem_append, not_or]
    exact ⟨hiddenWarning_not_mem_warningsOn before item, ih _⟩

/-- What is found on the elements of a model is never one of the two findings on settings. -/
theorem not_mem_of_judgeTechnology {elements : List Element} {findings : Findings}
    (h : judgeTechnology .all false elements = .ok findings) :
    modeError ∉ findings.errors ∧ hiddenWarning ∉ findings.warnings := by
  rw [errors_judgeTechnology h, CountsDown.of_false elements .all [] findings
    (fun mode => (missedAfter_nil mode).symm) h]
  refine ⟨fun hmem => ?_, hiddenWarning_not_mem_warningsAfter _ _⟩
  obtain ⟨item, -, hitem⟩ := List.mem_flatMap.mp hmem
  exact modeError_not_mem_errorsOn item hitem

/-! ## Parameters as they are exported -/

/-- A setting of an application. Some have no value. -/
structure Parameter where
  name : String
  value : Option String

namespace Parameter

/-- The nodes that a text stands in; an empty one leaves none. -/
def textNodes (text : String) : List Node :=
  if text.isEmpty then [] else [.leaf .text text]

/-- The parameter as it is exported. -/
def toNode (parameter : Parameter) : Node :=
  .element "parameter" [] (.element "name" [] (textNodes parameter.name) ::
    parameter.value.toList.map fun value => .element "value" [] (textNodes value))

/-- Does it set a mode that is not external? -/
def isInternal (parameter : Parameter) : Bool :=
  parameter.name == "ProcessMode" &&
    parameter.value.any fun value => value != "Ext64bit" && value != "Ext32bit"

/-- Does it set a command line that does not leave out hidden elements? -/
def showsHidden (parameter : Parameter) : Bool :=
  parameter.name == "CommandLineParams" &&
    parameter.value.any fun value => !occurs "ignorenotshowing" value

/-- No parameter is exported in a tag that is called like a setting. -/
theorem countP_map_toNode (listed : List Parameter) :
    (listed.map toNode).countP setsMode = 0 ∧ (listed.map toNode).countP lacksWord = 0 := by
  constructor <;>
  · rw [List.countP_map, List.countP_eq_zero]
    intro parameter _
    exact Bool.false_ne_true

end Parameter

/-! ## The check -/

/-- In a model of a Java application, the error on the mode is reported once for each tag among the
settings that is called so, and the warning on hidden elements once for each tag that is called like
the command line and whose value does not hold the word by itself. For settings as they are exported
neither is ever reported. So what is reported is one error for each mode that is not external and
one warning for each command line without the word exactly if there are none. -/
theorem settings_go_by_tags {object : Placed} {facts : Facts} {kind : Kind} {model : Element}
    {outcome : Outcome} (hkind : facts.kind = .ok kind) (hwrapper : kind ≠ .wrapper)
    (hmodel : model? object = some model) (howned : inheritsModel object = false)
    (hjava : applicationType model = .ok "Java") (h : checkTechnology object facts = .ok outcome) :
    ∃ info parameters, model.child? "apptypeinfo" = some info ∧
      info.within? "parameters" = some parameters ∧
      outcome.findings.errors.count modeError = parameters.children.countP setsMode ∧
      outcome.findings.warnings.count hiddenWarning = parameters.children.countP lacksWord ∧
      ∀ listed : List Parameter, parameters.children = listed.map Parameter.toNode →
        modeError ∉ outcome.findings.errors ∧ hiddenWarning ∉ outcome.findings.warnings ∧
        (outcome.findings.errors.count modeError = listed.countP Parameter.isInternal ∧
            outcome.findings.warnings.count hiddenWarning = listed.countP Parameter.showsHidden ↔
          ∀ parameter ∈ listed, parameter.isInternal = false ∧ parameter.showsHidden = false) := by
  obtain ⟨application, settings, attributes, happlication, hsettings, hattributes, hfindings⟩ :=
    checkTechnology_eq_ok hkind hwrapper hmodel howned h
  obtain rfl := Except.ok.inj (hjava.symm.trans happlication)
  obtain ⟨info, parameters, hinfo, hparameters, hreview⟩ := judgeSettings_java hsettings
  obtain ⟨herrors, hwarnings⟩ := review_judgeSetting_eq_ok hreview
  obtain ⟨hmode, hhidden⟩ := not_mem_of_judgeTechnology hattributes
  have hmodes : outcome.findings.errors.count modeError = parameters.children.countP setsMode := by
    rw [hfindings, Findings.errors_append, Findings.errors_append, List.count_append,
      List.count_append, herrors, List.count_replicate_self, List.count_eq_zero.mpr hmode]
    exact Nat.zero_add _
  have hlines : outcome.findings.warnings.count hiddenWarning =
      parameters.children.countP lacksWord := by
    rw [hfindings, Findings.warnings_append, Findings.warnings_append, List.count_append,
      List.count_append, hwarnings, List.count_replicate_self, List.count_eq_zero.mpr hhidden]
    exact Nat.zero_add _
  refine ⟨info, parameters, hinfo, hparameters, hmodes, hlines, fun listed hlisted => ?_⟩
  rw [hlisted, (Parameter.countP_map_toNode listed).1] at hmodes
  rw [hlisted, (Parameter.countP_map_toNode listed).2] at hlines
  refine ⟨List.count_eq_zero.mp hmodes, List.count_eq_zero.mp hlines, ?_⟩
  rw [hmodes, hlines, eq_comm, List.countP_eq_zero, eq_comm, List.countP_eq_zero]
  simp only [Bool.not_eq_true, imp_and, forall_and]

/-- An object whose model is of a Java application with these settings. -/
def javaObject (settings : List Node) : Placed :=
  .alone ⟨"process", [("name", "Base A")],
    [.element "appdef" []
      [.element "apptypeinfo" []
        [.element "id" [] [.leaf .text "JavaLaunch"], .element "parameters" [] settings],
       rootElement.toNode]]⟩

/-- A mode that is external, in a tag that is called like its setting. -/
def modeTag : Node :=
  .element "ProcessMode" [] [.element "value" [] [.leaf .text "Ext64bit"]]

/-- The same mode as it is exported, and a setting without a value. -/
def externalSettings : List Parameter :=
  [⟨"ProcessMode", some "Ext64bit"⟩, ⟨"Options", none⟩]

/-- An external mode is reported if a tag is called like its setting, and is not as it is
exported. -/
theorem external_mode_tag_is_reported :
    (∃ outcome, checkTechnology (javaObject [modeTag]) ⟨.ok .base, .ok false, .ok false⟩ =
        .ok outcome ∧
      outcome.findings.errors.count modeError = 1) ∧
    ∃ outcome, checkTechnology (javaObject (externalSettings.map Parameter.toNode))
        ⟨.ok .base, .ok false, .ok false⟩ = .ok outcome ∧
      outcome.findings.errors.count modeError = externalSettings.countP Parameter.isInternal ∧
      outcome.findings.warnings.count hiddenWarning =
        externalSettings.countP Parameter.showsHidden := by
  constructor
  · obtain ⟨outcome, hcheck⟩ : ∃ outcome, checkTechnology (javaObject [modeTag])
        ⟨.ok .base, .ok false, .ok false⟩ = .ok outcome := ⟨_, rfl⟩
    obtain ⟨info, parameters, hinfo, hparameters, hmodes, -⟩ :=
      settings_go_by_tags rfl (by decide) rfl rfl (by decide +kernel) hcheck
    cases hinfo
    cases hparameters
    exact ⟨outcome, hcheck, hmodes⟩
  · obtain ⟨outcome, hcheck⟩ : ∃ outcome,
        checkTechnology (javaObject (externalSettings.map Parameter.toNode))
          ⟨.ok .base, .ok false, .ok false⟩ = .ok outcome := ⟨_, rfl⟩
    obtain ⟨info, parameters, hinfo, hparameters, -, -, hexported⟩ :=
      settings_go_by_tags rfl (by decide) rfl rfl (by decide +kernel) hcheck
    cases hinfo
    cases hparameters
    exact ⟨outcome, hcheck, (hexported externalSettings rfl).2.2.mpr (by decide +kernel)⟩

/-- Settings as they are exported: an internal mode, and a command line without the word. -/
def exportedSettings : List Parameter :=
  [⟨"ProcessMode", some "Internal"⟩, ⟨"CommandLineParams", some "-Xmx512m"⟩]

/-- Neither the mode nor the command line is reported. -/
theorem internal_mode_is_not_reported :
    exportedSettings.countP Parameter.isInternal = 1 ∧
    exportedSettings.countP Parameter.showsHidden = 1 ∧
    ∃ outcome, checkTechnology (javaObject (exportedSettings.map Parameter.toNode))
        ⟨.ok .base, .ok false, .ok false⟩ = .ok outcome ∧ outcome.findings = .none :=
  ⟨by decide +kernel, by decide +kernel, _, rfl, by decide +kernel⟩

end ReleaseReview
