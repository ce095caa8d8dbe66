import FormLine.Proofs.Export
import FormLine.Proofs.FieldMarkup
/-!
# One control in two outputs

The markup of a field and the export of the form that has just this field are made by two walks over the
same metadata, each with its own idea of what an empty text or an unset default means. `same_control` says
that they describe one control, for every name and every specification: what a reader finds in the printed
markup is compared with the export itself, keyword by keyword (`SameControl`), and nothing in the statement
names the metadata.

The comparison looks at elements by their tags wherever they stand (`Html.elements`), so it also says that
the markup has no second label, option or help text. That a text field never starts with a yes or no and a
checkbox never with a text is a property of reading specifications (`Export.flag_iff_checkbox`); for other
metadata the two outputs differ.
-/

namespace FormLine

/-! ## Looking at a tree -/

namespace Html

mutual
/-- The elements of this tag in the node, in the order in which they start. -/
def elements (tag : String) : Html → List Html
  | .text _ => []
  | .void t attributes => if tag = t then [.void t attributes] else []
  | .element t attributes children =>
    (if tag = t then [.element t attributes children] else []) ++ elementsIn tag children

/-- Those in nodes one after another. -/
def elementsIn (tag : String) : List Html → List Html
  | [] => []
  | node :: rest => elements tag node ++ elementsIn tag rest
end

mutual
/-- All text in the node. -/
def content : Html → String
  | .text s => s
  | .void _ _ => ""
  | .element _ _ children => contentOf children

/-- All text in nodes one after another. -/
def contentOf : List Html → String
  | [] => ""
  | node :: rest => content node ++ contentOf rest
end

/-- The attributes of an element. -/
def attributes : Html → List Attribute
  | .text _ => []
  | .void _ attributes => attributes
  | .element _ attributes _ => attributes

/-- The value of an attribute of this name. -/
def valueOf? (name : String) : List Attribute → Option String
  | [] => none
  | .value n v :: rest => if n = name then some v else valueOf? name rest
  | .mark _ :: rest => valueOf? name rest

/-- The value of an attribute of the element. -/
def value? (name : String) (node : Html) : Option String := valueOf? name node.attributes

/-- The element has an attribute that says something by being there. -/
def HasMark (name : String) (node : Html) : Prop := .mark name ∈ node.attributes

theorem elementsIn_append (tag : String) (nodes more : List Html) :
    elementsIn tag (nodes ++ more) = elementsIn tag nodes ++ elementsIn tag more := by
  induction nodes with
  | nil => rfl
  | cons node rest ih => rw [List.cons_append, elementsIn, ih, elementsIn, List.append_assoc]

theorem elementsIn_textOf (tag s : String) : elementsIn tag (textOf s) = [] := by
  unfold textOf
  split
  · rfl
  · rfl

theorem contentOf_textOf (s : String) : contentOf (textOf s) = s := by
  unfold textOf
  split
  · rename_i h
    rw [h]
    rfl
  · simp [contentOf, content]

end Html

namespace Shown

open Html

/-! ## The statement -/

/-- The label carries the mark of a field that must be filled in. -/
def IsMarkedRequired (label : Html) : Prop :=
  ∃ mark ∈ label.elements "span", mark.value? "class" = some "required"

/-- The default that is exported is the one that the control of the component starts with. -/
def StartsWith (default : Option Json) (node : Html) : Component → Prop
  | .text => ∃ input, node.elements "input" = [input] ∧ input.value? "type" = some "text" ∧
      default = (input.value? "value").map .str
  | .textarea => ∃ area, node.elements "textarea" = [area] ∧ default.getD (.str "") = .str area.content
  | .select => ∃ list, node.elements "select" = [list] ∧ ∀ option ∈ node.elements "option",
      ∃ choice, option.value? "value" = some choice ∧
        (option.HasMark "selected" ↔ default = some (.str choice))
  | .checkbox => ∃ box, node.elements "input" = [box] ∧ box.value? "type" = some "checkbox" ∧
      (box.HasMark "checked" ↔ default = some (.bool true))

/-- The property of a field and its markup describe the same control of this component. -/
structure SameControl (required : Prop) (property : Json) (c : Component) (node : Html) : Prop where
  label : ∃ label title, node.elements "label" = [label] ∧ property.at? "title" = some (.str title) ∧
    ((required ∧ IsMarkedRequired label ∧ label.content = title ++ " *") ∨
      (¬ required ∧ ¬ IsMarkedRequired label ∧ label.content = title))
  help : (property.at? "description").toList =
    (node.elements "small").map fun help => .str help.content
  choices : (property.at? "enum").getD (.arr []) =
    .arr ((node.elements "option").map fun option => .ofText? (option.value? "value"))
  initial : StartsWith (property.at? "default") node c

/-- The export of a form and the markup of its field of this name agree. -/
structure Agrees (name : String) (schema controls : Json) (node : Html) : Prop where
  unresolved : controls.at? name = none ↔
    node = .element "div" [.value "class" "field-not-found"] [.text "Not Found Field"]
  resolved : ∀ control, controls.at? name = some control →
    ∃ c properties property names, control = .obj [("ui:widget", .str c.name)] ∧
      schema.at? "properties" = some properties ∧ properties.at? name = some property ∧
      schema.at? "required" = some (.texts names) ∧ SameControl (name ∈ names) property c node

/-! ## The elements of the markup -/

section Elements

variable {m : Metadata} {name tag : String} {state : Option Interaction} {c : Component}

theorem elements_labelNode (hspan : tag ≠ "span") :
    (m.labelNode name).elements tag = if tag = "label" then [m.labelNode name] else [] := by
  have hchildren : ∀ children, elementsIn tag children = [] →
      (Html.element "label" [.value "for" name] children).elements tag =
        if tag = "label" then [.element "label" [.value "for" name] children] else [] := by
    intro children h
    rw [elements, h, List.append_nil]
  refine hchildren _ ?_
  split
  · simp [elementsIn, elements, hspan]
  · exact elementsIn_textOf tag _

theorem elementsIn_helpNodes :
    elementsIn tag m.helpNodes = if tag = "small" then m.helpNodes else [] := by
  unfold Metadata.helpNodes
  split
  · simp [elementsIn]
  · simp [elementsIn, elements]

theorem elementsIn_errorNodes (hdiv : tag ≠ "div") :
    elementsIn tag (Interaction.errorNodes state) = [] := by
  unfold Interaction.errorNodes
  split
  · rfl
  · simp [elementsIn, elements, hdiv]

theorem elements_optionNode (choice : String) :
    (m.optionNode choice).elements tag = if tag = "option" then [m.optionNode choice] else [] := by
  rw [Metadata.optionNode, elements, elementsIn_textOf, List.append_nil]

theorem elementsIn_options (choices : List String) :
    elementsIn tag (choices.map m.optionNode) =
      if tag = "option" then choices.map m.optionNode else [] := by
  induction choices with
  | nil => simp [elementsIn]
  | cons choice rest ih =>
    rw [List.map_cons, elementsIn, ih, elements_optionNode]
    split
    · rfl
    · rfl

/-- The tag of the control of a component. -/
def controlTag : Component → String
  | .text => "input"
  | .textarea => "textarea"
  | .select => "select"
  | .checkbox => "input"

/-- The options that a control shows, which only a selection has. -/
def optionNodes (m : Metadata) : Component → List Html
  | .select => (m.arguments.getD []).map m.optionNode
  | _ => []

/-- A control holds no element but its options. -/
theorem elements_controlNode : (m.controlNode name c).elements tag =
    (if tag = controlTag c then [m.controlNode name c] else []) ++
      if tag = "option" then optionNodes m c else [] := by
  have hnone : (if tag = "option" then ([] : List Html) else []) = [] := ite_self []
  cases c with
  | text =>
    rw [optionNodes, hnone, List.append_nil]
    · rfl
    · nofun
  | textarea =>
    have htext : elementsIn tag (textOf (m.initialText?.getD "")) = [] := elementsIn_textOf tag _
    rw [optionNodes, hnone, Metadata.controlNode, elements, htext]
    · rfl
    · nofun
  | select =>
    rw [Metadata.controlNode, elements, elementsIn_options]
    rfl
  | checkbox =>
    rw [optionNodes, hnone, List.append_nil]
    · rfl
    · nofun

theorem elementsIn_labelledNodes (hspan : tag ≠ "span") :
    elementsIn tag (m.labelledNodes name c) =
      (if tag = "label" then [m.labelNode name] else []) ++ (m.controlNode name c).elements tag := by
  have hcontrol : (m.controlNode name c).elements "label" = [] := by
    rw [elements_controlNode]
    cases c <;> simp [controlTag]
  unfold Metadata.labelledNodes
  split
  · -- a checkbox stands in front of its label, but no tag is found in both
    simp only [elementsIn, elements_labelNode hspan, List.append_nil]
    split
    · rename_i h
      rw [h, hcontrol, List.append_nil, List.nil_append]
    · rw [List.append_nil, List.nil_append]
  · simp only [elementsIn, elements_labelNode hspan, List.append_nil]

/-- An element of a field is its label, its control, an option of that, or its help text. -/
theorem elements_markup (h : m.component = some c) (hdiv : tag ≠ "div") (hspan : tag ≠ "span") :
    (m.markup name state).elements tag = (if tag = "label" then [m.labelNode name] else []) ++
      (m.controlNode name c).elements tag ++ if tag = "small" then m.helpNodes else [] := by
  simp only [Metadata.markup, h, elements, if_neg hdiv, List.nil_append, elementsIn_append,
    elementsIn_labelledNodes hspan, elementsIn_helpNodes, elementsIn_errorNodes hdiv, List.append_nil]

theorem elements_label (h : m.component = some c) :
    (m.markup name state).elements "label" = [m.labelNode name] := by
  rw [elements_markup h (by decide) (by decide), elements_controlNode]
  cases c <;> simp [controlTag]

theorem elements_small (h : m.component = some c) :
    (m.markup name state).elements "small" = m.helpNodes := by
  rw [elements_markup h (by decide) (by decide), elements_controlNode]
  cases c <;> simp [controlTag]

theorem elements_control (h : m.component = some c) :
    (m.markup name state).elements (controlTag c) = [m.controlNode name c] := by
  rw [elements_markup h (by cases c <;> decide) (by cases c <;> decide), elements_controlNode]
  cases c <;> simp [controlTag]

theorem elements_option (h : m.component = some c) : (m.markup name state).elements "option" =
    optionNodes m c := by
  rw [elements_markup h (by decide) (by decide), elements_controlNode]
  cases c <;> simp [controlTag]

end Elements

/-! ## What the elements say -/

section Says

variable {m : Metadata} {name : String} {c : Component}

theorem label_says :
    (m.required = true ∧ IsMarkedRequired (m.labelNode name) ∧
        (m.labelNode name).content = m.titleOr name ++ " *") ∨
      (¬ m.required = true ∧ ¬ IsMarkedRequired (m.labelNode name) ∧
        (m.labelNode name).content = m.titleOr name) := by
  unfold Metadata.labelNode
  cases hrequired : m.required with
  | true =>
    refine .inl ⟨rfl, ?_, ?_⟩
    · exact ⟨.element "span" [.value "class" "required"] [.text "*"], by simp [elements, elementsIn], rfl⟩
    · simp [content, contentOf, String.append_assoc]
  | false =>
    refine .inr ⟨Bool.false_ne_true, ?_, ?_⟩
    · rintro ⟨mark, hmark, -⟩
      simp [elements, elementsIn_textOf] at hmark
    · simp [content, contentOf_textOf]

theorem help_says : ((Metadata.nonEmpty? m.description).map Json.str).toList =
    m.helpNodes.map fun help => .str help.content := by
  unfold Metadata.helpNodes
  cases Metadata.nonEmpty? m.description with
  | none => rfl
  | some text => simp [content, contentOf]

theorem value?_optionNode (choice : String) : (m.optionNode choice).value? "value" = some choice := rfl

theorem choices_say (h : m.component = some c) :
    ((FormField.choicesOf m).bind fun vs => if vs.isEmpty then none else some (Json.texts vs)).getD (.arr []) =
      .arr ((optionNodes m c).map fun option => .ofText? (option.value? "value")) := by
  have hoptions : ∀ choices : List String, (choices.map m.optionNode).map
      (fun option => Json.ofText? (option.value? "value")) = choices.map .str := by
    intro choices
    rw [List.map_map]
    rfl
  cases c with
  | select =>
    rw [optionNodes, hoptions]
    unfold FormField.choicesOf
    cases ha : m.arguments with
    | none => simp [h]
    | some choices =>
      cases choices with
      | nil => simp [h]
      | cons first rest => simp [h, Json.texts]
  | text => simp [FormField.choicesOf, h, optionNodes]
  | textarea => simp [FormField.choicesOf, h, optionNodes]
  | checkbox => simp [FormField.choicesOf, h, optionNodes]

theorem default_text (h : ∀ b, m.initial ≠ some (.flag b)) :
    m.initial.map DefaultValue.toJson = m.initialText?.map .str := by
  unfold Metadata.initialText?
  cases hinitial : m.initial with
  | none => rfl
  | some d =>
    cases d with
    | flag b => exact absurd hinitial (h b)
    | text s => rfl

theorem value?_input : (m.controlNode name .text).value? "value" = m.initialText? := by
  rw [controlNode_text]
  cases m.initialText? with
  | none =>
    have hmark : valueOf? "value" (if m.required = true then [.mark "required"] else []) = none := by
      split
      · rfl
      · rfl
    exact hmark
  | some s => rfl

theorem hasMark_selected (choice : String) :
    (m.optionNode choice).HasMark "selected" ↔ m.initial = some (.text choice) := by
  by_cases h : m.initial = some (.text choice)
  · simp [HasMark, Metadata.optionNode, attributes, h]
  · simp [HasMark, Metadata.optionNode, attributes, h]

theorem hasMark_checked :
    (m.controlNode name .checkbox).HasMark "checked" ↔ m.initial = some (.flag true) := by
  by_cases h : m.initial = some (.flag true)
  · simp [HasMark, Metadata.controlNode, attributes, Metadata.nameAttributes, h]
  · simp [HasMark, Metadata.controlNode, attributes, Metadata.nameAttributes, h]

theorem toJson_injective : Function.Injective DefaultValue.toJson := by
  rintro (b | s) (b' | s') h
  · exact congrArg _ (Json.bool.inj h)
  · cases h
  · cases h
  · exact congrArg _ (Json.str.inj h)

theorem initial_toJson {d : DefaultValue} :
    m.initial.map DefaultValue.toJson = some d.toJson ↔ m.initial = some d := by
  rw [← Option.map_some, (Option.map_injective toJson_injective).eq_iff]

/-- The control starts with the default where only checkboxes have a yes or no. -/
theorem startsWith_markup (h : m.component = some c) (state : Option Interaction)
    (hflag : ∀ d, m.initial = some d → ((∃ b, d = .flag b) ↔ c = .checkbox)) :
    StartsWith (m.initial.map DefaultValue.toJson) (m.markup name state) c := by
  have hcontrol : (m.markup name state).elements (controlTag c) = [m.controlNode name c] :=
    elements_control h
  -- the text that is shown for a yes or no is not what is exported for it
  have htext : c ≠ .checkbox → m.initial.map DefaultValue.toJson = m.initialText?.map .str := by
    intro hc
    refine default_text fun b hb => ?_
    exact hc ((hflag _ hb).mp ⟨b, rfl⟩)
  cases c with
  | text =>
    refine ⟨_, hcontrol, rfl, ?_⟩
    rw [value?_input, htext (by decide)]
  | textarea =>
    refine ⟨_, hcontrol, ?_⟩
    rw [htext (by decide), Metadata.controlNode, content, contentOf_textOf]
    cases m.initialText? with
    | none => rfl
    | some s => rfl
  | select =>
    refine ⟨_, hcontrol, fun option hoption => ?_⟩
    rw [elements_option h] at hoption
    obtain ⟨choice, _, rfl⟩ := List.mem_map.mp hoption
    exact ⟨choice, value?_optionNode choice, (hasMark_selected choice).trans initial_toJson.symm⟩
  | checkbox => exact ⟨_, hcontrol, rfl, hasMark_checked.trans initial_toJson.symm⟩

end Says

/-! ## One field -/

theorem sameControl_markup {m : Metadata} {c : Component} (name : String) (h : m.component = some c)
    (state : Option Interaction)
    (hflag : ∀ d, m.initial = some d → ((∃ b, d = .flag b) ↔ c = .checkbox)) :
    SameControl (m.required = true) (FormField.ofMetadata name m).property c (m.markup name state) := by
  have hkeyword := Export.at?_property (FormField.ofMetadata name m)
  have htitle : (FormField.ofMetadata name m).property.at? "title" = some (.str (m.titleOr name)) :=
    hkeyword "title"
  have hdescription : (FormField.ofMetadata name m).property.at? "description" =
      (Metadata.nonEmpty? m.description).map .str := hkeyword "description"
  have hdefault : (FormField.ofMetadata name m).property.at? "default" =
      m.initial.map DefaultValue.toJson := hkeyword "default"
  have henum : (FormField.ofMetadata name m).property.at? "enum" =
      (FormField.choicesOf m).bind fun vs => if vs.isEmpty then none else some (.texts vs) :=
    hkeyword "enum"
  constructor
  · exact ⟨m.labelNode name, m.titleOr name, elements_label h, htitle, label_says⟩
  · rw [hdescription, elements_small h, help_says]
  · rw [henum, elements_option h, choices_say h]
  · rw [hdefault]
    exact startsWith_markup h state hflag

/-- What is printed is read as the markup, also where it is the placeholder. -/
theorem read_markup (m : Metadata) (name : String) (state : Option Interaction) :
    Html.read? (m.render name state) = some [m.markup name state] := by
  cases h : m.component with
  | none =>
    have hmarkup : m.markup name state = Metadata.placeholder := by rw [Metadata.markup, h]
    rw [Metadata.render, hmarkup]
    rfl
  | some c =>
    have hfield : IsField m name state c (m.markup name state) := by
      rw [isField_iff, Metadata.markup, h]
    exact Html.read?_print hfield.readable

section Form

variable (draft : Json) (formId title : String) (description : Option String) (name spec : String)

theorem exports_single : Export.Exports draft [(name, spec)]
    (Export.formOf formId title description [(name, spec)]) :=
  Export.exports_formOf draft (List.nodup_cons.mpr ⟨List.not_mem_nil, List.nodup_nil⟩)

theorem at?_controls : (Export.formOf formId title description [(name, spec)]).uiSchema.at? name =
    (Export.metadataOf spec).component.map fun c => .obj [("ui:widget", .str c.name)] := by
  rw [(exports_single .null formId title description name spec).controls]
  cases hc : (Export.metadataOf spec).component with
  | none => simp [hc, Json.at?, Json.member?]
  | some c => simp [hc, Json.at?, Json.member?]

theorem mem_required :
    name ∈ (([(name, spec)].filter fun e => (Export.metadataOf e.2).required).map Prod.fst) ↔
      (Export.metadataOf spec).required = true := by
  cases h : (Export.metadataOf spec).required <;> simp [h]

theorem markup_eq_placeholder {m : Metadata} {state : Option Interaction} :
    m.markup name state = Metadata.placeholder ↔ m.component = none := by
  unfold Metadata.markup
  cases m.component with
  | none => simp
  | some c => simp [Metadata.placeholder]

theorem agrees_markup (state : Option Interaction) :
    Agrees name ((Export.formOf formId title description [(name, spec)]).jsonSchema draft)
      (Export.formOf formId title description [(name, spec)]).uiSchema
      ((Export.metadataOf spec).markup name state) := by
  have hcontrols := at?_controls formId title description name spec
  have hexports := exports_single draft formId title description name spec
  constructor
  · rw [hcontrols, Option.map_eq_none_iff]
    exact (markup_eq_placeholder name).symm
  · intro control hcontrol
    rw [hcontrols] at hcontrol
    obtain ⟨c, hc, rfl⟩ := Option.map_eq_some_iff.mp hcontrol
    have hproperty : Json.at? (.obj [(name, Export.property name spec)]) name =
        some (Export.property name spec) := by
      rw [Json.at?, Json.member?, if_pos rfl]
    refine ⟨c, _, _, _, rfl, hexports.properties, hproperty, hexports.required, ?_⟩
    rw [mem_required]
    refine sameControl_markup name hc state fun d hd => ?_
    rw [Export.flag_iff_checkbox hd, hc, Option.some.injEq]

end Form

/-- **The markup of a field and the export of its form describe the same control.** Whatever the name and
the specification are, the form with this one field is made, the printed markup of the field is read as one
node, and the two agree. -/
theorem same_control (draft : Json) (formId title : String) (description : Option String)
    (name spec : String) (state : Option Interaction) :
    ∃ f node, Form.ofSpecs? (.str formId) (.str title) (.ofText? description) [(name, .str spec)] = .ok f ∧
      Html.read? ((Report.ofSpec spec).metadata.render name state) = some [node] ∧
      Agrees name (f.jsonSchema draft) f.uiSchema node :=
  ⟨_, _, Export.ofSpecs?_texts formId title description [(name, spec)], read_markup _ name state,
    agrees_markup draft formId title description name spec state⟩

end Shown

end FormLine
