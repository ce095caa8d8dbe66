import FormLine.Field.Markup
import FormLine.Proofs.HtmlReading
import Mathlib.Data.List.Forall2
/-!
# What a reader finds in the markup of a field

The elements of a field, stated as rules over the tree that a reader finds (`IsField`): the label, the
control of each component, the help text and the error, each with the attributes and the text that it
must have and no others. `read_render` says that reading the printed markup gives exactly one node, and
that it is the one that the rules describe, so no text of the name, the metadata or the interaction adds
an element or an attribute or ends one.

The rules determine the tree (`isField_iff`), and a tree that obeys them is one that a reader can tell
(`IsField.readable`); the rest is `read?_print`.
-/

namespace FormLine.Shown

/-! ## The rules -/

/-- The title of a field: its label, or its name where the label is missing or empty. -/
def IsTitle (m : Metadata) (name title : String) : Prop :=
  (m.label = some title ∧ title ≠ "") ∨ ((m.label = none ∨ m.label = some "") ∧ title = name)

/-- The attribute stands there if and only if the condition holds. -/
def IsMarked (condition : Prop) (mark : String) (attributes : List Attribute) : Prop :=
  (condition ∧ attributes = [.mark mark]) ∨ (¬ condition ∧ attributes = [])

/-- The default as it is shown, where there is one. -/
inductive IsInitial (m : Metadata) : Option String → Prop
  | unset : m.initial = none → IsInitial m none
  | yes : m.initial = some (.flag true) → IsInitial m (some "True")
  | no : m.initial = some (.flag false) → IsInitial m (some "False")
  | text (s : String) : m.initial = some (.text s) → IsInitial m (some s)

inductive IsLabel (m : Metadata) (name : String) : Html → Prop
  | plain (title : String) : IsTitle m name title → m.required = false →
      IsLabel m name (.element "label" [.value "for" name] (Html.textOf title))
  | required (title : String) : IsTitle m name title → m.required = true →
      IsLabel m name (.element "label" [.value "for" name]
        [.text (title ++ " "), .element "span" [.value "class" "required"] [.text "*"]])

inductive IsOption (m : Metadata) (choice : String) : Html → Prop
  | mk (selected : List Attribute) : IsMarked (m.initial = some (.text choice)) "selected" selected →
      IsOption m choice (.element "option" (.value "value" choice :: selected) (Html.textOf choice))

/-- The control of a component. Only a checkbox never has the attribute `required`. -/
inductive IsControl (m : Metadata) (name : String) : Component → Html → Prop
  | text (initial : Option String) (required : List Attribute) : IsInitial m initial →
      IsMarked (m.required = true) "required" required →
      IsControl m name .text (.void "input"
        ([.value "type" "text", .value "id" name, .value "name" name] ++
          initial.toList.map (Attribute.value "value") ++ required))
  | textarea (initial : Option String) (required : List Attribute) : IsInitial m initial →
      IsMarked (m.required = true) "required" required →
      IsControl m name .textarea (.element "textarea"
        ([.value "id" name, .value "name" name] ++ required) (Html.textOf (initial.getD "")))
  | select (options : List Html) (required : List Attribute) :
      List.Forall₂ (IsOption m) (m.arguments.getD []) options →
      IsMarked (m.required = true) "required" required →
      IsControl m name .select (.element "select"
        ([.value "id" name, .value "name" name] ++ required) options)
  | checkbox (checked : List Attribute) : IsMarked (m.initial = some (.flag true)) "checked" checked →
      IsControl m name .checkbox (.void "input"
        ([.value "type" "checkbox", .value "id" name, .value "name" name] ++ checked))

/-- The help text, where there is a description that is not empty. -/
inductive IsHelp (m : Metadata) : List Html → Prop
  | missing : m.description = none ∨ m.description = some "" → IsHelp m []
  | there (text : String) : m.description = some text → text ≠ "" →
      IsHelp m [.element "small" [.value "class" "description"] [.text text]]

/-- The error, where the field was touched and has one that is not empty. -/
inductive IsError (state : Option Interaction) : List Html → Prop
  | hidden : (∀ e, state = some ⟨true, some e⟩ → e = "") → IsError state []
  | shown (e : String) : state = some ⟨true, some e⟩ → e ≠ "" →
      IsError state [.element "div" [.value "class" "error"] [.text e]]

/-- The elements of a field in their order. -/
inductive IsField (m : Metadata) (name : String) (state : Option Interaction) :
    Component → Html → Prop
  | labelFirst (c : Component) (label control : Html) (help error : List Html) : c ≠ .checkbox →
      IsLabel m name label → IsControl m name c control → IsHelp m help → IsError state error →
      IsField m name state c
        (.element "div" [.value "class" "field"] ([label, control] ++ help ++ error))
  | checkbox (label control : Html) (help error : List Html) :
      IsLabel m name label → IsControl m name .checkbox control → IsHelp m help →
      IsError state error →
      IsField m name state .checkbox
        (.element "div" [.value "class" "field"] ([control, label] ++ help ++ error))

/-! ## The rules determine the tree -/

variable {m : Metadata} {name : String} {state : Option Interaction}

theorem isTitle_iff {title : String} : IsTitle m name title ↔ title = m.titleOr name := by
  unfold IsTitle Metadata.titleOr
  cases hlabel : m.label with
  | none => simp [Metadata.nonEmpty?]
  | some label =>
    by_cases h : label = ""
    · subst h
      simp [Metadata.nonEmpty?]
    · simp [Metadata.nonEmpty?, h]
      constructor
      · rintro ⟨rfl, _⟩; rfl
      · rintro rfl; exact ⟨rfl, h⟩

theorem isMarked_iff {condition : Prop} [Decidable condition] {mark : String}
    {attributes : List Attribute} :
    IsMarked condition mark attributes ↔ attributes = if condition then [.mark mark] else [] := by
  by_cases h : condition <;> simp [IsMarked, h]

theorem isInitial_iff {initial : Option String} : IsInitial m initial ↔ initial = m.initialText? := by
  constructor
  · intro h
    cases h with
    | unset h => rw [Metadata.initialText?, h]; rfl
    | yes h => rw [Metadata.initialText?, h]; rfl
    | no h => rw [Metadata.initialText?, h]; rfl
    | text s h => rw [Metadata.initialText?, h]; rfl
  · rintro rfl
    unfold Metadata.initialText?
    cases h : m.initial with
    | none => exact .unset h
    | some d =>
      match d with
      | .flag true => exact .yes h
      | .flag false => exact .no h
      | .text s => exact .text s h

theorem isLabel_iff {node : Html} : IsLabel m name node ↔ node = m.labelNode name := by
  unfold Metadata.labelNode
  constructor
  · intro h
    cases h with
    | plain title htitle hrequired => rw [isTitle_iff.mp htitle, hrequired]; rfl
    | required title htitle hrequired => rw [isTitle_iff.mp htitle, hrequired]; rfl
  · rintro rfl
    cases hrequired : m.required with
    | false => exact .plain _ (isTitle_iff.mpr rfl) hrequired
    | true => exact .required _ (isTitle_iff.mpr rfl) hrequired

theorem isOption_iff {choice : String} {node : Html} :
    IsOption m choice node ↔ node = m.optionNode choice := by
  constructor
  · rintro ⟨selected, h⟩
    rw [isMarked_iff.mp h]
    rfl
  · rintro rfl
    exact .mk _ (isMarked_iff.mpr rfl)

theorem forall₂_isOption_iff {choices : List String} {options : List Html} :
    List.Forall₂ (IsOption m) choices options ↔ options = choices.map m.optionNode := by
  induction choices generalizing options with
  | nil => simp
  | cons choice rest ih =>
    cases options with
    | nil => simp
    | cons node nodes => simp [isOption_iff, ih]

theorem controlNode_text (m : Metadata) (name : String) :
    m.controlNode name .text = .void "input"
      ([.value "type" "text", .value "id" name, .value "name" name] ++
        m.initialText?.toList.map (Attribute.value "value") ++
        if m.required = true then [.mark "required"] else []) := by
  rw [← Option.toList_map]
  rfl

theorem isControl_iff {c : Component} {node : Html} :
    IsControl m name c node ↔ node = m.controlNode name c := by
  constructor
  · intro h
    cases h with
    | text initial required hinitial hrequired =>
      rw [isInitial_iff.mp hinitial, isMarked_iff.mp hrequired, controlNode_text]
    | textarea initial required hinitial hrequired =>
      rw [isInitial_iff.mp hinitial, isMarked_iff.mp hrequired]
      rfl
    | select options required hoptions hrequired =>
      rw [forall₂_isOption_iff.mp hoptions, isMarked_iff.mp hrequired]
      rfl
    | checkbox checked hchecked =>
      rw [isMarked_iff.mp hchecked]
      rfl
  · rintro rfl
    cases c with
    | text =>
      rw [controlNode_text]
      exact .text _ _ (isInitial_iff.mpr rfl) (isMarked_iff.mpr rfl)
    | textarea => exact .textarea _ _ (isInitial_iff.mpr rfl) (isMarked_iff.mpr rfl)
    | select => exact .select _ _ (forall₂_isOption_iff.mpr rfl) (isMarked_iff.mpr rfl)
    | checkbox => exact .checkbox _ (isMarked_iff.mpr rfl)

theorem isHelp_iff {nodes : List Html} : IsHelp m nodes ↔ nodes = m.helpNodes := by
  unfold Metadata.helpNodes Metadata.nonEmpty?
  constructor
  · intro h
    cases h with
    | missing hmissing =>
      obtain h | h := hmissing
      · simp [h]
      · simp [h]
    | there text htext hne => simp [htext, hne]
  · rintro rfl
    cases htext : m.description with
    | none => exact .missing (.inl htext)
    | some text =>
      by_cases hne : text = ""
      · simpa [hne] using IsHelp.missing (.inr (hne ▸ htext))
      · simpa [hne] using IsHelp.there text htext hne

theorem isError_iff {nodes : List Html} :
    IsError state nodes ↔ nodes = Interaction.errorNodes state := by
  unfold Interaction.errorNodes Interaction.shownError?
  constructor
  · intro h
    cases h with
    | hidden hempty =>
      split
      · rfl
      · rename_i e hshown
        split at hshown
        · rename_i e'
          rw [if_pos (hempty e' rfl)] at hshown
          cases hshown
        · cases hshown
    | shown e hstate hne => simp [hstate, hne]
  · rintro rfl
    split
    · rename_i hnone
      refine .hidden fun e he => ?_
      subst he
      simpa using hnone
    · rename_i e hsome
      split at hsome
      · rename_i e'
        split at hsome
        · cases hsome
        · rename_i hne
          cases hsome
          exact .shown e rfl hne
      · cases hsome

/-- The field that the rules describe is the one that is built. -/
theorem isField_iff {c : Component} {node : Html} :
    IsField m name state c node ↔
      node = .element "div" [.value "class" "field"]
        (m.labelledNodes name c ++ m.helpNodes ++ Interaction.errorNodes state) := by
  constructor
  · intro h
    cases h with
    | labelFirst _ label control help error hc hlabel hcontrol hhelp herror =>
      rw [isLabel_iff.mp hlabel, isControl_iff.mp hcontrol, isHelp_iff.mp hhelp,
        isError_iff.mp herror, Metadata.labelledNodes, if_neg hc]
    | checkbox label control help error hlabel hcontrol hhelp herror =>
      rw [isLabel_iff.mp hlabel, isControl_iff.mp hcontrol, isHelp_iff.mp hhelp,
        isError_iff.mp herror, Metadata.labelledNodes, if_pos rfl]
  · rintro rfl
    have hlabel : IsLabel m name (m.labelNode name) := isLabel_iff.mpr rfl
    have hhelp : IsHelp m m.helpNodes := isHelp_iff.mpr rfl
    have herror : IsError state (Interaction.errorNodes state) := isError_iff.mpr rfl
    by_cases hc : c = .checkbox
    · subst hc
      exact .checkbox _ _ _ _ hlabel (isControl_iff.mpr rfl) hhelp herror
    · rw [Metadata.labelledNodes, if_neg hc]
      exact .labelFirst c _ _ _ _ hc hlabel (isControl_iff.mpr rfl) hhelp herror

/-! ## A reader can tell the tree -/

theorem IsLabel.readable {node : Html} (h : IsLabel m name node) :
    node.Readable ∧ node.isText = false := by
  have hfor : ∀ a ∈ [Attribute.value "for" name], Html.IsNamed a := by simp +decide
  cases h with
  | plain title _ _ =>
    exact ⟨⟨by decide, by decide, hfor, Html.readableAll_textOf title⟩, rfl⟩
  | required title _ _ =>
    have hspan : (Html.element "span" [.value "class" "required"] [.text "*"]).Readable :=
      ⟨by decide, by decide, by simp +decide, Html.readableAll_textOf "*"⟩
    -- the space before the mark keeps the text from being empty
    have htitle : title ++ " " ≠ "" := by simp
    refine ⟨⟨by decide, by decide, hfor, htitle, ⟨hspan, trivial, ?_⟩, ?_⟩, rfl⟩
    · simp [Html.startsWithText]
    · simp [Html.startsWithText, Html.isText]

theorem IsMarked.named {condition : Prop} {mark : String} {attributes : List Attribute}
    (h : IsMarked condition mark attributes) (hmark : Html.IsTagName mark) :
    ∀ a ∈ attributes, Html.IsNamed a := by
  obtain ⟨_, rfl⟩ | ⟨_, rfl⟩ := h
  · simpa using hmark
  · simp

theorem IsOption.readable {choice : String} {node : Html} (h : IsOption m choice node) :
    node.Readable ∧ node.isText = false := by
  obtain ⟨selected, hselected⟩ := h
  have hnamed := hselected.named (by decide)
  refine ⟨⟨by decide, by decide, ?_, Html.readableAll_textOf choice⟩, rfl⟩
  exact List.forall_mem_cons.mpr ⟨by simp +decide, hnamed⟩

theorem IsControl.readable {c : Component} {node : Html} (h : IsControl m name c node) :
    node.Readable ∧ node.isText = false := by
  have hnames : ∀ a ∈ [Attribute.value "id" name, .value "name" name], Html.IsNamed a := by
    simp +decide
  cases h with
  | text initial required _ hrequired =>
    have hinitial : ∀ a ∈ initial.toList.map (Attribute.value "value"), Html.IsNamed a := by
      cases initial <;> simp +decide
    refine ⟨⟨by decide, by decide, ?_⟩, rfl⟩
    simp only [List.forall_mem_append]
    exact ⟨⟨by simp +decide, hinitial⟩, hrequired.named (by decide)⟩
  | textarea initial required _ hrequired =>
    refine ⟨⟨by decide, by decide, ?_, Html.readableAll_textOf _⟩, rfl⟩
    exact List.forall_mem_append.mpr ⟨hnames, hrequired.named (by decide)⟩
  | select options required hoptions hrequired =>
    refine ⟨⟨by decide, by decide, ?_, ?_⟩, rfl⟩
    · exact List.forall_mem_append.mpr ⟨hnames, hrequired.named (by decide)⟩
    · refine Html.readableAll_of_not_text fun node hnode => ?_
      obtain ⟨i, hi, hget⟩ := List.mem_iff_getElem.mp hnode
      have hchoice : i < (m.arguments.getD []).length := hoptions.length_eq ▸ hi
      have hoption := hoptions.get hchoice hi
      rw [← hget]
      exact hoption.readable
  | checkbox checked hchecked =>
    refine ⟨⟨by decide, by decide, ?_⟩, rfl⟩
    exact List.forall_mem_append.mpr ⟨by simp +decide, hchecked.named (by decide)⟩

/-- An element that only holds a text. -/
theorem readable_remark {tag mark text : String} (htag : Html.IsTagName tag)
    (hvoid : tag ∉ Html.voidTags) (htext : text ≠ "") :
    ∀ node ∈ [Html.element tag [.value "class" mark] [.text text]],
      node.Readable ∧ node.isText = false := by
  simp +decide [Html.Readable, Html.ReadableAll, Html.isText, htag, hvoid, htext]

theorem IsHelp.readable {nodes : List Html} (h : IsHelp m nodes) :
    ∀ node ∈ nodes, node.Readable ∧ node.isText = false := by
  cases h with
  | missing _ => simp
  | there text _ hne => exact readable_remark (by decide) (by decide) hne

theorem IsError.readable {nodes : List Html} (h : IsError state nodes) :
    ∀ node ∈ nodes, node.Readable ∧ node.isText = false := by
  cases h with
  | hidden _ => simp
  | shown e _ hne => exact readable_remark (by decide) (by decide) hne

/-- A field has no text of its own beside its elements. -/
theorem IsField.readable {c : Component} {node : Html} (h : IsField m name state c node) :
    node.Readable := by
  cases h with
  | labelFirst _ label control help error _ hlabel hcontrol hhelp herror =>
    refine ⟨by decide, by decide, by simp +decide, Html.readableAll_of_not_text ?_⟩
    simp only [List.forall_mem_append, List.forall_mem_cons]
    exact ⟨⟨⟨hlabel.readable, hcontrol.readable, by simp⟩, hhelp.readable⟩, herror.readable⟩
  | checkbox label control help error hlabel hcontrol hhelp herror =>
    refine ⟨by decide, by decide, by simp +decide, Html.readableAll_of_not_text ?_⟩
    simp only [List.forall_mem_append, List.forall_mem_cons]
    exact ⟨⟨⟨hcontrol.readable, hlabel.readable, by simp⟩, hhelp.readable⟩, herror.readable⟩

/-- **A reader finds the field that the rules describe and nothing else**, whatever the texts of the
name, the metadata and the interaction are. -/
theorem read_render (m : Metadata) (name : String) (state : Option Interaction) (c : Component)
    (h : m.component = some c) :
    ∃ node, Html.read? (m.render name state) = some [node] ∧ IsField m name state c node ∧
      ∀ other, IsField m name state c other → other = node := by
  have hfield : IsField m name state c (m.markup name state) := by
    rw [isField_iff, Metadata.markup, h]
  refine ⟨m.markup name state, ?_, hfield, ?_⟩
  · exact Html.read?_print hfield.readable
  · intro other hother
    rw [isField_iff.mp hother, isField_iff.mp hfield]

/-- Texts that look like markup stay texts: the label closes nothing, the choice ends no attribute, and a
reference that a visitor wrote is not decoded. -/
theorem read_render_hostile :
    Html.read? (Metadata.render
        { component := some .select, arguments := some ["\" onclick=\"x", "&amp;"],
          label := some "</label><script>", required := true, initial := some (.text "&amp;") }
        "a' b" (some { touched := true, error := some "<b>&lt;</b>" })) =
      some [.element "div" [.value "class" "field"]
        [.element "label" [.value "for" "a' b"]
          [.text "</label><script> ", .element "span" [.value "class" "required"] [.text "*"]],
        .element "select" [.value "id" "a' b", .value "name" "a' b", .mark "required"]
          [.element "option" [.value "value" "\" onclick=\"x"] [.text "\" onclick=\"x"],
          .element "option" [.value "value" "&amp;", .mark "selected"] [.text "&amp;"]],
        .element "div" [.value "class" "error"] [.text "<b>&lt;</b>"]]] := by
  obtain ⟨node, hread, _, honly⟩ := read_render
    { component := some .select, arguments := some ["\" onclick=\"x", "&amp;"],
      label := some "</label><script>", required := true, initial := some (.text "&amp;") }
    "a' b" (some { touched := true, error := some "<b>&lt;</b>" }) .select rfl
  rw [hread, ← honly _ (isField_iff.mpr rfl)]
  rfl

end FormLine.Shown
