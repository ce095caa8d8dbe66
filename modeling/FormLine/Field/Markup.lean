import FormLine.Html
import FormLine.Field.Metadata
import FormLine.Check.Value
/-!
# The markup of a field

A field with a component is shown as a `div` that holds the label, the control and the help text, and
the error after them once the field was touched and has one. A checkbox stands before its label. A
field without a component is shown as a placeholder.

Correspondence (program ↔ library):
  `FieldState`                                  ↔ `Interaction`
  `has_error`, `error_message`                  ↔ `Interaction.showsError`, `Interaction.errorText`
  `_label`, `_help`, `_required_attr`           ↔ `labelNode`, `helpNodes`, `requiredMark`
  `render_text` and its three siblings          ↔ `controlNode`, one case each, and `labelledNodes`
  `render_field`                                ↔ `Metadata.render`
The program puts texts together; here the markup is a tree first, and `Html.print` writes it.
-/

namespace FormLine

/-- What a visitor has done to a field so far. -/
structure Interaction where
  /-- Whether the visitor has been in the field. -/
  touched : Bool := false
  /-- What is wrong with the entry. -/
  error : Option String := none
  deriving DecidableEq, Repr

namespace Interaction

/-- The error that is shown: that of a touched field, where it is not empty. -/
def shownError? (state : Option Interaction) : Option String :=
  match state with
  | some { touched := true, error := some e } => if e = "" then none else some e
  | _ => none

/-- Whether the field shows an error. -/
def showsError (state : Option Interaction) : Bool := (shownError? state).isSome

/-- The markup of the error, none where there is none to show. -/
def errorNodes (state : Option Interaction) : List Html :=
  match shownError? state with
  | none => []
  | some e => [.element "div" [.value "class" "error"] [.text e]]

/-- The printed markup of the error. -/
def errorText (state : Option Interaction) : String :=
  String.ofList (Html.listChars (errorNodes state))

end Interaction

/-- Reads what a visitor has done. -/
def Check.interaction (members : List (String × Json)) : Checked Interaction :=
  Interaction.mk <$> fieldOr members "touched" false boolean
    <*> fieldOr members "error" none (optional string)

namespace Metadata

/-- A text that is set and not empty. -/
def nonEmpty? (s : Option String) : Option String :=
  s.bind fun s => if s = "" then none else some s

/-- The title of the field: its label, or its name where it has none. -/
def titleOr (m : Metadata) (name : String) : String := (nonEmpty? m.label).getD name

/-- The label, with a mark where the field is required. -/
def labelNode (m : Metadata) (name : String) : Html :=
  .element "label" [.value "for" name] <|
    if m.required then
      [.text (m.titleOr name ++ " "), .element "span" [.value "class" "required"] [.text "*"]]
    else Html.textOf (m.titleOr name)

/-- The help text. -/
def helpNodes (m : Metadata) : List Html :=
  match nonEmpty? m.description with
  | none => []
  | some d => [.element "small" [.value "class" "description"] [.text d]]

/-- The attributes that name the control. -/
def nameAttributes (name : String) : List Attribute := [.value "id" name, .value "name" name]

/-- The mark of a control that must be filled in. -/
def requiredMark (m : Metadata) : List Attribute := if m.required then [.mark "required"] else []

/-- The text of the default. -/
def initialText? (m : Metadata) : Option String := m.initial.map DefaultValue.toText

/-- The choice of a selection. -/
def optionNode (m : Metadata) (choice : String) : Html :=
  .element "option"
    (.value "value" choice ::
      if m.initial = some (.text choice) then [.mark "selected"] else [])
    (Html.textOf choice)

/-- The control of a field. -/
def controlNode (m : Metadata) (name : String) : Component → Html
  | .text =>
    .void "input" (.value "type" "text" :: nameAttributes name ++
      (m.initialText?.map (Attribute.value "value")).toList ++ m.requiredMark)
  | .textarea =>
    .element "textarea" (nameAttributes name ++ m.requiredMark)
      (Html.textOf (m.initialText?.getD ""))
  | .select =>
    .element "select" (nameAttributes name ++ m.requiredMark)
      ((m.arguments.getD []).map m.optionNode)
  | .checkbox =>
    .void "input" (.value "type" "checkbox" :: nameAttributes name ++
      if m.initial = some (.flag true) then [.mark "checked"] else [])

/-- The label and the control, in the order in which they are shown. -/
def labelledNodes (m : Metadata) (name : String) (c : Component) : List Html :=
  if c = .checkbox then [m.controlNode name c, m.labelNode name]
  else [m.labelNode name, m.controlNode name c]

/-- What stands for a field without a component. -/
def placeholder : Html :=
  .element "div" [.value "class" "field-not-found"] [.text "Not Found Field"]

/-- The markup of a field. -/
def markup (m : Metadata) (name : String) (state : Option Interaction) : Html :=
  match m.component with
  | none => placeholder
  | some c =>
    .element "div" [.value "class" "field"]
      (m.labelledNodes name c ++ m.helpNodes ++ Interaction.errorNodes state)

/-- The printed markup of a field. -/
def render (m : Metadata) (name : String) (state : Option Interaction) : String :=
  (m.markup name state).print

end Metadata

end FormLine
