import FormLine.Field.Metadata
import FormLine.Check.Field
import FormLine.Field.Markup
/-!
# Fields of a form schema

What a form schema says of one field: the type of its value, its title, and the control that it is
shown as. The value of a checkbox is a boolean and that of every other field a string.

Correspondence (program ↔ library):
  `FormFieldSchema`               ↔ `FormField`
  `FormFieldSchema.from_metadata` ↔ `FormField.ofMetadata`
  `_JSON_TYPES`                   ↔ `FormField.typeOf`
  `_UI_WIDGETS`                   ↔ `Component.name`, which every control is called by
-/

namespace FormLine

/-- A field of a form schema. -/
structure FormField where
  name : String
  /-- The JSON Schema type of the value. -/
  type : String
  title : String
  description : Option String := none
  required : Bool := false
  initial : Option DefaultValue := none
  /-- The values that may be selected. -/
  choices : Option (List String) := none
  /-- The control that the field is shown as. -/
  widget : Option String := none
  deriving DecidableEq, Repr, Inhabited

namespace FormField

/-- The JSON Schema type of the values of a component. -/
def typeOf : Option Component → String
  | some .checkbox => "boolean"
  | _ => "string"

/-- The arguments of a selection, where it has any. -/
def choicesOf (m : Metadata) : Option (List String) :=
  match m.component, m.arguments with
  | some .select, some (a :: rest) => some (a :: rest)
  | _, _ => none

/-- The schema of a field with this name and metadata. -/
def ofMetadata (name : String) (m : Metadata) : FormField where
  name := name
  type := typeOf m.component
  title := m.titleOr name
  description := m.description
  required := m.required
  initial := m.initial
  choices := choicesOf m
  widget := m.component.map Component.name

/-- A member of a property, left out where there is nothing to say. -/
def stated (keyword : String) (value : Option Json) : List (String × Json) :=
  match value with
  | none => []
  | some v => [(keyword, v)]

/-- The keywords of the property that describes the field's value. -/
def keywords (f : FormField) : List (String × Json) :=
  [("type", .str f.type), ("title", .str f.title)] ++
  stated "description" ((Metadata.nonEmpty? f.description).map .str) ++
  stated "default" (f.initial.map DefaultValue.toJson) ++
  stated "enum" (f.choices.bind fun vs => if vs.isEmpty then none else some (.texts vs))

/-- The property that describes the field's value. -/
def property (f : FormField) : Json := .obj f.keywords

/-- The control of the field, where it is named. -/
def widget? (f : FormField) : Option String := Metadata.nonEmpty? f.widget

end FormField

/-- Reads a field of a form schema. -/
def Check.formField (members : List (String × Json)) : Checked FormField :=
  FormField.mk <$> field members "name" string
    <*> field members "type" string
    <*> field members "title" string
    <*> fieldOr members "description" none (optional string)
    <*> fieldOr members "required" false boolean
    <*> fieldOr members "default" none initial
    <*> fieldOr members "enum_values" none (optional (list string))
    <*> fieldOr members "ui_widget" none (optional string)

end FormLine
