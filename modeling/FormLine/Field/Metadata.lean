import FormLine.Component
import FormLine.Json.Basic
/-!
# Field metadata

What a specification says about its field. The export of a record is an object of its set fields in
the order of their declaration; an unset component and unset arguments are written as null after
them.

Correspondence (program ↔ library):
  `FieldMetadata`             ↔ `Metadata`
  `FieldMetadata.is_resolved` ↔ `Metadata.isResolved`
  `FieldMetadata.to_dict`     ↔ `Metadata.toJson`
-/

namespace FormLine

/-- The value a field starts with: yes or no, or a text. -/
inductive DefaultValue where
  | flag (b : Bool)
  | text (s : String)
  deriving DecidableEq, Repr, Inhabited

/-- The value as JSON. -/
def DefaultValue.toJson : DefaultValue → Json
  | .flag b => .bool b
  | .text s => .str s

/-- The value as a text. -/
def DefaultValue.toText : DefaultValue → String
  | .flag true => "True"
  | .flag false => "False"
  | .text s => s

/-- What is known of a field. -/
structure Metadata where
  /-- The kind of control; `none` where the specification selects none. -/
  component : Option Component := none
  /-- The arguments of the component. -/
  arguments : Option (List String) := none
  label : Option String := none
  description : Option String := none
  required : Bool := false
  initial : Option DefaultValue := none
  deriving DecidableEq, Repr, Inhabited

namespace Metadata

/-- Whether the field has a kind of control. -/
def isResolved (m : Metadata) : Bool := m.component.isSome

/-- The component's name or null. -/
def componentJson (m : Metadata) : Json := .ofText? (m.component.map Component.name)

/-- A member that is left out where it is unset. -/
def setMember (name : String) (value : Option Json) : List (String × Json) :=
  match value with
  | none => []
  | some v => [(name, v)]

/-- The members of the export. -/
def members (m : Metadata) : List (String × Json) :=
  setMember "component" (m.component.map fun c => .str c.name) ++
  setMember "arguments" (m.arguments.map .texts) ++
  setMember "label" (m.label.map .str) ++
  setMember "description" (m.description.map .str) ++
  [("required", .bool m.required)] ++
  setMember "default" (m.initial.map DefaultValue.toJson) ++
  (if m.component.isNone then [("component", .null)] else []) ++
  (if m.arguments.isNone then [("arguments", .null)] else [])

/-- The export of the record. -/
def toJson (m : Metadata) : Json := .obj m.members

end Metadata

end FormLine
