import FormLine.Check.Value
import FormLine.Token
import FormLine.Field.Metadata
import FormLine.Field.Diagnostic
/-!
# Records of a field, read from objects

Tokens, diagnostics and metadata are read from objects with the names of their fields. Members of
other names are ignored.
-/

namespace FormLine.Check

/-- Reads a component from its name. -/
def component : Json → Checked Component
  | .str s =>
    match Component.ofName? s with
    | some c => .valid c
    | none => .fail .component
  | _ => .fail .component

/-- Reads a default. Whatever is neither a yes or no nor a text is tried as a yes or no, and has a
problem as each of the two where that fails. -/
def initial : Json → Checked (Option DefaultValue)
  | .null => .valid none
  | .bool b => .valid (some (.flag b))
  | .str s => .valid (some (.text s))
  | v =>
    match (boolean v).within (.key "bool") with
    | .valid b => .valid (some (.flag b))
    | .invalid ps => .invalid (ps ++ ((string v).within (.key "str")).problems)

/-- Reads a token. -/
def token (members : List (String × Json)) : Checked Token :=
  Token.mk <$> field members "name" string
    <*> fieldOr members "args" none (optional (fixedList string))

/-- Reads a diagnostic. -/
def diagnostic (members : List (String × Json)) : Checked Diagnostic :=
  Diagnostic.mk <$> field members "title" string <*> field members "message" string

/-- Reads metadata. -/
def metadata (members : List (String × Json)) : Checked Metadata :=
  Metadata.mk <$> fieldOr members "component" none (optional component)
    <*> fieldOr members "arguments" none (optional (fixedList string))
    <*> fieldOr members "label" none (optional string)
    <*> fieldOr members "description" none (optional string)
    <*> fieldOr members "required" false boolean
    <*> fieldOr members "default" none initial

end FormLine.Check
