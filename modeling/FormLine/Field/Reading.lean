import FormLine.Token
import FormLine.Field.Metadata
import FormLine.Field.Diagnostic
/-!
# Reading a specification

A specification is read from its tokens. The component is that of the first token that names one; its
arguments and those of every other word are those of the last token of that name. A field is required
when it says so, does not also say that it is not, and is no checkbox. The default of a checkbox is
read as yes or no. Reading never fails: what cannot be used is skipped, and two findings are reported,
a selection without arguments and a checkbox whose default is neither yes nor no.

Correspondence (program ↔ library):
  `string_to_boolean`                 ↔ `boolean?`
  `normalize_string`                  ↔ `firstText?`
  `component_name`, `component_args`  ↔ `Metadata.componentOf`, `Metadata.argumentsOf`
  `_coerce_checkbox_default`          ↔ `Metadata.initialOf`, `Diagnostic.defaultNotBoolean`
  `_build`                            ↔ `Metadata.ofTokens`, `Diagnostic.ofTokens`
The program notes its findings while it builds the record; here the record and the findings are two
functions of the tokens, and `Session.read` appends the second to the log.
-/

namespace FormLine

/-- The words that are read as yes. -/
def yesWords : List String := ["true", "yes", "on", "1"]

/-- The words that are read as no; the empty text is one. -/
def noWords : List String := ["false", "no", "off", "0", ""]

/-- Reads a text as yes or no, whatever its case and the blank characters around it. Only ASCII
letters lower to the letters of these words, so only they are lowered. -/
def boolean? (s : String) : Option Bool :=
  let word := String.ofList ((Text.trim s).toList.map Char.toLower)
  if yesWords.contains word then some true
  else if noWords.contains word then some false
  else none

/-- The text that arguments give: the first of them, trimmed, without one layer of quotes. -/
def firstText? : Option (List String) → Option String
  | some (s :: _) => some (Arguments.unquote (Text.trim s))
  | _ => none

namespace Metadata

/-- The component of the first token that names one. -/
def componentOf (tokens : List Token) : Option Component :=
  (Token.first? Component.names tokens).bind fun t => Component.ofName? t.name

/-- The arguments of the last token of the component's name. -/
def argumentsOf (tokens : List Token) : Option (List String) :=
  (componentOf tokens).bind fun c => Token.argsOf c.name tokens

/-- The text of the default, as it is written. -/
def defaultText? (tokens : List Token) : Option String :=
  firstText? (Token.argsOf "default" tokens)

/-- The default of a field: of a checkbox yes or no, and no where it is neither. -/
def initialOf (tokens : List Token) : Option DefaultValue :=
  (defaultText? tokens).map fun s =>
    if componentOf tokens = some .checkbox then .flag ((boolean? s).getD false) else .text s

/-- Whether the field must be filled in. -/
def requiredOf (tokens : List Token) : Bool :=
  Token.has "required" tokens && !Token.has "not-required" tokens &&
    componentOf tokens != some .checkbox

/-- What the tokens say of the field. -/
def ofTokens (tokens : List Token) : Metadata where
  component := componentOf tokens
  arguments := argumentsOf tokens
  label := firstText? (Token.argsOf "label" tokens)
  description := firstText? (Token.argsOf "description" tokens)
  required := requiredOf tokens
  initial := initialOf tokens

end Metadata

namespace Diagnostic

/-- A selection has nothing to select from. -/
def selectWithoutArguments : Diagnostic where
  title := Component.select.name
  message := "Requires arguments"

/-- The default of a checkbox is neither yes nor no. -/
def defaultNotBoolean (value : String) : Diagnostic where
  title := Component.checkbox.name
  message := "Default value '" ++ value ++ "' is not a boolean"

/-- The findings about the tokens. -/
def ofTokens (tokens : List Token) : List Diagnostic :=
  match Metadata.componentOf tokens with
  | some .select =>
    if (Metadata.argumentsOf tokens).isNone then [selectWithoutArguments] else []
  | some .checkbox =>
    match Metadata.defaultText? tokens with
    | some s => if (boolean? s).isNone then [defaultNotBoolean s] else []
    | none => []
  | _ => []

end Diagnostic

end FormLine
