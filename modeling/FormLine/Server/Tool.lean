import FormLine.Server.InputSchema
import FormLine.Form
import FormLine.Settings
/-!
# Tools

The server offers two tools: one reads a single specification and answers with its report, the other
reads a form and answers with its export. A call through the server is first held against the tool's
input schema; whatever a tool then refuses is answered as a text that names the fault.

Correspondence (program ↔ library):
  `get_mcp_tools`                           ↔ `tools`
  `mcp_parse_field_spec`, `mcp_parse_form`  ↔ the two cases of `handle`, the second in `formOf`
  `handle_tool_call`                        ↔ `handle`
  `call_tool`                               ↔ `answer`; with the check that stands before it, `call`
  `health_check`                            ↔ `health`
-/

namespace FormLine.Server

/-- A tool that the server offers. -/
structure Tool where
  name : String
  description : String
  input : InputSchema
  deriving DecidableEq, Repr

/-- The tool that reads one specification. -/
def readSpec : Tool where
  name := "parse_field_spec"
  description :=
    "Parse a one-line field specification such as " ++
    "\"select('a', 'b') label('Pick') required\" into field metadata: " ++
    "component (text, textarea, select, checkbox), arguments, label, " ++
    "description, required and default. Problems are reported as " ++
    "diagnostics, never as errors."
  input := ⟨[⟨"spec", .string, "The field specification", none⟩], ["spec"]⟩

/-- The tool that reads a form. -/
def readForm : Tool where
  name := "parse_form"
  description :=
    "Parse a form definition (field name -> field specification) and " ++
    "return a form configuration with JSON Schema and UI Schema."
  input := ⟨[
    ⟨"fields", .stringObject, "Field name -> field specification", none⟩,
    ⟨"form_id", .string, "Form identifier", some "form"⟩,
    ⟨"title", .string, "Form title", some "Form"⟩,
    ⟨"description", .string, "Optional form description", none⟩], ["fields"]⟩

/-- The tools of the server. -/
def tools : List Tool := [readSpec, readForm]

/-- The tool as it is listed. -/
def Tool.toJson (t : Tool) : Json :=
  .obj [("name", .str t.name), ("description", .str t.description), ("inputSchema", t.input.toJson)]

/-- Why a tool gives no result. -/
inductive ToolError where
  | unknownTool (name : String)
  | specNotText
  | fieldsNotObject
  | noFields
  | form (e : FormError)
  deriving Repr

/-- What is said of it. -/
def ToolError.message : ToolError → String
  | unknownTool name => "Unknown tool: " ++ name
  | specNotText => "'spec' must be a string"
  | fieldsNotObject => "'fields' must be an object"
  | noFields => "fields must not be empty"
  | form e => e.message

/-- What a tool gives. -/
inductive ToolResult where
  | report (r : Report)
  | form (f : Form)
  deriving Repr

/-- The result as JSON, where forms name this draft. -/
def ToolResult.toJson (draft : Json) : ToolResult → Json
  | report r => r.toJson
  | form f => f.config draft

/-- Reads a form from its arguments. -/
def formOf (arguments : List (String × Json)) : Except ToolError ToolResult :=
  match Json.member? "fields" arguments with
  | some (.obj []) => .error .noFields
  | some (.obj fields) =>
    let given (name : String) (absent : Json) : Json := (Json.member? name arguments).getD absent
    match Form.ofSpecs? (given "form_id" (.str "form")) (given "title" (.str "Form"))
      (given "description" .null) fields with
    | .ok f => .ok (.form f)
    | .error e => .error (.form e)
  | _ => .error .fieldsNotObject

/-- Runs a tool by its name. -/
def handle (name : String) (arguments : List (String × Json)) : Except ToolError ToolResult :=
  if name = readSpec.name then
    match Json.member? "spec" arguments with
    | some (.str spec) => .ok (.report (.ofSpec spec))
    | _ => .error .specNotText
  else if name = readForm.name then formOf arguments
  else .error (.unknownTool name)

/-- The answer to a call: a text, and whether the server itself refuses the call. -/
structure Reply where
  isError : Bool
  text : String
  deriving DecidableEq, Repr

/-- The answer to arguments that fit the tool. -/
def answer (settings : Settings) (name : String) (arguments : List (String × Json)) : Reply :=
  match handle name arguments with
  | .error e => ⟨false, (Json.obj [("error", .str e.message)]).print .inline⟩
  | .ok result =>
    match Settings.layout (settings .indent) with
    | .ok layout => ⟨false, (result.toJson (settings .schemaDraft)).print layout⟩
    | .error e => ⟨true, e.message⟩

/-- The tool of a name. -/
def tool? (name : String) : Option Tool := tools.find? fun t => t.name == name

/-- The answer to a call. -/
def call (settings : Settings) (name : String) (arguments : List (String × Json)) : Reply :=
  match (tool? name).bind fun t => reported? (t.input.mismatches arguments) with
  | some m => ⟨true, "Input validation error: " ++ m.text⟩
  | none => answer settings name arguments

/-- The version that the server gives of itself. -/
def version : String := "0.1.0"

/-- The body of the answer to a question after the server's health. -/
def health : String :=
  "\x7b\"status\":\"healthy\",\"service\":\"fieldspec-mcp\",\"transport\":\"sse\",\"version\":\"" ++
    version ++ "\"\x7d"

end FormLine.Server
