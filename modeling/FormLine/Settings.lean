import FormLine.Json.Printer
import FormLine.Json.Display
import FormLine.Json.Number
import FormLine.Log
import FormLine.Text.Upper
/-!
# Settings

There are seven settings, and a value for each at any time. They start from defaults, can be built as
a whole from an environment, and can be changed one by one; a change is not checked, so a setting may
hold any value. What reads a setting says which values it can use.

Correspondence (program ↔ library):
  `FieldSpecConfig`          ↔ `Settings`; its defaults ↔ `Settings.defaults`
  `FieldSpecConfig.from_env` ↔ `Settings.ofEnvironment`
  `update_config`            ↔ `Settings.update`
  `get_config`               ↔ the request `get`; the settings in use ↔ the state of `Settings.step`
What the program leaves to its libraries, how a level and an indentation are used, is
`Settings.threshold` and `Settings.layout`.
-/

namespace FormLine

/-- The name of a setting. -/
inductive Setting where
  | logLevel
  | transport
  | host
  | port
  | schemaDraft
  | indent
  | verbose
  deriving DecidableEq, Repr

namespace Setting

/-- Every setting. -/
def all : List Setting := [logLevel, transport, host, port, schemaDraft, indent, verbose]

/-- The key that the setting is changed by. -/
def key : Setting → String
  | logLevel => "log_level"
  | transport => "mcp_transport"
  | host => "mcp_host"
  | port => "mcp_port"
  | schemaDraft => "json_schema_version"
  | indent => "indent_json_output"
  | verbose => "verbose_output"

/-- The setting of a key. -/
def ofKey? (s : String) : Option Setting := all.find? fun x => x.key == s

theorem ofKey?_key (x : Setting) : ofKey? x.key = some x := by cases x <;> decide

end Setting

/-- A value for each setting. -/
abbrev Settings := Setting → Json

/-- The variables of an environment. -/
abbrev Environment := List (String × String)

namespace Settings

/-- The settings before anything has set them. -/
def defaults : Settings
  | .logLevel => .str "INFO"
  | .transport => .str "stdio"
  | .host => .str "0.0.0.0"
  | .port => .int 8080
  | .schemaDraft => .str "https://json-schema.org/draft/2020-12/schema"
  | .indent => .int 2
  | .verbose => .bool false

/-- One setting changed. -/
def set (s : Settings) (x : Setting) (v : Json) : Settings :=
  fun y => if y = x then v else s y

/-- Settings changed by key, one after another; a key of no setting changes nothing. Keys between double
underscores, such as `__dict__`, are left out: they are taken too and would change the record itself. -/
def update (s : Settings) : List (String × Json) → Settings
  | [] => s
  | (k, v) :: rest =>
    match Setting.ofKey? k with
    | some x => update (s.set x v) rest
    | none => update s rest

/-- A variable of the environment that should be an integer and is not. -/
structure NotInteger where
  text : String
  deriving DecidableEq, Repr

/-- The integer of a variable, or the default where it is not set. -/
def integerOf (env : Environment) (name : String) (absent : Int) : Except NotInteger Int :=
  match env.lookup name with
  | none => .ok absent
  | some text =>
    match Text.integer? text with
    | some n => .ok n
    | none => .error ⟨text⟩

/-- Whether a variable says true, in any case. -/
def saysTrue (env : Environment) (name : String) : Bool :=
  match env.lookup name with
  | none => false
  | some text => text.toList.map Char.toLower == ['t', 'r', 'u', 'e']

/-- A text of an environment, or the default where it is not set. -/
def textOf (env : Environment) (name absent : String) : String := (env.lookup name).getD absent

/-- The settings of an environment whose integers have been read. -/
def ofVariables (env : Environment) (port indent : Int) : Settings
  | .logLevel => .str (Text.upper (textOf env "FIELDSPEC_LOG_LEVEL" "INFO"))
  | .transport => .str (textOf env "MCP_TRANSPORT" "stdio")
  | .host => .str (textOf env "MCP_HOST" "0.0.0.0")
  | .port => .int port
  | .schemaDraft => defaults .schemaDraft
  | .indent => .int indent
  | .verbose => .bool (saysTrue env "FIELDSPEC_VERBOSE_OUTPUT")

/-- The settings of an environment. The port is read before the indentation. -/
def ofEnvironment (env : Environment) : Except NotInteger Settings := do
  let port ← integerOf env "MCP_PORT" 8080
  let indent ← integerOf env "FIELDSPEC_INDENT_JSON" 2
  pure (ofVariables env port indent)

/-- The settings by their keys. -/
def members (s : Settings) : List (String × Json) := Setting.all.map fun x => (x.key, s x)

/-! ## What uses a setting -/

/-- A setting that its user cannot make sense of. -/
inductive Unusable where
  /-- No level has this name. -/
  | unknownLevel (name : String)
  /-- Neither a number nor a name of a level. -/
  | notALevel (v : Json)
  /-- Not a width of indentation. -/
  | notAnIndent (v : Json)
  /-- A width that is no machine word. -/
  | indentOverflow (n : Int)
  deriving Repr

/-- What is said of it. -/
def Unusable.message : Unusable → String
  | unknownLevel name => "Unknown level: " ++ Text.quoted name
  | notALevel v => "Level not an integer or a valid string: " ++ v.shown
  | notAnIndent v => "can't multiply sequence by non-int of type '" ++ v.typeName ++ "'"
  | indentOverflow _ => "cannot fit 'int' into an index-sized integer"

/-- The threshold that a value sets; null sets none. -/
def threshold : Json → Except Unusable Int
  | .null => .ok defaultThreshold
  | .int n => .ok n
  | .bool b => .ok (if b then 1 else 0)
  | .str name =>
    match rankNames.lookup name with
    | some rank => .ok rank
    | none => .error (.unknownLevel name)
  | v => .error (.notALevel v)

/-- The layout that a value sets: null one line, a number that many blanks for each level, none where
it is negative, and a text itself. -/
def layout : Json → Except Unusable Json.Layout
  | .null => .ok .inline
  | .int n =>
    if Json.fitsMachineWord n then .ok (.lines (List.replicate n.toNat ' ')) else .error (.indentOverflow n)
  | .bool b => .ok (.lines (if b then [' '] else []))
  | .str unit => .ok (.lines unit.toList)
  | v => .error (.notAnIndent v)

end Settings

/-- Settings in use, and what may be done with them. -/
inductive Settings.Request where
  /-- Builds settings from an environment without using them. -/
  | preview (env : Environment)
  /-- Builds settings from an environment and uses them from now on. -/
  | load (env : Environment)
  | update (changes : List (String × Json))
  | get
  /-- The draft that exported schemas name. -/
  | draft

/-- What is answered. -/
inductive Settings.Answer where
  | settings (s : Settings)
  | draft (v : Json)
  | notInteger (e : Settings.NotInteger)

namespace Settings

/-- One request; a failure changes nothing. -/
def step (s : Settings) : Request → Settings × Answer
  | .preview env =>
    match ofEnvironment env with
    | .ok built => (s, .settings built)
    | .error e => (s, .notInteger e)
  | .load env =>
    match ofEnvironment env with
    | .ok built => (built, .settings built)
    | .error e => (s, .notInteger e)
  | .update changes => (s.update changes, .settings (s.update changes))
  | .get => (s, .settings s)
  | .draft => (s, .draft (s .schemaDraft))

/-- The answers to a sequence of requests. -/
def run (s : Settings) : List Request → List Answer
  | [] => []
  | r :: rest => (s.step r).2 :: run (s.step r).1 rest

end Settings

end FormLine
