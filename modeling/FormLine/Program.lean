import FormLine.CommandLine.Help
import FormLine.Fault
import FormLine.Field.Trace
import FormLine.Form
/-!
# The command that reads specifications

The command reads the specifications that it is given as operands or, without operands, the lines of
its standard input that are not blank. It prints their reports, or with `--schema` the form that they
define as `name=spec` pairs. The defaults of three of its options are settings. Nothing is printed on
standard output where a pair or an option is at fault.

Correspondence (program ↔ library):
  `LOG_LEVELS`    ↔ `levelNames`
  `_split_pair`   ↔ `pair?`
  `_describe`     ↔ `reportJson`
  `build_parser`  ↔ `command`
  `main`          ↔ `run`: `compute` up to the output, `present` from there on
The lines of standard input are `inputLines`.
-/

namespace FormLine.Program

open CommandLine

/-- The text with every line end written as one line feed. -/
def unifyLineEnds : List Char → List Char
  | [] => []
  | '\r' :: '\n' :: rest => '\n' :: unifyLineEnds rest
  | '\r' :: rest => '\n' :: unifyLineEnds rest
  | c :: rest => c :: unifyLineEnds rest

/-- The lines of a text, split at its line feeds. -/
def lines : List Char → List (List Char)
  | [] => [[]]
  | c :: rest =>
    if c = '\n' then [] :: lines rest
    else match lines rest with
      | [] => [[c]]
      | l :: ls => (c :: l) :: ls

/-- The lines of an input that are not blank. -/
def inputLines (stdin : String) : List String :=
  ((lines (unifyLineEnds stdin.toList)).filter fun l => !Text.isBlankText l).map String.ofList

/-- The name and the specification of a pair: what stands before the first equals sign, trimmed, and
all that stands after it. Without an equals sign or a name it is no pair. -/
def pair? (item : String) : Option (String × String) :=
  match splitEquals item.toList with
  | (name, some spec) =>
    if Text.isBlankText name then none
    else some (String.ofList (Text.trimChars name), String.ofList spec)
  | (_, none) => none

/-- The pairs of the items, or the first item that is none. -/
def pairs : List String → Except String (List (String × String))
  | [] => .ok []
  | item :: rest =>
    match pair? item with
    | none => .error item
    | some p => (pairs rest).map (p :: ·)

/-- A token as the output gives it. -/
def tokenJson (t : Token) : Json := .obj [("name", .str t.name), ("args", .ofTexts? t.args)]

/-- The output for a specification; a verbose one ends with the tokens. -/
def reportJson (verbose : Bool) (r : Report) : Json :=
  .obj (r.members ++
    if verbose then [("tokens", .arr ((Token.ofText r.spec).map tokenJson))] else [])

/-- The levels that the command takes by name. -/
def levelNames : List String := ["DEBUG", "INFO", "WARNING", "ERROR", "CRITICAL"]

/-- The usage of the command. -/
def usage : String :=
  "usage: fieldspec [-h] [--schema] [--form-id FORM_ID] [--title TITLE]\n" ++
  "                 [--indent INDENT]\n" ++
  "                 [--log-level \x7bDEBUG,INFO,WARNING,ERROR,CRITICAL\x7d] [--verbose]\n" ++
  "                 [specs ...]\n"

/-- What follows the options in the help text. -/
def epilogue : String :=
  "Examples:\n" ++
  "  fieldspec \"text default('English') required\"\n" ++
  "  fieldspec --schema \"agree=checkbox default('true')\" \"country=select('TR', 'US')\"\n" ++
  "\n" ++
  "Environment Variables:\n" ++
  "  FIELDSPEC_LOG_LEVEL        Logging level (default: INFO)\n" ++
  "  FIELDSPEC_INDENT_JSON      JSON indentation (default: 2)\n" ++
  "  FIELDSPEC_VERBOSE_OUTPUT   Include tokens in the output (default: false)\n" ++
  "        \n"

/-- The option that asks for help. -/
def helpFlag : Flag where
  names := ["-h", "--help"]
  target := "help"
  effect := .help
  help := "show this help message and exit"

/-- An explanation that ends with the default. -/
def withDefault (explanation : String) (v : Json) : String :=
  explanation ++ " (default: " ++ v.plain ++ ")"

/-- The command under the settings. -/
def command (settings : Settings) : Command where
  program := "fieldspec"
  usage := usage
  description := "Parse field specifications into form field metadata"
  epilogue := epilogue
  operands := some ⟨"specs", "Field specifications; read from stdin when omitted"⟩
  flags := [
    helpFlag,
    { names := ["--schema"], target := "schema", effect := .switch, default := .bool false
      help := "Treat specs as name=spec pairs and print a form config" },
    { names := ["--form-id"], target := "form_id", effect := .value .text [], default := .str "form"
      help := "Form id for --schema (default: form)" },
    { names := ["--title"], target := "title", effect := .value .text [], default := .str "Form"
      help := "Form title for --schema (default: Form)" },
    { names := ["--indent"], target := "indent", effect := .value .integer []
      default := settings .indent
      help := withDefault "JSON indentation" (settings .indent) },
    { names := ["--log-level"], target := "log_level", effect := .value .upper levelNames
      default := settings .logLevel
      help := withDefault "Logging level" (settings .logLevel) },
    { names := ["--verbose"], target := "verbose", effect := .switch, default := settings .verbose
      help := "Include the scanned tokens of each specification" }]

/-- What the command computes from its specifications: the value that it prints, which may have
problems, and the lines that it logs. -/
structure Result where
  value : Checked Json
  log : List LogLine

/-- The reports of specifications. -/
def reports (verbose : Bool) (specs : List String) : Result :=
  let rs := specs.map Report.ofSpec
  { value := .valid (.arr (rs.map (reportJson verbose))), log := rs.flatMap Report.log }

/-- The form of pairs. The fields are read before the form's own values are checked. -/
def form (draft formId title : Json) (fields : List (String × String)) : Result :=
  let rs := (OrderedMap.ofEntries fields).map fun (name, spec) => (name, Report.ofSpec spec)
  { value := (Form.ofReports? formId title .null rs).map (Form.config draft), log := formLog rs }

/-- Computes what the command is called for, or the item that is no pair. -/
def compute (settings : Settings) (i : Invocation) (specs : List String) : Except String Result :=
  if (i.value "schema").isSet then
    (pairs specs).map <| form (settings .schemaDraft) (i.value "form_id") (i.value "title")
  else .ok (reports (i.value "verbose").isSet specs)

/-- Prints a result under a threshold for the log and a layout. -/
def present (threshold : Int) (indent : Json) (r : Result) : Outcome Fault :=
  let log := writeLog threshold r.log
  match r.value, Settings.layout indent with
  | .invalid ps, _ => { stderr := log, ending := .fault (.problems ps) }
  | .valid _, .error e => { stderr := log, ending := .fault (.unusable e) }
  | .valid v, .ok layout => { stdout := v.print layout ++ "\n", stderr := log }

/-- Whether the command reads its standard input. -/
def readsInput (settings : Settings) (arguments : List String) : Bool :=
  match (command settings).invocation arguments with
  | .ok i => i.operands.isEmpty
  | .error _ => false

/-- The outcome of the command. -/
def run (settings : Settings) (arguments : List String) (stdin : String) :
    Outcome Fault :=
  (command settings).run arguments .unexplained fun i =>
    match Settings.threshold (i.value "log_level") with
    | .error e => { ending := .fault (.unusable e) }
    | .ok threshold =>
      let specs := if i.operands.isEmpty then inputLines stdin else i.operands
      match compute settings i specs with
      | .error item =>
        (command settings).misused (.refused ("Expected name=spec, got " ++ Text.quoted item))
      | .ok result => present threshold (i.value "indent") result

end FormLine.Program
