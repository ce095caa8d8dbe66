import FormLine.CommandLine.Directive
import FormLine.CommandLine.Invocation
import FormLine.Text.Paragraph
/-!
# Help and the outcome of a command

The help text gives the usage, the description, a list of what may be given, and an epilogue. In the
list the explanation starts in column 24 and is a paragraph that ends in column 78; it starts on a line
of its own where the left column is wider than 20. The explanation of an option that takes a value may
refer to the details of the option. A misuse prints the usage and the fault, and exits with 2.
-/

namespace FormLine.CommandLine

/-- How a command ends. -/
inductive Ending (ε : Type) where
  | exit (code : Nat)
  /-- The command breaks off with a fault that it does not handle. -/
  | fault (e : ε)
  deriving Repr

/-- What a command leaves behind. -/
structure Outcome (ε : Type) where
  stdout : String := ""
  stderr : String := ""
  ending : Ending ε := .exit 0
  deriving Repr

/-- Blanks. -/
def blanks (n : Nat) : List Char := List.replicate n ' '

/-- An entry of the list: what may be given, and its explanation. -/
def entry (left : String) (explanation : String) : List Char :=
  let lines := Text.Paragraph.lines 54 explanation
  let indented := lines.map fun l => blanks 24 ++ l ++ ['\n']
  let left := left.toList
  if left.length ≤ 20 then
    blanks 2 ++ left ++ blanks (22 - left.length) ++ (indented.flatten).drop 24
  else blanks 2 ++ left ++ '\n' :: indented.flatten

/-- What stands for the value of an option. -/
def Flag.placeholder (f : Flag) : Option String :=
  match f.effect with
  | .value _ [] => some (Text.upper f.target)
  | .value _ choices => some ("\x7b" ++ ",".intercalate choices ++ "\x7d")
  | _ => none

/-- How the option is given. -/
def Flag.left (f : Flag) : String :=
  ", ".intercalate (f.names.map fun n => n ++ (f.placeholder.map (" " ++ ·)).getD "")

/-- The name of a way of reading values. -/
def ValueReader.detail : ValueReader → Detail
  | text => .nothing
  | upper => .text "upper"
  | integer => .text "int"

/-- What the explanation of an option that takes a value may refer to. -/
def Flag.details (f : Flag) (program : String) (reader : ValueReader) (choices : List String) :
    List (String × Detail) :=
  [("option_strings", .composite (.texts f.names)), ("dest", .text f.target), ("nargs", .nothing),
    ("const", .nothing), ("default", .ofJson f.default), ("type", reader.detail),
    ("choices", if choices.isEmpty then .nothing else .text (", ".intercalate choices)),
    ("required", .no), ("help", .text f.help), ("metavar", .nothing), ("prog", .text program)]

/-- The explanation of an option, expanded. -/
def Flag.explanation (f : Flag) (program : String) : Except DirectiveError String :=
  match f.effect with
  | .value reader choices => expand (f.details program reader choices) f.help
  | _ => .ok f.help

/-- The entries of options. -/
def entries (program : String) : List Flag → Except DirectiveError (List Char)
  | [] => .ok []
  | f :: rest => do
    let explanation ← f.explanation program
    let others ← entries program rest
    pure (entry f.left explanation ++ others)

/-- The help text. -/
def Command.help (c : Command) : Except DirectiveError String := do
  let operands := match c.operands with
    | none => ""
    | some o => "positional arguments:\n" ++ String.ofList (entry o.name o.help) ++ "\n"
  let flags ← entries c.program c.flags
  pure (c.usage ++ "\n" ++ c.description ++ "\n\n" ++ operands ++ "options:\n" ++
    String.ofList flags ++ "\n" ++ c.epilogue)

/-- The outcome of a misuse. -/
def Command.misused (c : Command) (m : Misuse) : Outcome ε where
  stderr := c.usage ++ c.program ++ ": error: " ++ m.message ++ "\n"
  ending := .exit 2

/-- Carries out a command. It breaks off with `unexplained` where its help text cannot be put
together. -/
def Command.run (c : Command) (arguments : List String) (unexplained : DirectiveError → ε)
    (body : Invocation → Outcome ε) : Outcome ε :=
  match c.invocation arguments with
  | .ok i => body i
  | .error (.misuse m) => c.misused m
  | .error .help =>
    match c.help with
    | .ok text => { stdout := text }
    | .error e => { ending := .fault (unexplained e) }

end FormLine.CommandLine
