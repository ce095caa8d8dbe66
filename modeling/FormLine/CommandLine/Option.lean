import FormLine.Json.Display
import FormLine.OrderedMap
import FormLine.Text.Digit
import FormLine.Text.Upper
/-!
# Options of a command

A command declares its options and whether it takes operands. An option is a switch, a request for
help, or takes a value, which is read as a text, an upper-case text or an integer and may be limited to
some choices. A default that is a text is read like a value, but is not held against the choices.
-/

namespace FormLine.CommandLine

/-- How the text of a value is read. -/
inductive ValueReader where
  | text
  | upper
  | integer
  deriving DecidableEq, Repr

/-- What an option does. -/
inductive Effect where
  | help
  | switch
  | value (reader : ValueReader) (choices : List String)
  deriving DecidableEq, Repr

/-- An option of a command. -/
structure Flag where
  /-- How the option is written, each with its hyphens. -/
  names : List String
  /-- The name of the value that the option sets. -/
  target : String
  effect : Effect
  default : Json := .null
  help : String
  deriving Repr

/-- Whether the option takes a value. -/
def Flag.takesValue (f : Flag) : Bool :=
  match f.effect with
  | .value _ _ => true
  | _ => false

/-- The names of the option, as messages give them. -/
def Flag.title (f : Flag) : String := "/".intercalate f.names

/-- The operands that a command takes, any number of them. -/
structure Operands where
  name : String
  help : String
  deriving Repr

/-- A command. -/
structure Command where
  program : String
  usage : String
  description : String
  epilogue : String
  operands : Option Operands
  flags : List Flag
  deriving Repr

/-- What is wrong with the arguments of a command. -/
inductive Misuse where
  | ambiguous (word : String) (candidates : List String)
  | expectedArgument (title : String)
  | ignoredArgument (title argument : String)
  | notAnInteger (title argument : String)
  | notAChoice (title value : String) (choices : List String)
  | unrecognized (words : List String)
  /-- The command itself refuses an operand. -/
  | refused (message : String)
  deriving DecidableEq, Repr

/-- What is said of it. -/
def Misuse.message : Misuse → String
  | ambiguous word candidates =>
    "ambiguous option: " ++ word ++ " could match " ++ ", ".intercalate candidates
  | expectedArgument title => "argument " ++ title ++ ": expected one argument"
  | ignoredArgument title argument =>
    "argument " ++ title ++ ": ignored explicit argument " ++ Text.quoted argument
  | notAnInteger title argument =>
    "argument " ++ title ++ ": invalid int value: " ++ Text.quoted argument
  | notAChoice title value choices =>
    "argument " ++ title ++ ": invalid choice: " ++ Text.quoted value ++ " (choose from " ++
      ", ".intercalate (choices.map Text.quoted) ++ ")"
  | unrecognized words => "unrecognized arguments: " ++ " ".intercalate words
  | refused message => message

/-- Reads the text of a value. -/
def Flag.read (f : Flag) (reader : ValueReader) (s : String) : Except Misuse Json :=
  match reader with
  | .text => .ok (.str s)
  | .upper => .ok (.str (Text.upper s))
  | .integer =>
    match Text.integer? s with
    | some n => .ok (.int n)
    | none => .error (.notAnInteger f.title s)

/-- Holds a value against the choices. -/
def Flag.choose (f : Flag) (choices : List String) (v : Json) : Except Misuse Json :=
  if choices.isEmpty || choices.contains v.plain then .ok v
  else .error (.notAChoice f.title v.plain choices)

/-- The value that an option has where it is not given. -/
def Flag.absent (f : Flag) : Except Misuse Json :=
  match f.effect, f.default with
  | .value reader _, .str s => f.read reader s
  | _, v => .ok v

end FormLine.CommandLine
