import FormLine.CommandLine.Option
/-!
# The words of a command line

Each word of a command line is an operand, an option of the command or an option that it does not
have. An option may be written by a beginning of its long name that no other name shares, and with its
value after an equals sign. The first `--` makes operands of all later words. Words that look like a
negative number or hold a space are operands unless an option matches them.
-/

namespace FormLine.CommandLine

/-- A word of a command line. -/
inductive Word where
  | operand (s : String)
  /-- The first `--`. -/
  | dashes
  /-- An option, with the name that it is taken to be written by and what is written behind it. -/
  | option (flag : Flag) (name : String) (attached : Option (List Char))
  /-- An option that the command does not have. -/
  | unknown (s : String)
  deriving Repr

/-- The names of the options, in the order of their declaration. -/
def Command.names (c : Command) : List (String × Flag) :=
  c.flags.flatMap fun f => f.names.map fun n => (n, f)

/-- The option of a name. -/
def Command.flag? (c : Command) (name : String) : Option Flag := c.names.lookup name

/-- The text before the first equals sign and, where there is one, the text after it. -/
def splitEquals (s : List Char) : List Char × Option (List Char) :=
  (s.takeWhile (· != '='), ((s.dropWhile (· != '=')).tail?))

/-- Whether the text is decimal digits, as many as wanted. -/
def allDigits (s : List Char) : Bool := s.all fun c => (Text.digitValue? c).isSome

/-- Whether the word looks like a negative number: a hyphen and digits, which may have a point before
or among them. A line feed at the end does not count. -/
def looksNegative : List Char → Bool
  | '-' :: rest =>
    let body := if rest.getLast? = some '\n' then rest.dropLast else rest
    let whole := body.takeWhile (· != '.')
    match (body.dropWhile (· != '.')).tail? with
    | none => !whole.isEmpty && allDigits whole
    | some fraction => allDigits whole && !fraction.isEmpty && allDigits fraction
  | _ => false

/-- The options that a word may mean where it is no option's name: those whose name the word begins,
and of a single hyphen also the one-letter option with the rest of the word as its argument. -/
def Command.candidates (c : Command) (word : List Char) :
    List (String × Flag × Option (List Char)) :=
  if word.take 2 = ['-', '-'] then
    let (start, after) := splitEquals word
    c.names.filterMap fun (n, f) =>
      if start.isPrefixOf n.toList then some (n, f, after) else none
  else
    c.names.filterMap fun (n, f) =>
      if n.toList = word.take 2 then some (n, f, some (word.drop 2))
      else if word.isPrefixOf n.toList then some (n, f, none)
      else none

/-- What a word that may be an option is, once it is not an option's name. -/
def Command.classifyOption (c : Command) (s : String) : Except Misuse Word :=
  match c.candidates s.toList with
  | [(n, f, attached)] => .ok (.option f n attached)
  | [] =>
    if looksNegative s.toList || s.toList.contains ' ' then .ok (.operand s) else .ok (.unknown s)
  | several => .error (.ambiguous s (several.map (·.1)))

/-- What a word before the first `--` is. -/
def Command.classify (c : Command) (s : String) : Except Misuse Word :=
  match s.toList with
  | '-' :: rest =>
    match c.flag? s with
    | some f => .ok (.option f s none)
    | none =>
      if rest.isEmpty then .ok (.operand s)
      else
        let (start, after) := splitEquals s.toList
        match after, c.flag? (String.ofList start) with
        | some text, some f => .ok (.option f (String.ofList start) (some text))
        | _, _ => c.classifyOption s
  | _ => .ok (.operand s)

/-- The words of a command line. -/
def Command.words (c : Command) : List String → Except Misuse (List Word)
  | [] => .ok []
  | s :: rest =>
    if s = "--" then .ok (.dashes :: rest.map .operand)
    else do
      let w ← c.classify s
      let ws ← c.words rest
      pure (w :: ws)

end FormLine.CommandLine
