import FormLine.CommandLine.Words
/-!
# Invocations

The words of a command line are taken from left to right. An option takes its value from its word or,
where the word gives none, from the operand that follows. The first run of other operands goes to the
command; operands after a later option are left over, and so are options that the command does not
have. An option takes effect where it stands, so a request for help comes before the faults to its
right. At the end the options that were not given get their defaults, and left-over words are a fault.
-/

namespace FormLine.CommandLine

/-- What a command is called with. -/
structure Invocation where
  operands : List String
  values : OrderedMap Json

/-- The value that an option has set. -/
def Invocation.value (i : Invocation) (target : String) : Json := (i.values.get? target).getD .null

/-- Whether the run of operands that goes to the command has begun or is over. -/
inductive Slot where
  | awaited
  | filling
  | over
  deriving DecidableEq, Repr

/-- What has been taken from the words so far. -/
structure Progress where
  slot : Slot
  operands : List String := []
  values : OrderedMap Json := []
  leftOver : List String := []

/-- The value of an option is set. -/
def Progress.set (p : Progress) (f : Flag) (v : Json) : Progress :=
  { p with values := p.values.put f.target v }

/-- Why a command is not carried out. -/
inductive Halt where
  | help
  | misuse (m : Misuse)

/-- An option in use, with the value written into its word. -/
structure Use where
  flag : Flag
  given : Option (List Char) := none

/-- The options written into one word: what is written behind a one-letter option that takes no value
names further such options, one a letter, and behind one that takes a value it is the value. -/
def Command.bundle (c : Command) (f : Flag) (short : Bool) :
    List Char → Except Misuse (List Use)
  | [] => if f.takesValue then .ok [⟨f, some []⟩] else .error (.ignoredArgument f.title "")
  | x :: rest =>
    if f.takesValue then .ok [⟨f, some (x :: rest)⟩]
    else if !short then .error (.ignoredArgument f.title (String.ofList (x :: rest)))
    else match c.flag? (String.ofList ['-', x]) with
      | none => .error (.ignoredArgument f.title (String.ofList (x :: rest)))
      | some g =>
        match rest with
        | [] => .ok [⟨f, none⟩, ⟨g, none⟩]
        | y :: r => (c.bundle g true (y :: r)).map (⟨f, none⟩ :: ·)

/-- The options in use in a word. -/
def Command.uses (c : Command) (f : Flag) (name : String) :
    Option (List Char) → Except Misuse (List Use)
  | none => .ok [⟨f, none⟩]
  | some text => c.bundle f (name.toList.take 2 != ['-', '-']) text

/-- Whether the last of the options still needs the value that follows. -/
def needsValue : List Use → Bool
  | [] => false
  | [u] => u.flag.takesValue && u.given.isNone
  | _ :: rest => needsValue rest

/-- An option takes effect. Two hyphens that are written into its word as the value are no value: the
option then holds an empty list, which is neither read nor held against the choices. -/
def Use.perform (u : Use) (following : Option String) (p : Progress) : Except Halt Progress :=
  match u.flag.effect with
  | .help => .error .help
  | .switch => .ok (p.set u.flag (.bool true))
  | .value reader choices =>
    if u.given = some ['-', '-'] then .ok (p.set u.flag (.arr []))
    else match (u.given.map String.ofList).or following with
    | none => .error (.misuse (.expectedArgument u.flag.title))
    | some s =>
      match (u.flag.read reader s).bind (u.flag.choose choices) with
      | .ok v => .ok (p.set u.flag v)
      | .error m => .error (.misuse m)

/-- Options take effect one after another. -/
def performAll (following : Option String) : List Use → Progress → Except Halt Progress
  | [], p => .ok p
  | u :: rest, p => (u.perform following p).bind (performAll following rest)

/-- An option ends the run of operands. -/
def Progress.closeSlot (p : Progress) : Progress :=
  if p.slot = .filling then { p with slot := .over } else p

/-- A word that is left over. -/
def Progress.leave (p : Progress) (s : String) : Progress :=
  { p with leftOver := p.leftOver ++ [s] }

/-- Takes the words from left to right. -/
def Command.take (c : Command) : List Word → Progress → Except Halt Progress
  | [], p => .ok p
  | .operand s :: rest, p =>
    if p.slot = .over then c.take rest (p.leave s)
    else c.take rest { p with slot := .filling, operands := p.operands ++ [s] }
  | .dashes :: rest, p =>
    if p.slot = .over then c.take rest (p.leave "--")
    else c.take rest { p with slot := .filling }
  | .unknown s :: rest, p => c.take rest (p.closeSlot.leave s)
  | .option f name attached :: rest, p =>
    match c.uses f name attached with
    | .error m => .error (.misuse m)
    | .ok us =>
      let p := p.closeSlot
      if needsValue us then
        match rest with
        | .operand s :: rest => (performAll (some s) us p).bind (c.take rest)
        | _ => .error (.misuse (.expectedArgument ((us.getLast?.map (·.flag.title)).getD "")))
      else (performAll none us p).bind (c.take rest)

/-- Gives the options that were not given their defaults. -/
def defaults : List Flag → OrderedMap Json → Except Misuse (OrderedMap Json)
  | [], values => .ok values
  | f :: rest, values =>
    if values.has f.target then defaults rest values
    else do
      let v ← f.absent
      defaults rest (values.put f.target v)

/-- What the command is called with. -/
def Command.invocation (c : Command) (arguments : List String) : Except Halt Invocation :=
  match c.words arguments with
  | .error m => .error (.misuse m)
  | .ok ws => do
    let p ← c.take ws { slot := if c.operands.isSome then .awaited else .over }
    match defaults c.flags p.values with
    | .error m => .error (.misuse m)
    | .ok values =>
      if p.leftOver.isEmpty then .ok ⟨p.operands, values⟩
      else .error (.misuse (.unrecognized p.leftOver))

end FormLine.CommandLine
