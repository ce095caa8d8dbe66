import FormLine.Json.Display
/-!
# Directives in explanations

The explanation of an option may refer to the details of the option. A directive is a percent sign, the
name of a detail in parentheses, a format and a letter, and it is replaced by the detail. The letter
says how: as a text (`s`, `r`, `a`), as an integer (`d`, `i`, `u`, `o`, `x`, `X`), as a number with a
fraction (`e`, `E`, `f`, `F`, `g`, `G`) or as a character (`c`). Two percent signs are one. The first
directive of a text may leave the name out and then shows the whole table of details.

An explanation is expanded from left to right, one character at a time; a fault ends it. One without a
percent sign stays as it is (`expand_of_no_percent`).
-/

namespace FormLine.CommandLine

/-- Something that a directive can show. The only number among the details is the zero that `no`
counts as. -/
inductive Detail where
  | nothing
  | no
  | text (s : String)
  /-- A list or an object. -/
  | composite (v : Json)
  deriving Repr

namespace Detail

/-- The detail that a default is. A number needs no form of its own: an explanation refers to the
default that it shows, and only a text, a list or an object brings a directive into it. -/
def ofJson : Json → Detail
  | .null => nothing
  | .bool false => no
  | .str s => text s
  | v => composite v

/-- The detail as a value. -/
def toJson : Detail → Json
  | nothing => .null
  | no => .bool false
  | text s => .str s
  | composite v => v

/-- The details of a table as one. -/
def table (details : List (String × Detail)) : Detail :=
  composite (.obj (details.map fun (name, d) => (name, d.toJson)))

end Detail

/-- The widest directive that is put together, in characters. -/
def widest : Nat := 10000000000

/-- What stands between the name and the letter of a directive. -/
structure Format where
  /-- Filled up on the right. -/
  left : Bool := false
  /-- A plus sign where there is no minus sign. -/
  plus : Bool := false
  /-- A blank where there is no sign. -/
  blank : Bool := false
  /-- With the mark of its base, or with a point even where no digits follow. -/
  marked : Bool := false
  /-- Filled up with zeros. -/
  zeros : Bool := false
  width : Nat := 0
  precision : Option Nat := none
  deriving Repr

/-- Why an explanation cannot be expanded. -/
inductive DirectiveError where
  | unknownName (name : String)
  | unclosedName
  | unfinished
  | wideBeyondNumber
  | wideBeyondMemory
  | preciseBeyondNumber
  | preciseBeyondInteger
  /-- A width or precision is to be taken from a detail that is no integer. -/
  | widthNotInteger
  /-- There is no detail for the directive. -/
  | exhausted
  | notANumber (letter : Char) (type : String)
  | notAnInteger (letter : Char) (type : String)
  | notAFraction (type : String)
  | notACharacter
  | unsupported (letter : Char) (position : Nat)
  deriving DecidableEq, Repr

/-- What is said of it. -/
def DirectiveError.message : DirectiveError → String
  | unknownName name => Text.quoted name
  | unclosedName => "incomplete format key"
  | unfinished => "incomplete format"
  | wideBeyondNumber => "width too big"
  | wideBeyondMemory => ""
  | preciseBeyondNumber => "precision too big"
  | preciseBeyondInteger => "precision too large"
  | widthNotInteger => "* wants int"
  | exhausted => "not enough arguments for format string"
  | notANumber letter type =>
    "%" ++ letter.toString ++ " format: a real number is required, not " ++ type
  | notAnInteger letter type =>
    "%" ++ letter.toString ++ " format: an integer is required, not " ++ type
  | notAFraction type => "must be real number, not " ++ type
  | notACharacter => "%c requires int or char"
  | unsupported letter position =>
    let shown := if 31 ≤ letter.toNat && letter.toNat ≤ 126 then letter else '?'
    "unsupported format character '" ++ shown.toString ++ "' (0x" ++
      String.ofList (Nat.toDigits 16 letter.toNat) ++ ") at index " ++
      String.ofList (Nat.toDigits 10 position)

namespace Format

/-- A text filled up with blanks. -/
def pad (f : Format) (s : List Char) : List Char :=
  let gap := List.replicate (f.width - s.length) ' '
  if f.left then s ++ gap else gap ++ s

/-- A text cut to the precision and filled up. -/
def text (f : Format) (s : List Char) : List Char :=
  f.pad (match f.precision with
    | none => s
    | some n => s.take n)

/-- The zeros behind the point. -/
def fraction (f : Format) (n : Nat) : List Char :=
  if n = 0 then (if f.marked then ['.'] else []) else '.' :: List.replicate n '0'

/-- The digits of zero. -/
def zeroDigits (f : Format) (letter : Char) : List Char :=
  let places := f.precision.getD 6
  match letter with
  | 'e' | 'E' => '0' :: f.fraction places ++ [letter, '+', '0', '0']
  | 'f' | 'F' => '0' :: f.fraction places
  | 'g' | 'G' => if f.marked then '0' :: f.fraction (places - 1) else ['0']
  | _ => List.replicate (max 1 (f.precision.getD 1)) '0'

/-- The mark of the base. -/
def mark (f : Format) (letter : Char) : List Char :=
  if f.marked && ['o', 'x', 'X'].contains letter then ['0', letter] else []

/-- Zero as a number. -/
def zero (f : Format) (letter : Char) : List Char :=
  let sign := if f.plus then ['+'] else if f.blank then [' '] else []
  let start := sign ++ f.mark letter
  let digits := f.zeroDigits letter
  if f.zeros && !f.left then
    start ++ List.replicate (f.width - (start.length + digits.length)) '0' ++ digits
  else f.pad (start ++ digits)

/-- Zero as an integer, unless it is to have too many digits. -/
def wholeZero (f : Format) (letter : Char) : Except DirectiveError (List Char) :=
  if f.precision.getD 0 > 2147483644 then .error .preciseBeyondInteger else .ok (f.zero letter)

/-- What a letter makes of a detail. -/
def convert (f : Format) (letter : Char) (position : Nat) (d : Detail) :
    Except DirectiveError (List Char) :=
  match letter with
  | 's' => .ok (f.text d.toJson.plain.toList)
  | 'r' => .ok (f.text d.toJson.shown.toList)
  | 'a' => .ok (f.text (Text.asciiChars d.toJson.shown.toList))
  | 'd' | 'i' | 'u' =>
    match d with
    | .no => f.wholeZero letter
    | _ => .error (.notANumber letter d.toJson.typeName)
  | 'o' | 'x' | 'X' =>
    match d with
    | .no => f.wholeZero letter
    | _ => .error (.notAnInteger letter d.toJson.typeName)
  | 'e' | 'E' | 'f' | 'F' | 'g' | 'G' =>
    match d with
    | .no => .ok (f.zero letter)
    | _ => .error (.notAFraction d.toJson.typeName)
  | 'c' =>
    match d with
    | .no => .ok (f.pad ['\x00'])
    | .text s => if s.length = 1 then .ok (f.pad s.toList) else .error .notACharacter
    | _ => .error .notACharacter
  | _ => .error (.unsupported letter position)

end Format

/-- Where the expansion stands in a directive. -/
inductive Stage where
  | outside
  /-- Behind the percent sign. -/
  | opened
  /-- Inside so many parentheses, with the name so far in reverse. -/
  | name (depth : Nat) (soFar : List Char)
  | flags
  | width
  /-- Behind the width. -/
  | point
  /-- Behind the point. -/
  | precision
  | precisionDigits
  /-- Behind the precision. -/
  | size
  | letter
  deriving DecidableEq, Repr

/-- An explanation that is expanded in part. -/
structure Expansion where
  /-- What has been written, in reverse. -/
  output : List Char := []
  /-- The number of characters that have been read. -/
  position : Nat := 0
  stage : Stage := .outside
  /-- What a directive without a name shows. -/
  unnamed : Option Detail
  /-- What the directive in progress shows. -/
  subject : Option Detail := none
  format : Format := {}

namespace Expansion

/-- The letter of a directive ends it. -/
def convert (e : Expansion) (c : Char) : Except DirectiveError Expansion :=
  match e.subject with
  | none => .error .exhausted
  | some d => do
    let tooWide : Bool := e.format.width > widest
    let format := if tooWide then { e.format with width := 0 } else e.format
    let written ← format.convert c e.position d
    if tooWide then throw .wideBeyondMemory
    pure { e with output := written.reverse ++ e.output, stage := .outside }

/-- Behind the precision a letter may name a size, which changes nothing. -/
def readSize (e : Expansion) (c : Char) : Except DirectiveError Expansion :=
  if ['h', 'l', 'L'].contains c then .ok { e with stage := .letter } else e.convert c

/-- A width or precision that is taken from the detail. A no counts as zero. -/
def takeNumber (e : Expansion) (stage : Stage) : Except DirectiveError Expansion :=
  match e.subject with
  | none => .error .exhausted
  | some .no => .ok { e with subject := none, stage := stage }
  | some _ => .error .widthNotInteger

/-- A digit of the precision. -/
def addPrecision (e : Expansion) (c : Char) : Except DirectiveError Expansion :=
  let n := 10 * e.format.precision.getD 0 + (c.toNat - '0'.toNat)
  if n > 2147483647 then .error .preciseBeyondNumber
  else .ok { e with format := { e.format with precision := some n }, stage := .precisionDigits }

/-- A digit of the width. -/
def addWidth (e : Expansion) (c : Char) : Except DirectiveError Expansion :=
  let n := 10 * e.format.width + (c.toNat - '0'.toNat)
  if n > 9223372036854775807 then .error .wideBeyondNumber
  else .ok { e with format := { e.format with width := n }, stage := .width }

/-- Behind the width. -/
def readPoint (e : Expansion) (c : Char) : Except DirectiveError Expansion :=
  if c = '.' then
    .ok { e with format := { e.format with precision := some 0 }, stage := .precision }
  else e.readSize c

/-- Behind the flags. -/
def readWidth (e : Expansion) (c : Char) : Except DirectiveError Expansion :=
  if c = '*' then e.takeNumber .point
  else if c.isDigit then e.addWidth c
  else e.readPoint c

/-- Flags, as many as there are. -/
def readFlag (e : Expansion) (c : Char) : Except DirectiveError Expansion :=
  match c with
  | '-' => .ok { e with format := { e.format with left := true }, stage := .flags }
  | '+' => .ok { e with format := { e.format with plus := true }, stage := .flags }
  | ' ' => .ok { e with format := { e.format with blank := true }, stage := .flags }
  | '#' => .ok { e with format := { e.format with marked := true }, stage := .flags }
  | '0' => .ok { e with format := { e.format with zeros := true }, stage := .flags }
  | _ => e.readWidth c

/-- The character behind the percent sign. -/
def start (e : Expansion) (c : Char) : Except DirectiveError Expansion :=
  if c = '%' then .ok { e with output := '%' :: e.output, stage := .outside }
  else if c = '(' then .ok { e with stage := .name 1 [] }
  else readFlag { e with subject := e.unnamed, unnamed := none } c

/-- A character of the name; the parenthesis that closes the first one ends it. -/
def readName (details : List (String × Detail)) (e : Expansion) (depth : Nat) (soFar : List Char)
    (c : Char) : Except DirectiveError Expansion :=
  if c = ')' ∧ depth = 1 then
    let name := String.ofList soFar.reverse
    match details.lookup name with
    | none => .error (.unknownName name)
    | some d => .ok { e with subject := some d, unnamed := none, stage := .flags }
  else
    let depth := if c = ')' then depth - 1 else if c = '(' then depth + 1 else depth
    .ok { e with stage := .name depth (c :: soFar) }

/-- One character. -/
def read (details : List (String × Detail)) (e : Expansion) (c : Char) :
    Except DirectiveError Expansion :=
  match e.stage with
  | .outside =>
    if c = '%' then .ok { e with format := {}, stage := .opened }
    else .ok { e with output := c :: e.output }
  | .opened => e.start c
  | .name depth soFar => readName details e depth soFar c
  | .flags => e.readFlag c
  | .width => if c.isDigit then e.addWidth c else e.readPoint c
  | .point => e.readPoint c
  | .precision =>
    if c = '*' then e.takeNumber .size
    else if c.isDigit then e.addPrecision c
    else e.readSize c
  | .precisionDigits => if c.isDigit then e.addPrecision c else e.readSize c
  | .size => e.readSize c
  | .letter => e.convert c

/-- One character, counted. -/
def step (details : List (String × Detail)) (e : Expansion) (c : Char) :
    Except DirectiveError Expansion := do
  let next ← e.read details c
  pure { next with position := e.position + 1 }

/-- What has been written at the end of the explanation. -/
def result (e : Expansion) : Except DirectiveError String :=
  match e.stage with
  | .outside => .ok (String.ofList e.output.reverse)
  | .name _ _ => .error .unclosedName
  | _ => .error .unfinished

end Expansion

/-- The explanation with every directive replaced by what it shows. -/
def expand (details : List (String × Detail)) (explanation : String) :
    Except DirectiveError String := do
  let e ← explanation.toList.foldlM (Expansion.step details) { unnamed := some (.table details) }
  e.result

theorem foldlM_step_of_no_percent (details : List (String × Detail)) (cs : List Char) (h : '%' ∉ cs)
    (e : Expansion) (he : e.stage = .outside) :
    cs.foldlM (Expansion.step details) e =
      .ok { e with output := cs.reverse ++ e.output, position := e.position + cs.length } := by
  induction cs generalizing e with
  | nil => rfl
  | cons c rest ih =>
    simp only [List.mem_cons, not_or] at h
    have hstep : Expansion.step details e c =
        .ok { e with output := c :: e.output, position := e.position + 1 } := by
      simp only [Expansion.step, Expansion.read, he, if_neg (Ne.symm h.1)]
      rfl
    rw [List.foldlM_cons, hstep]
    refine (ih h.2 { e with output := c :: e.output, position := e.position + 1 } he).trans ?_
    simp [Nat.add_assoc, Nat.add_comm 1]

/-- An explanation without a percent sign stays as it is. -/
theorem expand_of_no_percent (details : List (String × Detail)) (explanation : String)
    (h : '%' ∉ explanation.toList) : expand details explanation = .ok explanation := by
  unfold expand
  rw [foldlM_step_of_no_percent details explanation.toList h _ rfl]
  simp [bind, Except.bind, Expansion.result]

end FormLine.CommandLine
