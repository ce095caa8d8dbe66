import FormLine.Json.Number
/-!
# The lexemes of a JSON text

A JSON text is a sequence of lexemes: brackets, commas, colons, strings, and words, which are the
numbers and the constants. A machine reads it one character at a time, so reading two texts one after
the other is reading the second from where the first ended.
-/

namespace FormLine.Json

/-- A part of a JSON text that white space may stand around. -/
inductive Lexeme where
  | openArray
  | closeArray
  | openObject
  | closeObject
  | comma
  | colon
  | text (s : String)
  /-- A constant or a number. -/
  | word (v : Json)
  deriving Repr, Inhabited

/-- Where the machine stands. What has been read of a lexeme is kept in reverse. -/
inductive Mode where
  | between
  | inWord (soFar : List Char)
  | inText (soFar : List Char)
  /-- After a backslash. -/
  | inEscape (soFar : List Char)
  /-- Inside the hexadecimal digits of a code unit, after the high surrogate of a pair if there is
  one. -/
  | inUnit (soFar : List Char) (high : Option Nat) (left value : Nat)
  /-- After a high surrogate, where a backslash must follow. -/
  | afterHigh (soFar : List Char) (high : Nat)
  /-- After a high surrogate and a backslash, where a `u` must follow. -/
  | lowEscape (soFar : List Char) (high : Nat)
  deriving Repr

/-- The value of a hexadecimal digit. -/
def hexValue? (c : Char) : Option Nat :=
  if '0' ≤ c ∧ c ≤ '9' then some (c.toNat - '0'.toNat)
  else if 'a' ≤ c ∧ c ≤ 'f' then some (c.toNat - 'a'.toNat + 10)
  else if 'A' ≤ c ∧ c ≤ 'F' then some (c.toNat - 'A'.toNat + 10)
  else none

/-- The character that a letter after a backslash stands for. -/
def escaped? : Char → Option Char
  | '"' => some '"'
  | '\\' => some '\\'
  | '/' => some '/'
  | 'b' => some '\x08'
  | 'f' => some '\x0c'
  | 'n' => some '\n'
  | 'r' => some '\r'
  | 't' => some '\t'
  | _ => none

/-- Whether the character belongs to a word. -/
def isWordChar (c : Char) : Bool :=
  c.isAlphanum || c == '-' || c == '+' || c == '.'

/-- Whether the character may stand between lexemes. -/
def isSpace (c : Char) : Bool := c == ' ' || c == '\n' || c == '\r' || c == '\t'

/-- The value of a word. -/
def wordValue? (s : List Char) : Option Json :=
  if s = ['n', 'u', 'l', 'l'] then some .null
  else if s = ['t', 'r', 'u', 'e'] then some (.bool true)
  else if s = ['f', 'a', 'l', 's', 'e'] then some (.bool false)
  else match s with
    | '-' :: rest =>
      match natural? rest with
      | some n => some (.int (-(n : Int)))
      | none => if isReal s then some (.real (String.ofList s)) else none
    | _ =>
      match natural? s with
      | some n => some (.int n)
      | none => if isReal s then some (.real (String.ofList s)) else none

/-- The machine's state: its mode and the lexemes read, the last first. -/
abbrev Scan := Mode × List Lexeme

/-- One character between lexemes. -/
def stepBetween (done : List Lexeme) (c : Char) : Option Scan :=
  if isSpace c then some (.between, done)
  else if c = '[' then some (.between, .openArray :: done)
  else if c = ']' then some (.between, .closeArray :: done)
  else if c = '\x7b' then some (.between, .openObject :: done)
  else if c = '\x7d' then some (.between, .closeObject :: done)
  else if c = ',' then some (.between, .comma :: done)
  else if c = ':' then some (.between, .colon :: done)
  else if c = '"' then some (.inText [], done)
  else if isWordChar c then some (.inWord [c], done)
  else none

/-- After the last digit of a code unit: a high surrogate waits for the low one of its pair, which
must follow it, and any other unit is a character. -/
def endUnit (soFar : List Char) (high : Option Nat) (value : Nat) : Option Mode :=
  match high with
  | some h =>
    if 0xDC00 ≤ value ∧ value < 0xE000 then
      some (.inText (Char.ofNat (0x10000 + (h - 0xD800) * 0x400 + (value - 0xDC00)) :: soFar))
    else none
  | none =>
    if 0xD800 ≤ value ∧ value < 0xDC00 then some (.afterHigh soFar value)
    else if 0xDC00 ≤ value ∧ value < 0xE000 then none
    else some (.inText (Char.ofNat value :: soFar))

/-- One character. -/
def step : Scan → Char → Option Scan
  | (.between, done), c => stepBetween done c
  | (.inWord soFar, done), c =>
    if isWordChar c then some (.inWord (c :: soFar), done)
    else (wordValue? soFar.reverse).bind fun v => stepBetween (.word v :: done) c
  | (.inText soFar, done), c =>
    if c = '"' then some (.between, .text (String.ofList soFar.reverse) :: done)
    else if c = '\\' then some (.inEscape soFar, done)
    else if c.toNat < 32 then none
    else some (.inText (c :: soFar), done)
  | (.inEscape soFar, done), c =>
    if c = 'u' then some (.inUnit soFar none 3 0, done)
    else (escaped? c).map fun e => (.inText (e :: soFar), done)
  | (.inUnit soFar high left value, done), c =>
    (hexValue? c).bind fun d =>
      match left with
      | 0 => (endUnit soFar high (16 * value + d)).map fun m => (m, done)
      | left + 1 => some (.inUnit soFar high left (16 * value + d), done)
  | (.afterHigh soFar high, done), c =>
    if c = '\\' then some (.lowEscape soFar high, done) else none
  | (.lowEscape soFar high, done), c =>
    if c = 'u' then some (.inUnit soFar (some high) 3 0, done) else none

/-- The lexemes of a whole text. -/
def lexemes? (s : List Char) : Option (List Lexeme) :=
  match s.foldlM step (.between, []) with
  | some (.between, done) => some done.reverse
  | some (.inWord soFar, done) => (wordValue? soFar.reverse).map fun v => (.word v :: done).reverse
  | _ => none

end FormLine.Json
