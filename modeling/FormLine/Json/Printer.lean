import FormLine.Json.Basic
import FormLine.Text.Integer
/-!
# Printing JSON

The printed text is ASCII: any other character is written as `\u` and four hexadecimal digits, and a
character beyond U+FFFF as the two such escapes of its surrogate pair. A layout says whether the
items of arrays and objects stand on one line or on lines of their own; the layout changes nothing
but the white space between the parts of a value.
-/

namespace FormLine.Json

/-- How the items of arrays and objects are laid out. -/
inductive Layout where
  /-- All on one line, with a space after each comma. -/
  | inline
  /-- Each item on a line of its own, after one unit of indentation for each level. -/
  | lines (unit : List Char)
  deriving DecidableEq, Repr

/-- The start of a new line at a depth. -/
def Layout.newline (l : Layout) (depth : Nat) : List Char :=
  match l with
  | .inline => []
  | .lines unit => '\n' :: (List.replicate depth unit).flatten

/-- What separates two items at a depth. -/
def Layout.separator (l : Layout) (depth : Nat) : List Char :=
  match l with
  | .inline => [',', ' ']
  | .lines _ => ',' :: l.newline depth

/-- The escape of a UTF-16 code unit. -/
def unitEscape (n : Nat) : List Char := '\\' :: 'u' :: Text.hex 4 n

/-- One character of a string. -/
def stringChar (c : Char) : List Char :=
  if c = '"' ∨ c = '\\' then ['\\', c]
  else if c = '\n' then ['\\', 'n']
  else if c = '\r' then ['\\', 'r']
  else if c = '\t' then ['\\', 't']
  else if c = '\x08' then ['\\', 'b']
  else if c = '\x0c' then ['\\', 'f']
  else if 32 ≤ c.toNat ∧ c.toNat < 127 then [c]
  else if c.toNat < 0x10000 then unitEscape c.toNat
  else
    unitEscape (0xD800 + (c.toNat - 0x10000) / 0x400) ++
      unitEscape (0xDC00 + (c.toNat - 0x10000) % 0x400)

/-- A string between its quotes. -/
def stringChars (s : String) : List Char :=
  '"' :: s.toList.flatMap stringChar ++ ['"']

mutual
/-- The text of a value whose items stand at a depth. -/
def chars (l : Layout) (depth : Nat) : Json → List Char
  | .null => ['n', 'u', 'l', 'l']
  | .bool true => ['t', 'r', 'u', 'e']
  | .bool false => ['f', 'a', 'l', 's', 'e']
  | .int n => Text.integerChars n
  | .real literal => literal.toList
  | .str s => stringChars s
  | .arr [] => ['[', ']']
  | .arr (v :: vs) =>
    '[' :: l.newline (depth + 1) ++ chars l (depth + 1) v ++ itemChars l (depth + 1) vs ++
      l.newline depth ++ [']']
  | .obj [] => ['{', '}']
  | .obj ((k, v) :: ms) =>
    '{' :: l.newline (depth + 1) ++ stringChars k ++ ':' :: ' ' :: chars l (depth + 1) v ++
      memberChars l (depth + 1) ms ++ l.newline depth ++ ['}']

/-- The text of the items after the first. -/
def itemChars (l : Layout) (depth : Nat) : List Json → List Char
  | [] => []
  | v :: vs => l.separator depth ++ chars l depth v ++ itemChars l depth vs

/-- The text of the members after the first. -/
def memberChars (l : Layout) (depth : Nat) : List (String × Json) → List Char
  | [] => []
  | (k, v) :: ms =>
    l.separator depth ++ stringChars k ++ ':' :: ' ' :: chars l depth v ++ memberChars l depth ms
end

/-- The text of a value. -/
def print (l : Layout) (v : Json) : String := String.ofList (chars l 0 v)

end FormLine.Json
