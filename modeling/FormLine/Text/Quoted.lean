import FormLine.Text.Printable
/-!
# Quoted text

Messages show a text between quotes. The quote is the apostrophe, or the double quote when the text
holds an apostrophe and no double quote. The backslash and the quote are escaped by a backslash, a
tab, a line feed and a carriage return by their letters, and every other character that is not
printable by its code point in two, four or eight hexadecimal digits.
-/

namespace FormLine.Text

/-- The hexadecimal digits of `n`, padded with zeros to the width. -/
def hex (width n : Nat) : List Char :=
  let digits := Nat.toDigits 16 n
  List.replicate (width - digits.length) '0' ++ digits

/-- The quote that a text is shown between. -/
def quoteFor (s : List Char) : Char :=
  if '\'' ∈ s ∧ '"' ∉ s then '"' else '\''

/-- A character by its code point. -/
def codeEscape (c : Char) : List Char :=
  if c.toNat < 0x100 then '\\' :: 'x' :: hex 2 c.toNat
  else if c.toNat < 0x10000 then '\\' :: 'u' :: hex 4 c.toNat
  else '\\' :: 'U' :: hex 8 c.toNat

/-- One character of a quoted text. -/
def quotedChar (quote c : Char) : List Char :=
  if c = quote ∨ c = '\\' then ['\\', c]
  else if c = '\t' then ['\\', 't']
  else if c = '\n' then ['\\', 'n']
  else if c = '\r' then ['\\', 'r']
  else if isPrintable c then [c]
  else codeEscape c

/-- The text between quotes. -/
def quotedChars (s : List Char) : List Char :=
  quoteFor s :: s.flatMap (quotedChar (quoteFor s)) ++ [quoteFor s]

/-- The text with every character outside ASCII by its code point. -/
def asciiChars (s : List Char) : List Char :=
  s.flatMap fun c => if c.toNat < 128 then [c] else codeEscape c

/-- The text between quotes. -/
def quoted (s : String) : String := String.ofList (quotedChars s.toList)

end FormLine.Text
