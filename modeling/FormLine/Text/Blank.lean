/-!
# Blank characters and trimming

A character is blank when it is white space or a separator of information: the ASCII controls U+0009
to U+000D and U+001C to U+001F, the space, U+0085 and the separators of Unicode (`Zs`, `Zl`, `Zp`).
The zero-width space U+200B and the byte order mark U+FEFF are not blank.

`trimChars` drops the blank characters at both ends of a text and nothing else.
-/

namespace FormLine.Text

/-- Whether the character is white space or an information separator. -/
def isBlank (c : Char) : Bool :=
  let n := c.toNat
  (9 ≤ n && n ≤ 13) || (28 ≤ n && n ≤ 32) || n == 0x85 || n == 0xA0 || n == 0x1680 ||
    (0x2000 ≤ n && n ≤ 0x200A) || n == 0x2028 || n == 0x2029 || n == 0x202F || n == 0x205F ||
    n == 0x3000

/-- The text without its trailing blank characters. -/
def trimEndChars (s : List Char) : List Char :=
  (s.reverse.dropWhile isBlank).reverse

/-- The text without its leading and trailing blank characters. -/
def trimChars (s : List Char) : List Char :=
  trimEndChars (s.dropWhile isBlank)

/-- The text without its leading and trailing blank characters. -/
def trim (s : String) : String :=
  String.ofList (trimChars s.toList)

/-- Whether the text has no character that is not blank. -/
def isBlankText (s : List Char) : Bool := s.all isBlank

end FormLine.Text
