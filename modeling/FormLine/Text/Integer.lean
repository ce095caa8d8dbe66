import FormLine.Text.Blank
import FormLine.Text.Digit
import FormLine.Text.Quoted
/-!
# Integers read from text

An integer is written as an optional sign and decimal digits of any script, with single underscores
allowed between two digits and padding around the whole. Padding is blank characters other than the
information separators U+001C to U+001F. A text that starts with more digits than `mostDigits` is not
read, whatever follows them.
-/

namespace FormLine.Text

/-- Whether the character may stand around an integer. -/
def isPadding (c : Char) : Bool :=
  isBlank c && !(28 ≤ c.toNat && c.toNat ≤ 31)

/-- The text without the padding at both ends. -/
def stripPadding (s : List Char) : List Char :=
  ((s.dropWhile isPadding).reverse.dropWhile isPadding).reverse

mutual
/-- The value of digits that continue a number: at the end, another digit, or an underscore that
another digit follows. -/
def digitsFrom (value : Nat) : List Char → Option Nat
  | [] => some value
  | '_' :: rest => digitThen value rest
  | c :: rest => (digitValue? c).bind fun d => digitsFrom (10 * value + d) rest

/-- The value of digits of which the next character must be one. -/
def digitThen (value : Nat) : List Char → Option Nat
  | [] => none
  | c :: rest => (digitValue? c).bind fun d => digitsFrom (10 * value + d) rest
end

/-- Whether a text without padding has a minus sign, and what follows its sign. -/
def splitSign : List Char → Bool × List Char
  | '-' :: rest => (true, rest)
  | '+' :: rest => (false, rest)
  | rest => (false, rest)

/-- The most digits that an integer is read from. -/
def mostDigits : Nat := 4300

/-- The number of digits that a text starts with, in addition to those before it. It is zero where an
underscore has no digit before or behind it; `awaited` says that a digit must come next. -/
def digitCount (before : Nat) (awaited : Bool) : List Char → Nat
  | [] => if awaited then 0 else before
  | c :: rest =>
    if (digitValue? c).isSome then digitCount (before + 1) false rest
    else if awaited then 0
    else if c = '_' then digitCount before true rest
    else before

/-- The number of digits that the integer of a text starts with. -/
def integerDigits (s : String) : Nat := digitCount 0 true (splitSign (stripPadding s.toList)).2

/-- The integer that a text writes. -/
def integer? (s : String) : Option Int :=
  if mostDigits < integerDigits s then none
  else match splitSign (stripPadding s.toList) with
    | (negative, digits) =>
      (digitThen 0 digits).map fun n => if negative then -(n : Int) else (n : Int)

/-- The text of an integer: a minus sign where it is negative, and its decimal digits. -/
def integerChars : Int → List Char
  | .ofNat n => Nat.toDigits 10 n
  | .negSucc n => '-' :: Nat.toDigits 10 (n + 1)

/-- What is said of a text that no integer is read from; the quoted text is cut after 200 characters. -/
def notAnInteger (s : String) : String :=
  if mostDigits < integerDigits s then
    "Exceeds the limit (" ++ String.ofList (Nat.toDigits 10 mostDigits) ++
      " digits) for integer string conversion: value has " ++
      String.ofList (Nat.toDigits 10 (integerDigits s)) ++
      " digits; use sys.set_int_max_str_digits() to increase the limit"
  else "invalid literal for int() with base 10: " ++ String.ofList ((quotedChars s.toList).take 200)

end FormLine.Text
