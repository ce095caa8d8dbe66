import FormLine.Json.Basic
/-!
# Number literals

A number is written as decimal digits, which may be followed by a fraction and an exponent. One with a
fraction or an exponent may still be a whole number: `1.0` is one.
-/

namespace FormLine.Json

/-- The natural number that decimal digits write. -/
def naturalFrom (value : Nat) : List Char → Option Nat
  | [] => some value
  | c :: rest =>
    if c.isDigit then naturalFrom (10 * value + (c.toNat - '0'.toNat)) rest else none

/-- The natural number that one decimal digit or more write. -/
def natural? : List Char → Option Nat
  | [] => none
  | cs => naturalFrom 0 cs

/-- The integer that decimal digits behind a sign at most write. -/
def signed? : List Char → Option Int
  | '-' :: rest => (natural? rest).map fun n => -(n : Int)
  | '+' :: rest => (natural? rest).map fun n => (n : Int)
  | rest => (natural? rest).map fun n => (n : Int)

/-- A number literal, taken apart. -/
structure Literal where
  negative : Bool
  whole : List Char
  fraction : List Char
  exponent : List Char

/-- The parts of a literal. -/
def Literal.ofChars (s : List Char) : Literal :=
  let mantissa := s.takeWhile fun c => c != 'e' && c != 'E'
  let negative := mantissa.head? == some '-'
  let digits := if negative then mantissa.drop 1 else mantissa
  { negative := negative
    whole := digits.takeWhile (· != '.')
    fraction := (digits.dropWhile (· != '.')).drop 1
    exponent := (s.dropWhile fun c => c != 'e' && c != 'E').drop 1 }

/-- Whether the text is a number with a fraction or an exponent. -/
def isReal (s : List Char) : Bool :=
  let n := Literal.ofChars s
  (natural? n.whole).isSome && (n.fraction.isEmpty || (natural? n.fraction).isSome) &&
    (n.exponent.isEmpty || (signed? n.exponent).isSome) &&
    !(n.fraction.isEmpty && n.exponent.isEmpty)

/-- Whether the number is a signed machine word of 64 bits. -/
def fitsMachineWord (n : Int) : Bool := -9223372036854775808 ≤ n && n ≤ 9223372036854775807

/-- The literal without its sign as digits, of which the last is not a zero, and a power of ten. -/
def Literal.scaled (n : Literal) : List Char × Int :=
  let digits := n.whole ++ n.fraction
  let kept := (digits.reverse.dropWhile (· == '0')).reverse
  (kept, (signed? n.exponent).getD 0 - n.fraction.length + (digits.length - kept.length : Nat))

/-- The machine word that a literal is, where it is a whole number of that size. -/
def Literal.word? (n : Literal) : Option Int :=
  let (digits, power) := n.scaled
  if digits.isEmpty then some 0
  else if power < 0 ∨ 20 < power then none
  else
    let size := (naturalFrom 0 (digits ++ List.replicate power.toNat '0')).getD 0
    let value : Int := if n.negative then -(size : Int) else size
    if fitsMachineWord value then some value else none

/-- The machine word that a number is. -/
def word? : Json → Option Int
  | .int n => if fitsMachineWord n then some n else none
  | .real literal => (Literal.ofChars literal.toList).word?
  | _ => none

end FormLine.Json
