import FormLine.Text.Blank
/-!
# Arguments of a group

The text of a group is split at its commas. A quote that is the first character of a part that is
not blank opens a quoted stretch, which ends at the next quote of the same kind; commas in it do not
split. A quote anywhere else is an ordinary character. A quoted stretch that is not closed runs to
the end of the text. An argument is a part, trimmed, without one layer of quotes.

Correspondence (program ↔ library):
  `QUOTE_CHARS`       ↔ `isQuote`
  `remove_quote`      ↔ `unquote`
  `split_arguments`   ↔ `split`; the flags `quote` and `started` of its loop ↔ `Mode`
  `extract_arguments` ↔ `ofGroup`; that a chunk may have no group is left to `Token.ofChunk`
-/

namespace FormLine.Arguments

/-- The two quotes. -/
def isQuote (c : Char) : Bool := c == '\'' || c == '"'

/-- The text without one layer of quotes: where it starts and ends with the same quote, two
characters apart or more, these two are dropped. -/
def unquoteChars : List Char → List Char
  | [] => []
  | q :: rest =>
    if isQuote q ∧ rest.getLast? = some q then rest.dropLast else q :: rest

/-- The text without one layer of quotes. -/
def unquote (s : String) : String := String.ofList (unquoteChars s.toList)

/-- Where the splitting of a part stands. -/
inductive Mode where
  /-- Only blank characters of the part were seen. -/
  | fresh
  /-- The part has started and no quote is open. -/
  | plain
  /-- The part opened this quote. -/
  | quoted (quote : Char)
  deriving DecidableEq, Repr

/-- Whether a comma splits. -/
def Mode.splits : Mode → Bool
  | .quoted _ => false
  | _ => true

/-- The mode after a character that belongs to the part. -/
def Mode.after : Mode → Char → Mode
  | .fresh, c => if isQuote c then .quoted c else if Text.isBlank c then .fresh else .plain
  | .plain, _ => .plain
  | .quoted q, c => if c = q then .plain else .quoted q

/-- The parts, with a character put in front of the first. -/
def consHead (c : Char) : List (List Char) → List (List Char)
  | [] => [[c]]
  | part :: parts => (c :: part) :: parts

/-- The parts of what is left of a text. -/
def splitFrom : Mode → List Char → List (List Char)
  | _, [] => [[]]
  | m, c :: rest =>
    if c = ',' ∧ m.splits then [] :: splitFrom .fresh rest
    else consHead c (splitFrom (m.after c) rest)

/-- The parts of the text of a group. -/
def split (s : List Char) : List (List Char) := splitFrom .fresh s

/-- The argument that a part holds. -/
def ofPart (part : List Char) : String :=
  String.ofList (unquoteChars (Text.trimChars part))

/-- The arguments of the text of a group; a blank text has none. -/
def ofGroup (s : List Char) : List String :=
  if Text.isBlankText s then [] else (split s).map ofPart

end FormLine.Arguments
