import FormLine.Text.Alphanumeric
/-!
# Chunks

A specification is scanned from left to right into chunks. A chunk is a name, which is a whole run of
name characters, and the text of the group in parentheses that directly follows it, if there is one.
A group ends at the first closing parenthesis and never crosses a line break; an opening parenthesis
that no group follows is skipped like every other character between chunks.

The scan is defined on every text. Stretches that are no chunk are skipped.

Correspondence (program ↔ library):
  `RawToken`            ↔ `Chunk`
  `_is_identifier_char` ↔ `Chunk.isNameChar`
  `LINE_BREAKS`         ↔ `Chunk.isLineBreak`
  `_find_close`         ↔ `Chunk.closed?`, behind an opening parenthesis `Chunk.group?`
  `scan`                ↔ `Chunk.ofChars`
The program keeps a position in the text; here it is the rest of the text from there on.
-/

namespace FormLine

/-- A name, and the text of the group that directly follows it. -/
structure Chunk where
  name : List Char
  /-- What stands between the parentheses; `none` where there are none. -/
  group : Option (List Char)
  deriving DecidableEq, Repr

namespace Chunk

/-- Names are made of letters, numerals, underscores and hyphens. -/
def isNameChar (c : Char) : Bool :=
  Text.isAlphanumeric c || c == '_' || c == '-'

/-- The line breaks: line feed, carriage return, line separator, paragraph separator. -/
def isLineBreak (c : Char) : Bool :=
  c == '\n' || c == '\r' || c == '\u2028' || c == '\u2029'

/-- The text up to the first closing parenthesis of the line and the text after that parenthesis;
`none` when the line ends first. -/
def closed? : List Char → Option (List Char × List Char)
  | [] => none
  | c :: rest =>
    if c = ')' then some ([], rest)
    else if isLineBreak c then none
    else (closed? rest).map fun (text, after) => (c :: text, after)

/-- The group that a text starts with, and the text after it. -/
def group? : List Char → Option (List Char × List Char)
  | '(' :: rest => closed? rest
  | _ => none

theorem length_of_closed? {s text after : List Char} (h : closed? s = some (text, after)) :
    after.length < s.length := by
  induction s generalizing text with
  | nil => simp [closed?] at h
  | cons c rest ih =>
    simp only [closed?] at h
    split at h
    · cases h; simp
    · split at h
      · simp at h
      · obtain ⟨⟨t, a⟩, ht, ha⟩ := Option.map_eq_some_iff.1 h
        cases ha
        exact Nat.lt_succ_of_lt (ih ht)

theorem length_of_group? {s text after : List Char} (h : group? s = some (text, after)) :
    after.length < s.length := by
  unfold group? at h
  split at h
  · exact Nat.lt_succ_of_lt (length_of_closed? h)
  · simp at h

theorem length_dropWhile_le (p : Char → Bool) (s : List Char) :
    (s.dropWhile p).length ≤ s.length := by
  induction s with
  | nil => simp
  | cons c rest ih =>
    rw [List.dropWhile_cons]
    split
    · exact Nat.le_succ_of_le ih
    · exact Nat.le_refl _

/-- The chunks of a text, from left to right. -/
def ofChars : List Char → List Chunk
  | [] => []
  | c :: rest =>
    if isNameChar c then
      let name := c :: rest.takeWhile isNameChar
      match _h : group? (rest.dropWhile isNameChar) with
      | some (text, after) => ⟨name, some text⟩ :: ofChars after
      | none => ⟨name, none⟩ :: ofChars (rest.dropWhile isNameChar)
    else ofChars rest
termination_by s => s.length
decreasing_by
  · have := length_of_group? _h
    have := length_dropWhile_le isNameChar rest
    simp only [List.length_cons]; omega
  · have := length_dropWhile_le isNameChar rest
    simp only [List.length_cons]; omega
  · simp

end Chunk

end FormLine
