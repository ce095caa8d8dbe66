import FormLine.Token
import FormLine.Proofs.Layout
import FormLine.Proofs.Quoting
/-!
# Spellings of tokens

Every list of tokens can be spelled in many ways: each value stands between quotes of either kind with
padding around them, empty parentheses may hold padding, and the tokens stand apart by gaps. Reading any
spelling gives the tokens back (`ofText_spelling`): a bare name, empty parentheses and one empty value
stay three different things, and no value is lost, merged, split, trimmed or unquoted twice.

A spelling is a layout of the text (`Spelling.layout`) whose groups are joined from parts in quotes, so
the proof is the scan of a lawful layout followed by the reading of each group.
-/

namespace FormLine

/-- How the arguments of a token are spelled. -/
inductive SpelledArgs where
  /-- No parentheses. -/
  | bare
  /-- Parentheses with nothing but padding. -/
  | blank (padding : List Char) (isPadding : Arguments.IsPadding padding)
  /-- One value or more. -/
  | values (first : Arguments.QuotedPart) (rest : List Arguments.QuotedPart)

namespace SpelledArgs

/-- What stands between the parentheses. -/
def group : SpelledArgs → Option (List Char)
  | bare => none
  | blank padding _ => some padding
  | values first rest => some (Arguments.joined (first :: rest))

/-- The arguments that are spelled. -/
def args : SpelledArgs → Option (List String)
  | bare => none
  | blank _ _ => some []
  | values first rest => some ((first :: rest).map (·.value))

theorem ofGroup_group (a : SpelledArgs) : a.group.map Arguments.ofGroup = a.args := by
  cases a with
  | bare => rfl
  | blank padding h => exact congrArg some (Arguments.ofGroup_blank h.isBlankRun)
  | values first rest => exact congrArg some (Arguments.ofGroup_joined first rest)

theorem isSpan_group (a : SpelledArgs) : ∀ span ∈ a.group, Chunk.IsSpan span := by
  intro span hspan
  cases a with
  | bare => simp [group] at hspan
  | blank padding h =>
    obtain rfl : padding = span := by simpa [group] using hspan
    exact h.isSpan
  | values first rest =>
    obtain rfl : Arguments.joined (first :: rest) = span := by simpa [group] using hspan
    exact Arguments.isSpan_joined (first :: rest)

end SpelledArgs

/-- How a token is spelled. -/
structure SpelledToken where
  name : String
  args : SpelledArgs
  isName : Chunk.IsName name.toList

namespace SpelledToken

/-- The token that is spelled. -/
def token (t : SpelledToken) : Token := ⟨t.name, t.args.args⟩

/-- The token as it is written. -/
def chunk (t : SpelledToken) : Chunk := ⟨t.name.toList, t.args.group⟩

theorem ofChunk_chunk (t : SpelledToken) : Token.ofChunk t.chunk = t.token := by
  simp [Token.ofChunk, chunk, token, t.args.ofGroup_group]

end SpelledToken

/-- How a list of tokens is spelled. Gaps hold no name character, and the gap behind a token does not
start with an opening parenthesis. Only the one behind the last token may be empty. -/
structure Spelling where
  /-- What stands before the first token. -/
  lead : List Char
  /-- The tokens in order, each with the gap behind it. -/
  pieces : List (SpelledToken × List Char)
  isGap_lead : Chunk.IsGap lead
  isGap_behind : ∀ p ∈ pieces, Chunk.IsGap p.2
  closed_behind : ∀ p ∈ pieces, p.2.head? ≠ some '('
  gap_between : ∀ p ∈ pieces.dropLast, p.2 ≠ []

namespace Spelling
open Arguments Chunk

/-- The tokens that are spelled. -/
def tokens (s : Spelling) : List Token := s.pieces.map fun p => p.1.token

/-- The layout that the spelling has. -/
def layout (s : Spelling) : Layout := ⟨s.lead, s.pieces.map fun p => (p.1.chunk, p.2)⟩

/-- The text that the spelling gives. -/
def text (s : Spelling) : String := String.ofList s.layout.text

/-- Where a chunk is not the last, it stands among all but the last. -/
theorem mem_dropLast_of_suffix {α : Type} {a b : α} {rest l : List α} (h : a :: b :: rest <:+ l) :
    a ∈ l.dropLast := by
  obtain ⟨before, rfl⟩ := h
  rw [List.dropLast_append_of_ne_nil (List.cons_ne_nil a (b :: rest)), List.dropLast_cons_cons]
  exact List.mem_append_right before List.mem_cons_self

/-- A spelling obeys the grammar: a bare name is kept from what follows it by its gap. -/
theorem layout_lawful (s : Spelling) : s.layout.Lawful := by
  have hbetween : ∀ p ∈ s.layout.pieces.dropLast, p.2 ≠ [] := by
    intro p hp
    rw [layout, ← List.map_dropLast] at hp
    obtain ⟨q, hq, rfl⟩ := List.mem_map.mp hp
    exact s.gap_between q hq
  refine ⟨?_, ?_, ?_, ?_, ?_⟩
  · intro gap hgap
    rcases List.mem_cons.mp hgap with rfl | hgap
    · exact s.isGap_lead
    · obtain ⟨p, hp, rfl⟩ := List.mem_map.mp hgap
      obtain ⟨q, hq, rfl⟩ := List.mem_map.mp hp
      exact s.isGap_behind q hq
  · intro c hc
    obtain ⟨p, hp, rfl⟩ := List.mem_map.mp hc
    obtain ⟨q, _, rfl⟩ := List.mem_map.mp hp
    exact q.1.isName
  · intro c hc
    obtain ⟨p, hp, rfl⟩ := List.mem_map.mp hc
    obtain ⟨q, _, rfl⟩ := List.mem_map.mp hp
    exact q.1.args.isSpan_group
  · intro name gap next rest hsuf
    exact hbetween _ (mem_dropLast_of_suffix hsuf)
  · intro name gap rest hsuf inner htext
    exfalso
    cases gap with
    | nil =>
      -- An empty gap is the last one, so no text is left that could open a group.
      cases rest with
      | nil => simp [Layout.piecesText] at htext
      | cons next rest => exact hbetween _ (mem_dropLast_of_suffix hsuf) rfl
    | cons c gap =>
      have hmem := hsuf.subset List.mem_cons_self
      obtain ⟨q, hq, heq⟩ := List.mem_map.mp hmem
      have hgap : q.2 = c :: gap := congrArg Prod.snd heq
      have hopen : c = '(' := (List.cons.inj htext).1
      exact s.closed_behind q hq (by rw [hgap, hopen]; rfl)

/-- **Reading any spelling of tokens gives the tokens.** -/
theorem ofText_spelling (s : Spelling) : Token.ofText s.text = s.tokens := by
  rw [Token.ofText, text, String.toList_ofList, Layout.ofChars_text s.layout_lawful, Layout.chunks,
    layout, List.map_map, List.map_map, tokens]
  exact List.map_congr_left fun p _ => p.1.ofChunk_chunk

/-- A bare name, empty parentheses with padding, and three values with padding: one that holds the quote it
stands between, one with a comma and blank characters at its ends, and the empty one. -/
def assorted : Spelling where
  lead := [',', ' ']
  pieces := [
    (⟨"text", .bare, by decide⟩, [' ']),
    (⟨"empty", .blank ['\t', ' '] (by decide), by decide⟩, [')', '\n']),
    (⟨"not-one", .values
      ⟨⟨"can't", '\'', isQuote_apostrophe, by decide, by decide⟩, [' '], ['\u00A0'], by decide,
        by decide⟩
      [⟨⟨" a, (b ", '"', isQuote_doubleQuote, by decide, by decide⟩, ['\t'], [' '], by decide,
          by decide⟩,
        ⟨⟨"", '\'', isQuote_apostrophe, by decide, isSpan_nil⟩, ['\t'], [' '], by decide, by decide⟩],
      by decide⟩, [])]
  isGap_lead := by decide
  isGap_behind := by decide
  closed_behind := by decide
  gap_between := by decide

theorem ofText_assorted :
    assorted.text = ", text empty(\t ))\nnot-one( 'can't'\u00A0,\t\" a, (b \" ,\t'' )" ∧
      Token.ofText assorted.text =
        [⟨"text", none⟩, ⟨"empty", some []⟩, ⟨"not-one", some ["can't", " a, (b ", ""]⟩] :=
  ⟨by decide, ofText_spelling assorted⟩

end Spelling

end FormLine
