import FormLine.Field.Report
import FormLine.Proofs.Layout
import FormLine.Proofs.Lookup
import FormLine.Proofs.Splitting
/-!
# Where tokens come from

What a token holds was copied from one place of the text, and nothing far from that place has a part in
it. Two statements say so:

1. `ofText_lineBreak` — a line break separates. What stands on either side of it is read as if the other
   side were not there, however many parentheses and quotes are open at the break or close behind it.
2. `ofText_grounded` — names and arguments stand in the text one behind another, and every text of the
   metadata stands in it, too.

For the second, `InOrder` says that texts stand one behind another in a source. It is proved of the
arguments in a group, of a chunk and of a layout, in each case by putting texts in order side by side
(`InOrder.append`).
-/

namespace FormLine

/-! ## Line breaks -/

namespace Chunk

theorem isNameChar_lineBreak {c : Char} (hc : isLineBreak c = true) : isNameChar c = false := by
  simp only [isLineBreak, Bool.or_eq_true, beq_iff_eq] at hc
  obtain ((rfl | rfl) | rfl) | rfl := hc <;> decide +kernel

/-- What stands behind a line break is on another line. -/
theorem line_lineBreak {c : Char} (hc : isLineBreak c = true) (s t : List Char) :
    line (s ++ c :: t) = line s := by
  induction s with
  | nil => simp [line, hc]
  | cons d s ih =>
    cases hd : isLineBreak d with
    | true => simp [line, hd]
    | false => simpa [line, hd] using ih

theorem startsNoName_lineBreak {c : Char} (hc : isLineBreak c = true) {s : List Char}
    (h : StartsNoName s) (t : List Char) : StartsNoName (s ++ c :: t) := by
  cases s with
  | nil => exact startsNoName_cons.mpr (isNameChar_lineBreak hc)
  | cons d s => exact startsNoName_cons.mpr (startsNoName_cons.mp h)

/-- A group that is not closed at the end of the text is not closed behind a line break. -/
theorem startsNoGroup_lineBreak {c : Char} (hc : isLineBreak c = true) {s : List Char}
    (h : StartsNoGroup s) (t : List Char) : StartsNoGroup (s ++ c :: t) := by
  cases s with
  | nil =>
    have hopen : c ≠ '(' := by
      rintro rfl
      revert hc
      decide
    exact startsNoGroup_cons hopen
  | cons d s =>
    intro inner heq
    obtain ⟨rfl, rfl⟩ := List.cons.inj heq
    show ')' ∉ line (s ++ c :: t)
    rw [line_lineBreak hc]
    exact h s rfl

/-- **The scan starts afresh at a line break.** -/
theorem ofChars_lineBreak {c : Char} (hc : isLineBreak c = true) (s t : List Char) :
    ofChars (s ++ c :: t) = ofChars s ++ ofChars t := by
  have hskip : ofChars (c :: t) = ofChars t := ofChars_skip (isNameChar_lineBreak hc) t
  -- On the scan of the first side: each search in it ends where it ended, or fails as it failed.
  induction s using ofChars.induct with
  | case1 => rw [List.nil_append, hskip, ofChars_nil, List.nil_append]
  | case2 d rest hd span after hgroup ih =>
    obtain ⟨hspan, hrest⟩ := group?_eq_some_iff.mp hgroup
    have hname := Layout.isName_run hd rest
    have hs : d :: rest = d :: rest.takeWhile isNameChar ++ ('(' :: span ++ ')' :: after) := by
      rw [List.cons_append, ← hrest, List.takeWhile_append_dropWhile]
    have hst : d :: rest ++ c :: t =
        d :: rest.takeWhile isNameChar ++ ('(' :: span ++ ')' :: (after ++ c :: t)) := by
      rw [hs]
      simp
    rw [hst, hs, ofChars_group hname hspan, ofChars_group hname hspan, ih, List.cons_append]
  | case3 d rest hd hgroup ih =>
    have hname := Layout.isName_run hd rest
    have hnext := startsNoName_dropWhile rest
    have hopen := group?_eq_none_iff.mp hgroup
    have hs : d :: rest = d :: rest.takeWhile isNameChar ++ rest.dropWhile isNameChar := by
      rw [List.cons_append, List.takeWhile_append_dropWhile]
    have hst : d :: rest ++ c :: t =
        d :: rest.takeWhile isNameChar ++ (rest.dropWhile isNameChar ++ c :: t) := by
      rw [← List.append_assoc, ← hs]
    rw [hst, ofChars_bare hname (startsNoName_lineBreak hc hnext t) (startsNoGroup_lineBreak hc hopen t),
      ih, hs, ofChars_bare hname hnext hopen, List.cons_append]
  | case4 d rest hd ih =>
    have hd : isNameChar d = false := by simpa using hd
    rw [List.cons_append, ofChars_skip hd, ofChars_skip hd, ih]

end Chunk

namespace Token

/-- **A line break separates.** The tokens of two texts with a line break between them are those of the
first and then those of the second. -/
theorem ofText_lineBreak (s t : String) {c : Char} (hc : c ∈ ['\n', '\r', '\u2028', '\u2029']) :
    ofText (s ++ String.singleton c ++ t) = ofText s ++ ofText t := by
  have hbreak : Chunk.isLineBreak c = true := by
    simp only [List.mem_cons, List.not_mem_nil, or_false] at hc
    obtain rfl | rfl | rfl | rfl := hc <;> decide
  have hchars : (s ++ String.singleton c ++ t).toList = s.toList ++ c :: t.toList := by simp
  rw [ofText, hchars, Chunk.ofChars_lineBreak hbreak, List.map_append]
  rfl

/-- A group and a quote are open at the break, and behind it a parenthesis and a quote close. -/
theorem ofText_lineBreak_open :
    '\u2028' ∈ ['\n', '\r', '\u2028', '\u2029'] ∧
      ofText "a('b\u2028c') d" = ofText "a('b" ++ ofText "c') d" ∧
      ofText "a('b\u2028c') d" = [⟨"a", none⟩, ⟨"b", none⟩, ⟨"c", none⟩, ⟨"d", none⟩] := by
  have hc : '\u2028' ∈ ['\n', '\r', '\u2028', '\u2029'] := by decide
  have htext : "a('b" ++ String.singleton '\u2028' ++ "c') d" = "a('b\u2028c') d" := by decide
  have h := ofText_lineBreak "a('b" "c') d" hc
  rw [htext] at h
  have hfirst : ofText "a('b" = [⟨"a", none⟩, ⟨"b", none⟩] := by decide +kernel
  have hsecond : ofText "c') d" = [⟨"c", none⟩, ⟨"d", none⟩] := by decide +kernel
  exact ⟨hc, h, by rw [h, hfirst, hsecond]; rfl⟩

end Token

/-! ## Texts in order -/

/-- The texts stand in the source one behind another, and none of them overlaps the next. -/
def InOrder : List (List Char) → List Char → Prop
  | [], _ => True
  | text :: rest, source =>
    ∃ before behind, source = before ++ (text ++ behind) ∧ InOrder rest behind

namespace InOrder

variable {texts more : List (List Char)} {source behind : List Char}

theorem prepend (h : InOrder texts source) (before : List Char) : InOrder texts (before ++ source) := by
  cases texts with
  | nil => trivial
  | cons text rest =>
    obtain ⟨start, behind, rfl, hrest⟩ := h
    exact ⟨before ++ start, behind, by simp, hrest⟩

/-- Texts in order may be put side by side. -/
theorem append (h : InOrder texts source) (hmore : InOrder more behind) :
    InOrder (texts ++ more) (source ++ behind) := by
  induction texts generalizing source with
  | nil => exact hmore.prepend source
  | cons text rest ih =>
    obtain ⟨before, after, rfl, hrest⟩ := h
    exact ⟨before, after ++ behind, by simp, ih hrest⟩

theorem of_isInfix {text : List Char} (h : text <:+: source) : InOrder [text] source := by
  obtain ⟨before, behind, rfl⟩ := h
  exact ⟨before, behind, by simp, trivial⟩

theorem isInfix {text : List Char} (h : InOrder texts source) (htext : text ∈ texts) :
    text <:+: source := by
  induction texts generalizing source with
  | nil => simp at htext
  | cons first rest ih =>
    obtain ⟨before, behind, rfl, hrest⟩ := h
    rcases List.mem_cons.mp htext with rfl | htext
    · exact ⟨before, behind, by simp⟩
    · rw [← List.append_assoc]
      exact (ih hrest htext).trans (List.suffix_append _ _).isInfix

/-- Of parts that are joined each may give a text of its own. -/
theorem intercalate {α : Type} {text : α → List Char} {part : α → List Char} (separator : List Char)
    (items : List α) (h : ∀ a ∈ items, text a <:+: part a) :
    InOrder (items.map text) (List.intercalate separator (items.map part)) := by
  induction items with
  | nil => trivial
  | cons a rest ih =>
    obtain ⟨ha, hrest⟩ := List.forall_mem_cons.mp h
    cases rest with
    | nil => simpa using of_isInfix ha
    | cons b rest =>
      simp only [List.map_cons, List.intercalate_cons_cons, List.append_assoc] at ih ⊢
      exact (of_isInfix ha).append ((ih hrest).prepend separator)

end InOrder

/-! ## What is left of an argument -/

namespace Chunk

theorem IsSpan.of_isInfix {s t : List Char} (h : IsSpan s) (ht : t <:+: s) : IsSpan t :=
  fun c hc => h c (ht.subset hc)

end Chunk

namespace Arguments
open Text

theorem trimChars_isInfix (s : List Char) : trimChars s <:+: s := by
  obtain ⟨⟨before, after, _, _, hs⟩, _, _⟩ := trimmed_trimChars s
  exact ⟨before, after, by rw [List.append_assoc, ← hs]⟩

theorem unquoteChars_isInfix (s : List Char) : unquoteChars s <:+: s := by
  obtain ⟨q, _, hs⟩ | ⟨_, hs⟩ := unquoted_iff.mpr (rfl : unquoteChars s = unquoteChars s)
  · exact ⟨[q], [q], by rw [List.append_assoc, List.singleton_append, ← hs]⟩
  · exact ⟨[], [], by simp [hs]⟩

theorem toList_ofPart_isInfix (part : List Char) : (ofPart part).toList <:+: part := by
  rw [ofPart, String.toList_ofList]
  exact (unquoteChars_isInfix _).trans (trimChars_isInfix part)

/-- **The arguments of a group stand in it in order**, each in the part that it was read from. -/
theorem inOrder_ofGroup (s : List Char) : InOrder ((ofGroup s).map String.toList) s := by
  rw [ofGroup]
  split
  · trivial
  · have hjoined : List.intercalate [','] (split s) = s := (cut_splitFrom .fresh s).2
    have h := InOrder.intercalate [','] (split s) fun part _ => toList_ofPart_isInfix part
    rw [List.map_id', hjoined] at h
    rwa [List.map_map]

end Arguments

/-! ## Tokens -/

namespace Token

/-- The name of the token and its arguments, in the order in which they are written. -/
def texts (t : Token) : List String := t.name :: t.args.getD []

theorem inOrder_ofChunk (c : Chunk) : InOrder ((ofChunk c).texts.map String.toList) c.text := by
  obtain ⟨name, group⟩ := c
  have hname : InOrder [name] name := .of_isInfix List.infix_rfl
  cases group with
  | none => simpa [texts, ofChunk, Chunk.text] using hname
  | some span =>
    have hclose : InOrder [] [')'] := trivial
    have hspan := ((Arguments.inOrder_ofGroup span).append hclose).prepend ['(']
    simpa [texts, ofChunk, Chunk.text] using hname.append hspan

theorem inOrder_pieces (pieces : List (Chunk × List Char)) :
    InOrder ((pieces.flatMap fun p => (ofChunk p.1).texts).map String.toList)
      (Layout.piecesText pieces) := by
  induction pieces with
  | nil => trivial
  | cons p rest ih =>
    obtain ⟨c, gap⟩ := p
    rw [List.flatMap_cons, List.map_append]
    exact (inOrder_ofChunk c).append (ih.prepend gap)

/-- **Names and arguments stand in the text in order.** -/
theorem inOrder_ofText (source : String) :
    InOrder (((ofText source).flatMap texts).map String.toList) source.toList := by
  obtain ⟨l, htext, hl⟩ := Layout.exists_lawful source.toList
  have htokens : ofText source = l.pieces.map fun p => ofChunk p.1 := by
    rw [ofText, ← htext, Layout.ofChars_text hl, Layout.chunks, List.map_map]
    rfl
  rw [htokens, List.flatMap_map, ← htext]
  exact (inOrder_pieces l.pieces).prepend l.lead

/-- A token is read from a chunk that obeys the grammar. -/
theorem exists_chunk {source : String} {t : Token} (h : t ∈ ofText source) :
    ∃ c, ofChunk c = t ∧ Chunk.IsName c.name ∧ ∀ span ∈ c.group, Chunk.IsSpan span := by
  obtain ⟨l, htext, hl⟩ := Layout.exists_lawful source.toList
  rw [ofText, ← htext, Layout.ofChars_text hl] at h
  obtain ⟨c, hc, rfl⟩ := List.mem_map.mp h
  exact ⟨c, rfl, hl.names c hc, hl.spans c hc⟩

theorem isName_of_mem {source : String} {t : Token} (h : t ∈ ofText source) :
    Chunk.IsName t.name.toList := by
  obtain ⟨c, rfl, hname, _⟩ := exists_chunk h
  simpa [ofChunk] using hname

theorem isSpan_of_mem {source : String} {t : Token} (h : t ∈ ofText source) {args : List String}
    (hargs : t.args = some args) {a : String} (ha : a ∈ args) : Chunk.IsSpan a.toList := by
  obtain ⟨c, rfl, _, hspans⟩ := exists_chunk h
  obtain ⟨span, hspan, rfl⟩ := Option.map_eq_some_iff.mp hargs
  exact (hspans span hspan).of_isInfix
    ((Arguments.inOrder_ofGroup span).isInfix (List.mem_map_of_mem ha))

theorem isInfix_of_mem {source : String} {t : Token} (h : t ∈ ofText source) {s : String}
    (hs : s ∈ t.texts) : s.toList <:+: source.toList :=
  (inOrder_ofText source).isInfix (List.mem_map_of_mem (List.mem_flatMap.mpr ⟨t, h, hs⟩))

theorem mem_of_argsOf {name : String} {tokens : List Token} {args : List String}
    (h : argsOf name tokens = some args) : ∃ t ∈ tokens, t.args = some args := by
  rw [argsOf_eq] at h
  obtain ⟨t, ht, hargs⟩ := Option.bind_eq_some_iff.mp h
  exact ⟨t, List.mem_reverse.mp (List.mem_of_find?_eq_some ht), hargs⟩

end Token

/-! ## Metadata -/

/-- The text stands in the source, on one line and without a closing parenthesis. -/
def StandsIn (source s : String) : Prop := s.toList <:+: source.toList ∧ Chunk.IsSpan s.toList

/-- The text is an argument of the component, the label, the description or the default. -/
def Metadata.Holds (m : Metadata) (s : String) : Prop :=
  (∃ args, m.arguments = some args ∧ s ∈ args) ∨ m.label = some s ∨ m.description = some s ∨
    m.initial = some (.text s)

/-- The tokens and the metadata were copied from the source. -/
structure Grounded (source : String) (tokens : List Token) (m : Metadata) : Prop where
  names : ∀ t ∈ tokens, t.name.toList <:+: source.toList ∧ Chunk.IsName t.name.toList
  arguments : ∀ t ∈ tokens, ∀ args, t.args = some args → ∀ a ∈ args, StandsIn source a
  in_order : InOrder ((tokens.flatMap Token.texts).map String.toList) source.toList
  metadata : ∀ s, m.Holds s → StandsIn source s

theorem standsIn_of_mem {source : String} {t : Token} (h : t ∈ Token.ofText source)
    {args : List String} (hargs : t.args = some args) {a : String} (ha : a ∈ args) :
    StandsIn source a := by
  refine ⟨Token.isInfix_of_mem h ?_, Token.isSpan_of_mem h hargs ha⟩
  rw [Token.texts, hargs]
  exact List.mem_cons_of_mem t.name ha

theorem standsIn_of_argsOf {source name : String} {args : List String}
    (h : Token.argsOf name (Token.ofText source) = some args) {a : String} (ha : a ∈ args) :
    StandsIn source a := by
  obtain ⟨t, ht, hargs⟩ := Token.mem_of_argsOf h
  exact standsIn_of_mem ht hargs ha

/-- A text that was trimmed and unquoted once more still stands where its argument does. -/
theorem standsIn_of_firstText? {source name s : String}
    (h : firstText? (Token.argsOf name (Token.ofText source)) = some s) : StandsIn source s := by
  match hargs : Token.argsOf name (Token.ofText source), h with
  | some (a :: rest), h =>
    obtain ⟨hstands, hspan⟩ := standsIn_of_argsOf hargs List.mem_cons_self
    have hs : s.toList <:+: a.toList := by
      obtain rfl : Arguments.unquote (Text.trim a) = s := Option.some.inj h
      rw [Arguments.unquote, Text.trim, String.toList_ofList, String.toList_ofList]
      exact (Arguments.unquoteChars_isInfix _).trans (Arguments.trimChars_isInfix _)
    exact ⟨hs.trans hstands, hspan.of_isInfix hs⟩

theorem standsIn_of_holds {source s : String}
    (h : (Metadata.ofTokens (Token.ofText source)).Holds s) : StandsIn source s := by
  obtain ⟨args, hargs, hs⟩ | hlabel | hdescription | hinitial := h
  · obtain ⟨c, _, hargs⟩ := Option.bind_eq_some_iff.mp hargs
    exact standsIn_of_argsOf hargs hs
  · exact standsIn_of_firstText? hlabel
  · exact standsIn_of_firstText? hdescription
  · -- the default of a checkbox is no text
    obtain ⟨text, htext, hvalue⟩ := Option.map_eq_some_iff.mp hinitial
    split at hvalue
    · cases hvalue
    · cases hvalue
      exact standsIn_of_firstText? htext

/-- **Nothing is made up.** Names are runs of name characters of the specification, and arguments stand in
it on one line; the tokens list both in the order in which they stand there. Every text of the metadata
stands in the specification, too. -/
theorem ofText_grounded (spec : String) :
    Grounded spec (Token.ofText spec) (Report.ofSpec spec).metadata where
  names _ ht := ⟨Token.isInfix_of_mem ht List.mem_cons_self, Token.isName_of_mem ht⟩
  arguments _ ht _ hargs _ ha := standsIn_of_mem ht hargs ha
  in_order := Token.inOrder_ofText spec
  metadata _ hs := standsIn_of_holds hs

end FormLine
