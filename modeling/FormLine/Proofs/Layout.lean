import FormLine.Proofs.Scan
import Mathlib.Logic.ExistsUnique
/-!
# Layouts of a text

A layout divides a text into a leading gap and chunks, each with the gap behind it. It is lawful when it
obeys the grammar of specifications, which `Lawful` says rule by rule, without the scan. What is proved:

1. `ofChars_text` — the scan of a lawful layout's text gives the layout's chunks, in order.
2. `exists_lawful` — every text has a lawful layout.
3. `scan_unambiguous` — every text has exactly one, and its chunks are what the scan gives.

Each rule is needed for the third: without `whole` a name could be cut in two, and without `unclosed` a
group could be read as a gap.
-/

namespace FormLine

namespace Chunk

/-- The chunk as it is written. -/
def text (c : Chunk) : List Char :=
  match c.group with
  | none => c.name
  | some span => c.name ++ ('(' :: span ++ [')'])

/-- A chunk is found where it stands. One without a group must not be prolonged by what is behind it. -/
theorem ofChars_chunk {c : Chunk} (hname : IsName c.name) (hspan : ∀ span ∈ c.group, IsSpan span)
    {s : List Char} (hs : c.group = none → StartsNoName s ∧ StartsNoGroup s) :
    ofChars (c.text ++ s) = c :: ofChars s := by
  obtain ⟨name, group⟩ := c
  cases group with
  | none =>
    obtain ⟨hnext, hopen⟩ := hs rfl
    exact ofChars_bare hname hnext hopen
  | some span =>
    have h := ofChars_group hname (hspan span rfl) s
    simpa [text] using h

end Chunk

/-- A text divided into chunks and gaps. -/
structure Layout where
  /-- What stands before the first chunk. -/
  lead : List Char
  /-- The chunks in order, each with the gap behind it. -/
  pieces : List (Chunk × List Char)
  deriving DecidableEq, Repr

namespace Layout
open Chunk

/-- The text of the chunks and of the gaps behind them. -/
def piecesText : List (Chunk × List Char) → List Char
  | [] => []
  | (c, gap) :: rest => c.text ++ (gap ++ piecesText rest)

/-- The text that the layout divides. -/
def text (l : Layout) : List Char := l.lead ++ piecesText l.pieces

/-- The chunks in order. -/
def chunks (l : Layout) : List Chunk := l.pieces.map Prod.fst

/-- The gaps in order. -/
def gaps (l : Layout) : List (List Char) := l.lead :: l.pieces.map Prod.snd

/-- The grammar of specifications. -/
structure Lawful (l : Layout) : Prop where
  /-- Gaps hold no name character. -/
  gaps : ∀ gap ∈ l.gaps, IsGap gap
  /-- Names are runs of name characters. -/
  names : ∀ c ∈ l.chunks, IsName c.name
  /-- What stands between parentheses holds no closing one and no line break. -/
  spans : ∀ c ∈ l.chunks, ∀ span ∈ c.group, IsSpan span
  /-- A name without a group that another chunk follows has a gap behind it. -/
  whole : ∀ name gap next rest, (⟨name, none⟩, gap) :: next :: rest <:+ l.pieces → gap ≠ []
  /-- Where an opening parenthesis directly follows a name without a group, no closing one follows on
  the line. -/
  unclosed : ∀ name gap rest, (⟨name, none⟩, gap) :: rest <:+ l.pieces →
    ∀ inner, gap ++ piecesText rest = '(' :: inner → ')' ∉ line inner

/-- The layout is a lawful division of the text. -/
def Divides (l : Layout) (s : String) : Prop := l.text = s.toList ∧ l.Lawful

/-! ## The rules, chunk by chunk -/

/-- What the grammar asks of a chunk and of the layout behind it. -/
def Sits (c : Chunk) (behind : Layout) : Prop :=
  IsName c.name ∧
  match c.group with
  | some span => IsSpan span
  | none => (behind.pieces ≠ [] → behind.lead ≠ []) ∧ StartsNoGroup behind.text

theorem text_cons (lead : List Char) (c : Chunk) (gap : List Char) (rest : List (Chunk × List Char)) :
    text ⟨lead, (c, gap) :: rest⟩ = lead ++ (c.text ++ text ⟨gap, rest⟩) := rfl

theorem lawful_nil {lead : List Char} : Lawful ⟨lead, []⟩ ↔ IsGap lead := by
  refine ⟨fun h => h.gaps lead List.mem_cons_self, ?_⟩
  intro h
  refine ⟨?_, ?_, ?_, ?_, ?_⟩
  · intro gap hgap
    have : gap = lead := by simpa [Layout.gaps] using hgap
    exact this ▸ h
  · intro c hc; simp [chunks] at hc
  · intro c hc; simp [chunks] at hc
  · intro name gap next rest hsuf; simp at hsuf
  · intro name gap rest hsuf; simp at hsuf

/-- The layout behind a chunk of a lawful layout is lawful. -/
theorem Lawful.behind {lead : List Char} {c : Chunk} {gap : List Char}
    {rest : List (Chunk × List Char)} (h : Lawful ⟨lead, (c, gap) :: rest⟩) :
    Lawful ⟨gap, rest⟩ := by
  refine ⟨?_, ?_, ?_, ?_, ?_⟩
  · exact fun g hg => h.gaps g (List.mem_cons_of_mem lead hg)
  · exact fun d hd => h.names d (List.mem_cons_of_mem c hd)
  · exact fun d hd => h.spans d (List.mem_cons_of_mem c hd)
  · exact fun name g next r hsuf => h.whole name g next r (List.suffix_cons_iff.mpr (.inr hsuf))
  · exact fun name g r hsuf => h.unclosed name g r (List.suffix_cons_iff.mpr (.inr hsuf))

theorem Lawful.sits {lead : List Char} {c : Chunk} {gap : List Char}
    {rest : List (Chunk × List Char)} (h : Lawful ⟨lead, (c, gap) :: rest⟩) :
    Sits c ⟨gap, rest⟩ := by
  refine ⟨h.names c List.mem_cons_self, ?_⟩
  obtain ⟨name, group⟩ := c
  cases group with
  | some span => exact h.spans _ List.mem_cons_self span rfl
  | none =>
    refine ⟨?_, h.unclosed name gap rest List.suffix_rfl⟩
    intro hne
    obtain ⟨next, rest, rfl⟩ := List.exists_cons_of_ne_nil hne
    exact h.whole name gap next rest List.suffix_rfl

/-- A chunk may be put before a lawful layout that it sits well with. -/
theorem Lawful.cons {lead : List Char} {c : Chunk} {gap : List Char}
    {rest : List (Chunk × List Char)} (hlead : IsGap lead) (hc : Sits c ⟨gap, rest⟩)
    (h : Lawful ⟨gap, rest⟩) : Lawful ⟨lead, (c, gap) :: rest⟩ := by
  obtain ⟨hname, hgroup⟩ := hc
  refine ⟨?_, ?_, ?_, ?_, ?_⟩
  · intro g hg
    rcases List.mem_cons.mp hg with rfl | hg
    · exact hlead
    · exact h.gaps g hg
  · intro d hd
    rcases List.mem_cons.mp hd with rfl | hd
    · exact hname
    · exact h.names d hd
  · intro d hd span hspan
    rcases List.mem_cons.mp hd with rfl | hd
    · rw [Option.mem_def.mp hspan] at hgroup
      exact hgroup
    · exact h.spans d hd span hspan
  · intro name g next r hsuf
    rcases List.suffix_cons_iff.mp hsuf with heq | hsuf
    · simp only [List.cons.injEq, Prod.mk.injEq] at heq
      obtain ⟨⟨rfl, rfl⟩, rfl⟩ := heq
      exact hgroup.1 (by simp)
    · exact h.whole name g next r hsuf
  · intro name g r hsuf
    rcases List.suffix_cons_iff.mp hsuf with heq | hsuf
    · simp only [List.cons.injEq, Prod.mk.injEq] at heq
      obtain ⟨⟨rfl, rfl⟩, rfl⟩ := heq
      exact hgroup.2
    · exact h.unclosed name g r hsuf

theorem Lawful.lead_isGap {l : Layout} (h : l.Lawful) : IsGap l.lead :=
  h.gaps l.lead List.mem_cons_self

/-! ## The scan gives the chunks of a lawful layout -/

theorem ofChars_sits {c : Chunk} {behind : Layout} (hc : Sits c behind) (hb : behind.Lawful) :
    ofChars (c.text ++ behind.text) = c :: ofChars behind.text := by
  obtain ⟨hname, hgroup⟩ := hc
  refine ofChars_chunk hname ?_ ?_
  · intro span hspan
    rw [Option.mem_def.mp hspan] at hgroup
    exact hgroup
  · intro hbare
    rw [hbare] at hgroup
    obtain ⟨hwhole, hopen⟩ := hgroup
    refine ⟨startsNoName_append hb.lead_isGap fun hlead => ?_, hopen⟩
    -- An empty gap means that no chunk is left, so nothing can prolong the name.
    cases hpieces : behind.pieces with
    | nil => exact startsNoName_nil
    | cons p rest => exact absurd hlead (hwhole (by simp [hpieces]))

/-- **The scan gives the chunks of a lawful layout.** -/
theorem ofChars_text {l : Layout} (h : l.Lawful) : ofChars l.text = l.chunks := by
  obtain ⟨lead, pieces⟩ := l
  -- On the chunks: the layout behind the first one is lawful again, with the gap behind it as its lead.
  induction pieces generalizing lead with
  | nil =>
    rw [text, ofChars_gap h.lead_isGap]
    exact ofChars_nil
  | cons p rest ih =>
    obtain ⟨c, gap⟩ := p
    rw [text_cons, ofChars_gap h.lead_isGap, ofChars_sits h.sits h.behind, ih gap h.behind]
    rfl

/-! ## Existence -/

theorem isName_run {c : Char} (hc : isNameChar c = true) (rest : List Char) :
    IsName (c :: rest.takeWhile isNameChar) := by
  refine ⟨List.cons_ne_nil _ _, ?_⟩
  intro x hx
  rcases List.mem_cons.mp hx with rfl | hx
  · exact hc
  · exact List.all_eq_true.mp List.all_takeWhile x hx

theorem Sits.text_eq_cons {c : Chunk} {behind : Layout} (h : Sits c behind) :
    ∃ x rest, c.text = x :: rest ∧ isNameChar x = true := by
  obtain ⟨x, rest, hname, hx, _⟩ := h.1.exists_cons
  unfold Chunk.text
  rw [hname]
  cases c.group with
  | none => exact ⟨x, rest, rfl, hx⟩
  | some span => exact ⟨x, _, rfl, hx⟩

/-- Where the text starts with no name, the first chunk has a gap before it. -/
theorem gap_ne_nil {l : Layout} (h : l.Lawful) (hne : l.pieces ≠ []) (hs : StartsNoName l.text) :
    l.lead ≠ [] := by
  obtain ⟨lead, pieces⟩ := l
  intro hlead
  cases pieces with
  | nil => exact hne rfl
  | cons p rest =>
    obtain ⟨x, more, htext, hx⟩ := h.sits.text_eq_cons
    have hlead : lead = [] := hlead
    have := hs x (by rw [text_cons, hlead, htext]; simp)
    rw [hx] at this
    simp at this

theorem Lawful.prolong_lead {lead : List Char} {pieces : List (Chunk × List Char)} {c : Char}
    (h : Lawful ⟨lead, pieces⟩) (hc : isNameChar c = false) : Lawful ⟨c :: lead, pieces⟩ := by
  have hlead : IsGap (c :: lead) := isGap_cons.mpr ⟨hc, h.lead_isGap⟩
  cases pieces with
  | nil => exact lawful_nil.mpr hlead
  | cons p rest => exact Lawful.cons hlead h.sits h.behind

/-- **Every text has a lawful layout.** -/
theorem exists_lawful (s : List Char) : ∃ l : Layout, l.text = s ∧ l.Lawful := by
  -- On the scan itself: what it has left has a layout, and each step puts one stretch before it.
  induction s using ofChars.induct with
  | case1 => exact ⟨⟨[], []⟩, rfl, lawful_nil.mpr isGap_nil⟩
  | case2 c rest hc span after hgroup ih =>
    -- a name with its group
    obtain ⟨⟨gap, pieces⟩, htext, hl⟩ := ih
    obtain ⟨hspan, hrest⟩ := group?_eq_some_iff.mp hgroup
    refine ⟨⟨[], (⟨c :: rest.takeWhile isNameChar, some span⟩, gap) :: pieces⟩, ?_,
      Lawful.cons isGap_nil ⟨isName_run hc rest, hspan⟩ hl⟩
    rw [text_cons, htext]
    calc (c :: rest.takeWhile isNameChar ++ ('(' :: span ++ [')'])) ++ after
        = c :: (rest.takeWhile isNameChar ++ ('(' :: span ++ ')' :: after)) := by simp
      _ = c :: rest := by rw [← hrest, List.takeWhile_append_dropWhile]
  | case3 c rest hc hgroup ih =>
    -- a bare name, taken as a whole run, so the next chunk cannot follow it directly
    obtain ⟨⟨gap, pieces⟩, htext, hl⟩ := ih
    refine ⟨⟨[], (⟨c :: rest.takeWhile isNameChar, none⟩, gap) :: pieces⟩, ?_,
      Lawful.cons isGap_nil ⟨isName_run hc rest, ?_, ?_⟩ hl⟩
    · rw [text_cons, htext]
      simp [Chunk.text]
    · intro hne hgap
      exact absurd hgap (gap_ne_nil hl hne (htext ▸ startsNoName_dropWhile rest))
    · rw [htext]
      exact group?_eq_none_iff.mp hgroup
  | case4 c rest hc ih =>
    -- a character between chunks
    obtain ⟨⟨gap, pieces⟩, rfl, hl⟩ := ih
    have hc : isNameChar c = false := by simpa using hc
    exact ⟨⟨c :: gap, pieces⟩, rfl, hl.prolong_lead hc⟩

/-! ## Uniqueness -/

/-- The leading gap is what stands before the first name character. -/
theorem lead_eq_takeWhile {lead : List Char} {p : Chunk × List Char}
    {rest : List (Chunk × List Char)} (h : Lawful ⟨lead, p :: rest⟩) :
    lead = (text ⟨lead, p :: rest⟩).takeWhile fun c => !isNameChar c := by
  obtain ⟨x, more, htext, hx⟩ := h.sits.text_eq_cons
  have hlead : ∀ c ∈ lead, (!isNameChar c) = true := by
    intro c hc
    rw [h.lead_isGap c hc]; rfl
  rw [text_cons, htext, List.takeWhile_append_of_pos hlead]
  simp [hx]

/-- Lawful layouts of one text that have the same chunks have the same gaps. -/
theorem eq_of_chunks {l l' : Layout} (h : l.Lawful) (h' : l'.Lawful) (htext : l.text = l'.text)
    (hchunks : l.chunks = l'.chunks) : l = l' := by
  obtain ⟨lead, pieces⟩ := l
  obtain ⟨lead', pieces'⟩ := l'
  induction pieces generalizing lead lead' pieces' with
  | nil =>
    have hnil : pieces' = [] := by simpa [chunks] using hchunks.symm
    subst hnil
    have hlead : lead = lead' := by simpa [text, piecesText] using htext
    rw [hlead]
  | cons p rest ih =>
    obtain ⟨c, gap⟩ := p
    cases pieces' with
    | nil => simp [chunks] at hchunks
    | cons p' rest' =>
      obtain ⟨c', gap'⟩ := p'
      obtain ⟨rfl, hrest⟩ : c = c' ∧ rest.map Prod.fst = rest'.map Prod.fst := by
        simpa [chunks] using hchunks
      have hlead : lead = lead' := by
        rw [lead_eq_takeWhile h, htext, ← lead_eq_takeWhile h']
      subst hlead
      have hbehind : text ⟨gap, rest⟩ = text ⟨gap', rest'⟩ := by
        rw [text_cons, text_cons] at htext
        exact List.append_cancel_left (List.append_cancel_left htext)
      have htail := ih gap h.behind gap' rest' h'.behind hbehind hrest
      cases htail
      rfl

/-- **Every text has exactly one lawful layout, and its chunks are what the scan gives.** -/
theorem scan_unambiguous (s : String) :
    (∃! l : Layout, l.Divides s) ∧
      ∀ l : Layout, l.Divides s → Chunk.ofChars s.toList = l.chunks := by
  refine ⟨?_, ?_⟩
  · obtain ⟨l, htext, hl⟩ := exists_lawful s.toList
    refine ⟨l, ⟨htext, hl⟩, ?_⟩
    intro l' h'
    obtain ⟨htext', hl'⟩ := h'
    have hsame : l'.text = l.text := htext'.trans htext.symm
    refine eq_of_chunks hl' hl hsame ?_
    rw [← ofChars_text hl', hsame, ofChars_text hl]
  · intro l h
    obtain ⟨htext, hl⟩ := h
    rw [← htext, ofChars_text hl]

/-- An opening parenthesis that is not closed on its line is skipped, and what follows it is scanned. -/
example : Chunk.ofChars "a(b\nc(d)e".toList =
    [⟨['a'], none⟩, ⟨['b'], none⟩, ⟨['c'], some ['d']⟩, ⟨['e'], none⟩] := by cbv

end Layout

end FormLine
