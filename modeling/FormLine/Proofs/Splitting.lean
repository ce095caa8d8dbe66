import FormLine.Proofs.Quoting
/-!
# How the text of a group is split

A text is divided into parts by those of its commas that do not stand in a quoted stretch. Which division
that is, is said here without the splitting: every part but the last is closed, so the comma behind it
separates, and the last is closed or ends inside its quote (`Divides`). What is proved:

1. `closed_iff` and `closed_or_open_iff` — what the two kinds of part mean for the mode in which the
   splitting leaves them.
2. `splitFrom_eq_iff` — the splitting from any mode, by the parts that it gives.
3. `split_unique` — every text has exactly one division, and the splitting gives it.
-/

namespace FormLine.Arguments
open Text

/-! ## Closed and open parts -/

/-- Behind its leading blanks the part is empty, or starts with no quote and has no comma, or is a quoted
stretch with no comma behind it. -/
def Closed (part : List Char) : Prop :=
  part.dropWhile isBlank = [] ∨
    ((∀ c ∈ (part.dropWhile isBlank).head?, isQuote c = false) ∧ ',' ∉ part.dropWhile isBlank) ∨
    ∃ q stretch rest, part.dropWhile isBlank = q :: (stretch ++ q :: rest) ∧ isQuote q = true ∧
      q ∉ stretch ∧ ',' ∉ rest

/-- Behind its leading blanks the part opens a quote that it does not close. -/
def Open (part : List Char) : Prop :=
  ∃ q stretch, part.dropWhile isBlank = q :: stretch ∧ isQuote q = true ∧ q ∉ stretch

/-- The parts divide the text: joined by commas they are the text, and only the last may be open. -/
structure Divides (s : List Char) (parts : List (List Char)) : Prop where
  ne_nil : parts ≠ []
  joined : List.intercalate [','] parts = s
  closed : ∀ part ∈ parts.dropLast, Closed part
  last : ∀ part ∈ parts.getLast?, Closed part ∨ Open part

/-! ## The modes in which a part is left -/

theorem unsplit_plain_iff {s : List Char} : unsplit .plain s = true ↔ ',' ∉ s := by
  constructor
  · intro h
    induction s with
    | nil => simp
    | cons c s ih =>
      obtain ⟨hc, hs⟩ := unsplit_cons.mp h
      have hne : ',' ≠ c := fun hcomma => hc ⟨hcomma.symm, rfl⟩
      exact List.not_mem_cons_of_ne_of_not_mem hne (ih hs)
  · exact fun h => (unsplit_plain h).1

/-- In a quoted stretch nothing splits. -/
theorem unsplit_unclosed {q : Char} {s : List Char} (h : q ∉ s) :
    unsplit (.quoted q) s = true ∧ (Mode.quoted q).through s = .quoted q := by
  induction s with
  | nil => exact ⟨rfl, rfl⟩
  | cons c s ih =>
    rw [List.mem_cons, not_or] at h
    obtain ⟨hc, hs⟩ := h
    obtain ⟨hun, hthrough⟩ := ih hs
    have hafter : (Mode.quoted q).after c = .quoted q := by simp [Mode.after, Ne.symm hc]
    rw [unsplit_cons, Mode.through_cons, hafter]
    exact ⟨⟨by simp [Mode.splits], hun⟩, hthrough⟩

/-- The first quote of its kind closes a stretch. -/
theorem unsplit_closing {q : Char} {stretch : List Char} (h : q ∉ stretch) (rest : List Char) :
    unsplit (.quoted q) (stretch ++ q :: rest) = unsplit .plain rest ∧
      (Mode.quoted q).through (stretch ++ q :: rest) = Mode.plain.through rest := by
  obtain ⟨hun, hthrough⟩ := unsplit_unclosed h
  have hafter : (Mode.quoted q).after q = .plain := by simp [Mode.after]
  constructor
  · rw [Bool.eq_iff_iff, unsplit_append, hthrough, unsplit_cons, hafter]
    simp [hun, Mode.splits]
  · rw [Mode.through_append, hthrough, Mode.through_cons, hafter]

theorem through_plain (s : List Char) : Mode.plain.through s = .plain := by
  induction s with
  | nil => rfl
  | cons c s ih => rw [Mode.through_cons]; exact ih

theorem unsplit_blanks {before : List Char} (h : IsBlankRun before) (s : List Char) :
    unsplit .fresh (before ++ s) = unsplit .fresh s ∧
      Mode.fresh.through (before ++ s) = Mode.fresh.through s := by
  obtain ⟨hun, hthrough⟩ := unsplit_fresh h
  constructor
  · rw [Bool.eq_iff_iff, unsplit_append, hthrough]
    simp [hun]
  · rw [Mode.through_append, hthrough]

/-- Leading blanks change nothing. -/
theorem unsplit_body (part : List Char) :
    unsplit .fresh part = unsplit .fresh (part.dropWhile isBlank) ∧
      Mode.fresh.through part = Mode.fresh.through (part.dropWhile isBlank) := by
  have hblank : IsBlankRun (part.takeWhile isBlank) :=
    fun c hc => List.all_eq_true.mp List.all_takeWhile c hc
  have hbody := unsplit_blanks hblank (part.dropWhile isBlank)
  rwa [List.takeWhile_append_dropWhile] at hbody

/-- A part that opens a quote goes on in the mode of that quote. -/
theorem unsplit_opening {q : Char} (hq : isQuote q = true) (s : List Char) :
    unsplit .fresh (q :: s) = unsplit (.quoted q) s ∧
      Mode.fresh.through (q :: s) = (Mode.quoted q).through s := by
  have hafter : Mode.fresh.after q = .quoted q := by simp [Mode.after, hq]
  constructor
  · rw [Bool.eq_iff_iff, unsplit_cons, hafter]
    simp [ne_comma_of_isQuote hq]
  · rw [Mode.through_cons, hafter]

/-- A part that starts with another character goes on as plain text. -/
theorem unsplit_starting {c : Char} (hquote : isQuote c = false) (hblank : isBlank c = false)
    (s : List Char) :
    (unsplit .fresh (c :: s) = true ↔ ',' ∉ c :: s) ∧ Mode.fresh.through (c :: s) = .plain := by
  have hafter : Mode.fresh.after c = .plain := by simp [Mode.after, hquote, hblank]
  constructor
  · rw [unsplit_cons, hafter, unsplit_plain_iff]
    simp [Mode.splits, eq_comm]
  · rw [Mode.through_cons, hafter, through_plain]

/-- **A part is closed where no comma splits it and a comma behind it does.** -/
theorem closed_iff {part : List Char} : Closed part ↔ Whole part := by
  unfold Closed Whole
  obtain ⟨hun, hthrough⟩ := unsplit_body part
  have hhead := head_dropWhile_blank part
  rw [hun, hthrough]
  generalize part.dropWhile isBlank = body at hhead ⊢
  cases body with
  | nil => simp [unsplit, Mode.through, Mode.splits]
  | cons c s =>
    by_cases hquote : isQuote c = true
    · obtain ⟨hun, hthrough⟩ := unsplit_opening hquote s
      rw [hun, hthrough]
      constructor
      · rintro (h | ⟨h, _⟩ | ⟨q, stretch, rest, hbody, _, hstretch, hrest⟩)
        · cases h
        · rw [h c rfl] at hquote
          cases hquote
        · obtain ⟨rfl, rfl⟩ := List.cons.inj hbody
          obtain ⟨hun, hthrough⟩ := unsplit_closing hstretch rest
          rw [hun, hthrough, through_plain]
          exact ⟨unsplit_plain_iff.mpr hrest, rfl⟩
      · rintro ⟨hun, hsplits⟩
        by_cases hmem : c ∈ s
        · obtain ⟨stretch, rest, rfl, hstretch⟩ := List.eq_append_cons_of_mem hmem
          rw [(unsplit_closing hstretch rest).1] at hun
          exact .inr (.inr ⟨c, stretch, rest, rfl, hquote, hstretch, unsplit_plain_iff.mp hun⟩)
        · -- an unclosed stretch ends in its quote, where no comma splits
          rw [(unsplit_unclosed hmem).2] at hsplits
          cases hsplits
    · have hquote : isQuote c = false := by simpa using hquote
      obtain ⟨hun, hthrough⟩ := unsplit_starting hquote (hhead c rfl) s
      rw [hun, hthrough]
      constructor
      · rintro (h | ⟨_, hcomma⟩ | ⟨q, _, _, hbody, hq, _⟩)
        · cases h
        · exact ⟨hcomma, rfl⟩
        · obtain ⟨rfl, _⟩ := List.cons.inj hbody
          rw [hquote] at hq
          cases hq
      · rintro ⟨hcomma, _⟩
        refine .inr (.inl ⟨?_, hcomma⟩)
        intro d hd
        cases hd
        exact hquote

/-- **A part is closed or open where no comma splits it.** -/
theorem closed_or_open_iff {part : List Char} :
    Closed part ∨ Open part ↔ unsplit .fresh part = true := by
  constructor
  · rintro (h | ⟨q, stretch, hbody, hq, hstretch⟩)
    · exact (closed_iff.mp h).1
    · rw [(unsplit_body part).1, hbody, (unsplit_opening hq stretch).1]
      exact (unsplit_unclosed hstretch).1
  · intro h
    by_cases hsplits : (Mode.fresh.through part).splits = true
    · exact .inl (closed_iff.mpr ⟨h, hsplits⟩)
    · refine .inr ?_
      rw [(unsplit_body part).2] at hsplits
      have hhead := head_dropWhile_blank part
      unfold Open
      generalize part.dropWhile isBlank = body at hsplits hhead ⊢
      cases body with
      | nil => exact absurd rfl hsplits
      | cons c s =>
        by_cases hquote : isQuote c = true
        · refine ⟨c, s, rfl, hquote, ?_⟩
          intro hmem
          obtain ⟨stretch, rest, rfl, hstretch⟩ := List.eq_append_cons_of_mem hmem
          rw [(unsplit_opening hquote _).2, (unsplit_closing hstretch rest).2, through_plain] at hsplits
          exact hsplits rfl
        · have hquote : isQuote c = false := by simpa using hquote
          rw [(unsplit_starting hquote (hhead c rfl) s).2] at hsplits
          exact absurd rfl hsplits

theorem not_open_of_closed {part : List Char} (h : Closed part) : ¬ Open part := by
  rintro ⟨q, stretch, hbody, hq, hstretch⟩
  have hsplits := (closed_iff.mp h).2
  rw [(unsplit_body part).2, hbody, (unsplit_opening hq stretch).2, (unsplit_unclosed hstretch).2]
    at hsplits
  cases hsplits

/-! ## The parts that the splitting gives -/

/-- The parts are those of a text that is read from the mode: no comma splits one of them, and the comma
behind each but the last does. -/
def Cut : Mode → List (List Char) → Prop
  | _, [] => False
  | m, [part] => unsplit m part = true
  | m, part :: next :: rest =>
    unsplit m part = true ∧ (m.through part).splits = true ∧ Cut .fresh (next :: rest)

theorem splitFrom_intercalate {m : Mode} {parts : List (List Char)} (h : Cut m parts) :
    splitFrom m (List.intercalate [','] parts) = parts := by
  induction parts generalizing m with
  | nil => exact h.elim
  | cons part rest ih =>
    cases rest with
    | nil =>
      rw [List.intercalate_singleton]
      exact splitFrom_last h
    | cons next rest =>
      obtain ⟨hpart, hsplits, hrest⟩ := h
      rw [List.intercalate_cons_cons, List.append_assoc, List.singleton_append,
        splitFrom_comma hpart hsplits, ih hrest]

/-- A character that belongs to the first part can be put in front of it. -/
theorem cut_consHead {m : Mode} {c : Char} (hc : ¬ (c = ',' ∧ m.splits = true))
    {parts : List (List Char)} (h : Cut (m.after c) parts) :
    Cut m (consHead c parts) ∧
      List.intercalate [','] (consHead c parts) = c :: List.intercalate [','] parts := by
  cases parts with
  | nil => exact h.elim
  | cons part rest =>
    cases rest with
    | nil => exact ⟨unsplit_cons.mpr ⟨hc, h⟩, by simp [consHead]⟩
    | cons next rest =>
      obtain ⟨hpart, hsplits, hrest⟩ := h
      refine ⟨⟨unsplit_cons.mpr ⟨hc, hpart⟩, hsplits, hrest⟩, ?_⟩
      rw [consHead, List.intercalate_cons_cons, List.intercalate_cons_cons]
      rfl

theorem cut_splitFrom (m : Mode) (s : List Char) :
    Cut m (splitFrom m s) ∧ List.intercalate [','] (splitFrom m s) = s := by
  -- for every mode, since each character may change it
  induction s generalizing m with
  | nil => exact ⟨rfl, rfl⟩
  | cons c s ih =>
    rw [splitFrom]
    by_cases hc : c = ',' ∧ m.splits = true
    · rw [if_pos hc]
      obtain ⟨hcut, hjoined⟩ := ih .fresh
      obtain ⟨rfl, hsplits⟩ := hc
      cases hparts : splitFrom .fresh s with
      | nil => rw [hparts] at hcut; exact hcut.elim
      | cons part rest =>
        rw [hparts] at hcut hjoined
        refine ⟨⟨rfl, hsplits, hcut⟩, ?_⟩
        rw [List.intercalate_cons_cons, hjoined]
        rfl
    · rw [if_neg hc]
      obtain ⟨hcut, hjoined⟩ := ih (m.after c)
      obtain ⟨hcut, hcons⟩ := cut_consHead hc hcut
      exact ⟨hcut, hcons.trans (congrArg (c :: ·) hjoined)⟩

/-- **What the splitting gives from a mode.** -/
theorem splitFrom_eq_iff {m : Mode} {s : List Char} {parts : List (List Char)} :
    parts = splitFrom m s ↔ Cut m parts ∧ List.intercalate [','] parts = s := by
  constructor
  · rintro rfl
    exact cut_splitFrom m s
  · rintro ⟨hcut, rfl⟩
    exact (splitFrom_intercalate hcut).symm

theorem cut_fresh_iff {parts : List (List Char)} :
    Cut .fresh parts ↔ parts ≠ [] ∧ (∀ part ∈ parts.dropLast, Closed part) ∧
      ∀ part ∈ parts.getLast?, Closed part ∨ Open part := by
  induction parts with
  | nil => simp [Cut]
  | cons part rest ih =>
    cases rest with
    | nil =>
      rw [Cut, ← closed_or_open_iff]
      simp
    | cons next rest =>
      rw [Cut, ih, ← and_assoc]
      have hwhole : (unsplit .fresh part = true ∧ (Mode.fresh.through part).splits = true) ↔
          Closed part := closed_iff.symm
      rw [hwhole, List.dropLast_cons_cons, List.forall_mem_cons, List.getLast?_cons_cons]
      simp [and_assoc]

theorem divides_iff {s : List Char} {parts : List (List Char)} :
    Divides s parts ↔ parts = split s := by
  rw [split, splitFrom_eq_iff, cut_fresh_iff]
  constructor
  · rintro ⟨hne, hjoined, hclosed, hlast⟩
    exact ⟨⟨hne, hclosed, hlast⟩, hjoined⟩
  · rintro ⟨⟨hne, hclosed, hlast⟩, hjoined⟩
    exact ⟨hne, hjoined, hclosed, hlast⟩

/-- A part that starts with no quote is plain text. -/
theorem comma_not_mem {part : List Char} (h : unsplit .fresh part = true)
    (hstart : ∀ c ∈ (part.dropWhile isBlank).head?, isQuote c = false) : ',' ∉ part := by
  have hblank : ',' ∉ part.takeWhile isBlank := by
    intro hmem
    exact ne_comma_of_isBlank (List.all_eq_true.mp List.all_takeWhile ',' hmem) rfl
  have hbody : ',' ∉ part.dropWhile isBlank := by
    rw [(unsplit_body part).1] at h
    have hhead := head_dropWhile_blank part
    generalize part.dropWhile isBlank = body at h hhead hstart ⊢
    cases body with
    | nil => simp
    | cons c s => exact (unsplit_starting (hstart c rfl) (hhead c rfl) s).1.mp h
  rw [← List.takeWhile_append_dropWhile (p := isBlank) (l := part), List.mem_append]
  exact not_or_intro hblank hbody

/-- **Every text has exactly one division, and the splitting gives it.** Joined by commas its parts are
the text; a part that starts with no quote has no comma, whatever quotes it has; and a part that opens a
quote and does not close it is the last. -/
theorem split_unique (s : List Char) :
    (∀ parts, Divides s parts ↔ parts = split s) ∧
      List.intercalate [','] (split s) = s ∧
      (∀ part ∈ split s, (∀ c ∈ (part.dropWhile isBlank).head?, isQuote c = false) → ',' ∉ part) ∧
      ∀ before part after, split s = before ++ part :: after → Open part → after = [] := by
  obtain ⟨_, hjoined, hclosed, hlast⟩ := divides_iff.mpr (rfl : split s = split s)
  refine ⟨fun parts => divides_iff, hjoined, ?_, ?_⟩
  · intro part hpart hstart
    refine comma_not_mem (closed_or_open_iff.mp ?_) hstart
    obtain ⟨before, after, hparts⟩ := List.append_of_mem hpart
    rw [hparts] at hclosed hlast
    cases after with
    | nil => exact hlast part (by simp)
    | cons next rest => exact .inl (hclosed part (by simp))
  · intro before part after hparts hopen
    rw [hparts] at hclosed
    cases after with
    | nil => rfl
    | cons next rest => exact absurd hopen (not_open_of_closed (hclosed part (by simp)))

/-- The apostrophe inside a word opens nothing, the first quoted stretch keeps its comma, and the second
is not closed and runs to the end. -/
example : (split "it's, 'a,b' c, \"d,e".toList).map String.ofList = ["it's", " 'a,b' c", " \"d,e"] := by
  cbv

end FormLine.Arguments
