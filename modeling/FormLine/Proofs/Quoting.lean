import FormLine.Proofs.Scan
import FormLine.Proofs.Trim
/-!
# Arguments in quotes

How a list of values is written as the text of a group, each value between quotes and with blank padding
around them, and what reading the group makes of it. A value need not be free of the quote it stands
between: it is enough that no comma follows a quote of that kind inside it (`Sealed`), for the part goes
on as plain text there. The steps, in the order in which a group is read:

1. `split_intercalate` — a text joined by commas from whole parts is split into these parts;
2. `whole_text` — a sealed value in quotes is a whole part;
3. `ofPart_text` — trimming and unquoting leave the value as it was;
4. `ofGroup_joined` — so the values are read back, none lost, merged, split or trimmed.
-/

namespace FormLine.Arguments
open Text Chunk

/-! ## Parts that no comma splits -/

/-- Read from the mode, no comma of the text splits. -/
def unsplit : Mode → List Char → Bool
  | _, [] => true
  | m, c :: rest => !(c == ',' && m.splits) && unsplit (m.after c) rest

/-- The mode after a text. -/
def Mode.through (m : Mode) (s : List Char) : Mode := s.foldl Mode.after m

/-- The text is one part and a comma behind it splits. -/
def Whole (part : List Char) : Prop :=
  unsplit .fresh part = true ∧ (Mode.fresh.through part).splits = true

theorem Mode.through_cons (m : Mode) (c : Char) (s : List Char) :
    m.through (c :: s) = (m.after c).through s := rfl

theorem Mode.through_append (m : Mode) (s t : List Char) :
    m.through (s ++ t) = (m.through s).through t := List.foldl_append

theorem unsplit_cons {m : Mode} {c : Char} {s : List Char} :
    unsplit m (c :: s) = true ↔ ¬ (c = ',' ∧ m.splits = true) ∧ unsplit (m.after c) s = true := by
  by_cases hc : c = ','
  · simp [unsplit, hc]
  · simp [unsplit, hc]

theorem unsplit_append {m : Mode} {s t : List Char} :
    unsplit m (s ++ t) = true ↔ unsplit m s = true ∧ unsplit (m.through s) t = true := by
  induction s generalizing m with
  | nil => simp [unsplit, Mode.through]
  | cons c s ih =>
    rw [List.cons_append, unsplit_cons, unsplit_cons, ih, Mode.through_cons, and_assoc]

/-- What no comma splits is the last part. -/
theorem splitFrom_last {m : Mode} {s : List Char} (h : unsplit m s = true) : splitFrom m s = [s] := by
  induction s generalizing m with
  | nil => rfl
  | cons c s ih =>
    obtain ⟨hc, hs⟩ := unsplit_cons.mp h
    rw [splitFrom, if_neg hc, ih hs]
    rfl

/-- A part ends at a comma that splits, and the next one starts fresh. -/
theorem splitFrom_comma {m : Mode} {s : List Char} (h : unsplit m s = true)
    (hm : (m.through s).splits = true) (rest : List Char) :
    splitFrom m (s ++ ',' :: rest) = s :: splitFrom .fresh rest := by
  induction s generalizing m with
  | nil =>
    have hm : m.splits = true := hm
    rw [List.nil_append, splitFrom, if_pos ⟨rfl, hm⟩]
  | cons c s ih =>
    obtain ⟨hc, hs⟩ := unsplit_cons.mp h
    rw [List.cons_append, splitFrom, if_neg hc, ih hs hm]
    rfl

/-- **Whole parts joined by commas are split into the same parts.** -/
theorem split_intercalate {parts : List (List Char)} (hne : parts ≠ []) (h : ∀ p ∈ parts, Whole p) :
    split (List.intercalate [','] parts) = parts := by
  induction parts with
  | nil => exact absurd rfl hne
  | cons p rest ih =>
    obtain ⟨hp, hsplits⟩ := h p List.mem_cons_self
    cases rest with
    | nil =>
      rw [List.intercalate_singleton]
      exact splitFrom_last hp
    | cons q rest =>
      have ih := ih (List.cons_ne_nil q rest) fun r hr => h r (List.mem_cons_of_mem p hr)
      rw [List.intercalate_cons_cons, List.append_assoc, List.singleton_append, split,
        splitFrom_comma hp hsplits]
      exact congrArg (p :: ·) ih

/-! ## A sealed value in quotes is a whole part -/

/-- No comma of the value follows a quote of the kind `q`. -/
def Sealed (q : Char) (v : List Char) : Prop := ',' ∉ v.dropWhile (· != q)

instance (q : Char) (v : List Char) : Decidable (Sealed q v) := inferInstanceAs (Decidable (¬ _))

theorem ne_comma_of_isQuote {q : Char} (h : isQuote q = true) : q ≠ ',' := by
  intro hq
  subst hq
  exact absurd h (by decide)

theorem ne_comma_of_isBlank {c : Char} (h : isBlank c = true) : c ≠ ',' := by
  intro hc
  subst hc
  exact absurd h (by decide)

theorem unsplit_plain {s : List Char} (h : ',' ∉ s) :
    unsplit .plain s = true ∧ Mode.plain.through s = .plain := by
  induction s with
  | nil => exact ⟨rfl, rfl⟩
  | cons c s ih =>
    rw [List.mem_cons, not_or] at h
    obtain ⟨hc, hs⟩ := h
    obtain ⟨hun, hthrough⟩ := ih hs
    exact ⟨unsplit_cons.mpr ⟨fun hcomma => hc hcomma.1.symm, hun⟩, hthrough⟩

theorem unsplit_fresh {s : List Char} (h : IsBlankRun s) :
    unsplit .fresh s = true ∧ Mode.fresh.through s = .fresh := by
  induction s with
  | nil => exact ⟨rfl, rfl⟩
  | cons c s ih =>
    have hc : isBlank c = true := h c List.mem_cons_self
    have hquote : isQuote c = false := by
      cases hq : isQuote c
      · rfl
      · rw [isBlank_of_isQuote hq] at hc
        exact hc.symm
    have hafter : Mode.fresh.after c = .fresh := by simp [Mode.after, hquote, hc]
    obtain ⟨hun, hthrough⟩ := ih fun x hx => h x (List.mem_cons_of_mem c hx)
    rw [unsplit_cons, Mode.through_cons, hafter]
    exact ⟨⟨fun hcomma => ne_comma_of_isBlank hc hcomma.1, hun⟩, hthrough⟩

/-- From an open quote, a sealed value and the closing quote are read without a split, and the part is
plain behind them: the quote is closed at its first occurrence, and no comma comes after that. -/
theorem unsplit_quoted {q : Char} {v : List Char} (h : Sealed q v) :
    unsplit (.quoted q) (v ++ [q]) = true ∧ (Mode.quoted q).through (v ++ [q]) = .plain := by
  induction v with
  | nil => simp [unsplit, Mode.splits, Mode.through, Mode.after]
  | cons c v ih =>
    rw [List.cons_append, unsplit_cons, Mode.through_cons]
    by_cases hc : c = q
    · -- the value holds the quote here, and what follows in it is read as plain text
      subst hc
      have hafter : (Mode.quoted c).after c = .plain := by simp [Mode.after]
      have hcomma : ',' ∉ v ++ [c] := by
        simp [Sealed] at h
        simpa [and_comm] using h
      obtain ⟨hun, hthrough⟩ := unsplit_plain hcomma
      rw [hafter]
      exact ⟨⟨by simp [Mode.splits], hun⟩, hthrough⟩
    · have hafter : (Mode.quoted q).after c = .quoted q := by simp [Mode.after, hc]
      have hv : Sealed q v := by simpa [Sealed, hc] using h
      obtain ⟨hun, hthrough⟩ := ih hv
      rw [hafter]
      exact ⟨⟨by simp [Mode.splits], hun⟩, hthrough⟩

/-! ## Parts as they are written -/

/-- The text is blank and stays on the line. -/
def IsPadding (s : List Char) : Prop := ∀ c ∈ s, isBlank c = true ∧ isLineBreak c = false

instance (s : List Char) : Decidable (IsPadding s) :=
  List.decidableBAll (fun c => isBlank c = true ∧ isLineBreak c = false) s

/-- A value with the quote that it is written between and sealed for. -/
structure QuotedText where
  value : String
  quote : Char
  isQuote_quote : isQuote quote = true
  isSealed : Sealed quote value.toList
  isSpan_value : IsSpan value.toList

/-- A value in quotes as it is written in a group, with padding on both sides. -/
structure QuotedPart extends QuotedText where
  before : List Char
  after : List Char
  isPadding_before : IsPadding before
  isPadding_after : IsPadding after

/-- The part as it is written. -/
def QuotedPart.text (p : QuotedPart) : List Char :=
  p.before ++ (p.quote :: (p.value.toList ++ [p.quote]) ++ p.after)

theorem IsPadding.isBlankRun {s : List Char} (h : IsPadding s) : IsBlankRun s :=
  fun c hc => (h c hc).1

theorem IsPadding.isSpan {s : List Char} (h : IsPadding s) : IsSpan s := by
  intro c hc
  obtain ⟨hblank, hbreak⟩ := h c hc
  refine ⟨?_, hbreak⟩
  intro hclose
  subst hclose
  exact absurd hblank (by decide)

theorem isSpan_quote {q : Char} (h : isQuote q = true) : IsSpan [q] := by
  rcases isQuote_iff.mp h with rfl | rfl <;> decide

/-- A sealed value in quotes is a whole part. -/
theorem whole_text (p : QuotedPart) : Whole p.text := by
  obtain ⟨hbefore, hfresh⟩ := unsplit_fresh p.isPadding_before.isBlankRun
  obtain ⟨hvalue, hplain⟩ := unsplit_quoted p.isSealed
  have hopen : Mode.fresh.after p.quote = .quoted p.quote := by simp [Mode.after, p.isQuote_quote]
  have hnot : ¬ (p.quote = ',' ∧ Mode.fresh.splits = true) :=
    fun h => ne_comma_of_isQuote p.isQuote_quote h.1
  have hcomma : ',' ∉ p.after := fun h => ne_comma_of_isBlank (p.isPadding_after ',' h).1 rfl
  obtain ⟨hafter, hend⟩ := unsplit_plain hcomma
  -- Fresh over the padding, quoted up to the first quote of its kind, plain from there to the end.
  refine ⟨?_, ?_⟩
  · rw [QuotedPart.text, unsplit_append, hfresh, List.cons_append, unsplit_cons, hopen, unsplit_append,
      hplain]
    exact ⟨hbefore, hnot, hvalue, hafter⟩
  · rw [QuotedPart.text, Mode.through_append, hfresh, List.cons_append, Mode.through_cons, hopen,
      Mode.through_append, hplain, hend]
    rfl

theorem ofPart_text (p : QuotedPart) : ofPart p.text = p.value := by
  rw [ofPart, QuotedPart.text, trimChars_padded p.isQuote_quote p.isPadding_before.isBlankRun
    p.isPadding_after.isBlankRun, unquoteChars_quoted p.isQuote_quote, String.ofList_toList]

theorem isSpan_text (p : QuotedPart) : IsSpan p.text := by
  rw [QuotedPart.text, isSpan_append, isSpan_append, ← List.singleton_append, isSpan_append,
    isSpan_append]
  have hquote := isSpan_quote p.isQuote_quote
  exact ⟨p.isPadding_before.isSpan, ⟨hquote, p.isSpan_value, hquote⟩, p.isPadding_after.isSpan⟩

/-- The text of a group with the parts. -/
def joined (parts : List QuotedPart) : List Char := List.intercalate [','] (parts.map QuotedPart.text)

theorem isSpan_intercalate {parts : List (List Char)} (h : ∀ p ∈ parts, IsSpan p) :
    IsSpan (List.intercalate [','] parts) := by
  induction parts with
  | nil => exact isSpan_nil
  | cons p rest ih =>
    have hp := h p List.mem_cons_self
    cases rest with
    | nil =>
      rw [List.intercalate_singleton]
      exact hp
    | cons q rest =>
      have ih := ih fun r hr => h r (List.mem_cons_of_mem p hr)
      rw [List.intercalate_cons_cons, isSpan_append, isSpan_append]
      exact ⟨⟨hp, by decide⟩, ih⟩

theorem isSpan_joined (parts : List QuotedPart) : IsSpan (joined parts) := by
  refine isSpan_intercalate ?_
  intro text htext
  obtain ⟨p, _, rfl⟩ := List.mem_map.mp htext
  exact isSpan_text p

theorem isBlankText_joined (p : QuotedPart) (rest : List QuotedPart) :
    isBlankText (joined (p :: rest)) = false := by
  have hmem : p.quote ∈ joined (p :: rest) := by
    have htext : p.quote ∈ p.text := by simp [QuotedPart.text]
    cases rest with
    | nil => simpa [joined] using htext
    | cons q rest => simp [joined, List.intercalate_cons_cons, htext]
  cases h : isBlankText (joined (p :: rest)) with
  | false => rfl
  | true =>
    have hblank := List.all_eq_true.mp h p.quote hmem
    rw [isBlank_of_isQuote p.isQuote_quote] at hblank
    exact hblank.symm

/-- **The values of a group in quotes are read back.** -/
theorem ofGroup_joined (p : QuotedPart) (rest : List QuotedPart) :
    ofGroup (joined (p :: rest)) = (p :: rest).map (·.value) := by
  have hwhole : ∀ text ∈ (p :: rest).map QuotedPart.text, Whole text := by
    intro text htext
    obtain ⟨q, _, rfl⟩ := List.mem_map.mp htext
    exact whole_text q
  rw [ofGroup, isBlankText_joined, if_neg Bool.false_ne_true, joined,
    split_intercalate (by simp) hwhole, List.map_map]
  exact List.map_congr_left fun q _ => ofPart_text q

theorem ofGroup_blank {s : List Char} (h : IsBlankRun s) : ofGroup s = [] := by
  have hblank : isBlankText s = true := List.all_eq_true.mpr h
  rw [ofGroup, if_pos hblank]

end FormLine.Arguments
