import FormLine.Token.Arguments
/-!
# Trimming and quotes

Trimming and the removal of one layer of quotes, each said as a relation between a text and what is left
of it. `trimmed_iff` and `unquoted_iff` say that the two functions compute these relations, so each text
has exactly one result. `trimChars_padded` and `unquoteChars_quoted` are the two directions a writer
needs: blank padding is dropped and the quotes around a value are, and nothing else.
-/

namespace FormLine.Text

/-- All characters of the text are blank. -/
def IsBlankRun (s : List Char) : Prop := ∀ c ∈ s, isBlank c = true

instance (s : List Char) : Decidable (IsBlankRun s) :=
  List.decidableBAll (fun c => isBlank c = true) s

/-- `t` is `s` without the blank characters at both ends. -/
structure Trimmed (s t : List Char) : Prop where
  padded : ∃ before after, IsBlankRun before ∧ IsBlankRun after ∧ s = before ++ (t ++ after)
  start : ∀ c ∈ t.head?, isBlank c = false
  finish : ∀ c ∈ t.getLast?, isBlank c = false

theorem isBlankRun_nil : IsBlankRun [] := by intro c hc; simp at hc

theorem isBlankText_iff {s : List Char} : isBlankText s = true ↔ IsBlankRun s := List.all_eq_true

/-- Nothing is dropped from a text that starts with no character of the kind. -/
theorem dropWhile_start {p : Char → Bool} {t : List Char} (h : ∀ c ∈ t.head?, p c = false) :
    t.dropWhile p = t := by
  cases t with
  | nil => rfl
  | cons c t => simp [h c rfl]

theorem dropWhile_isBlankRun {s : List Char} (h : IsBlankRun s) : s.dropWhile isBlank = [] := by
  have hdrop : (s ++ []).dropWhile isBlank = [] := List.dropWhile_append_of_pos h
  rwa [List.append_nil] at hdrop

/-- What dropping blank characters leaves starts with none. -/
theorem head_dropWhile_blank (s : List Char) :
    ∀ c ∈ (s.dropWhile isBlank).head?, isBlank c = false := by
  intro c hc
  have := List.head?_dropWhile_not isBlank s
  rw [Option.mem_def.mp hc] at this
  simpa using this

theorem trimEndChars_padded {t after : List Char} (hafter : IsBlankRun after)
    (h : ∀ c ∈ t.getLast?, isBlank c = false) : trimEndChars (t ++ after) = t := by
  have hrun : ∀ c ∈ after.reverse, isBlank c = true := fun c hc => hafter c (List.mem_reverse.mp hc)
  have hlast : ∀ c ∈ t.reverse.head?, isBlank c = false := by
    rw [List.head?_reverse]
    exact h
  rw [trimEndChars, List.reverse_append, List.dropWhile_append_of_pos hrun, dropWhile_start hlast,
    List.reverse_reverse]

theorem trimEndChars_nil : trimEndChars [] = [] := rfl

/-- Blank padding is dropped and nothing else. -/
theorem Trimmed.trimChars_eq {s t : List Char} (h : Trimmed s t) : trimChars s = t := by
  obtain ⟨⟨before, after, hbefore, hafter, rfl⟩, hstart, hfinish⟩ := h
  rw [trimChars, List.dropWhile_append_of_pos hbefore]
  cases t with
  | nil => rw [List.nil_append, dropWhile_isBlankRun hafter, trimEndChars_nil]
  | cons c t =>
    rw [dropWhile_start (by simpa using hstart)]
    exact trimEndChars_padded hafter hfinish

theorem trimEndChars_append (s : List Char) : ∃ after, IsBlankRun after ∧ s = trimEndChars s ++ after := by
  refine ⟨(s.reverse.takeWhile isBlank).reverse, ?_, ?_⟩
  · intro c hc
    exact List.all_eq_true.mp List.all_takeWhile c (List.mem_reverse.mp hc)
  · rw [trimEndChars, ← List.reverse_append, List.takeWhile_append_dropWhile, List.reverse_reverse]

theorem trimmed_trimChars (s : List Char) : Trimmed s (trimChars s) := by
  obtain ⟨after, hafter, hs⟩ := trimEndChars_append (s.dropWhile isBlank)
  refine ⟨⟨s.takeWhile isBlank, after, ?_, hafter, ?_⟩, ?_, ?_⟩
  · exact fun c hc => List.all_eq_true.mp List.all_takeWhile c hc
  · rw [trimChars, ← hs, List.takeWhile_append_dropWhile]
  · -- The end was dropped after the start, so what is left still starts as it did.
    intro c hc
    refine head_dropWhile_blank s c ?_
    rw [hs]
    cases ht : trimEndChars (s.dropWhile isBlank) with
    | nil => rw [trimChars, ht] at hc; simp at hc
    | cons d t => rw [trimChars, ht] at hc; simpa using hc
  · intro c hc
    refine head_dropWhile_blank (s.dropWhile isBlank).reverse c ?_
    rw [trimChars, trimEndChars, List.getLast?_reverse] at hc
    exact hc

/-- **Trimming drops the blank characters at both ends and nothing else.** -/
theorem trimmed_iff {s t : List Char} : Trimmed s t ↔ t = trimChars s := by
  refine ⟨fun h => h.trimChars_eq.symm, ?_⟩
  intro h
  subst h
  exact trimmed_trimChars s

end FormLine.Text

namespace FormLine.Arguments
open Text

/-- `r` is `t` without one layer of quotes, where `t` has one. -/
def Unquoted (t r : List Char) : Prop :=
  (∃ q, isQuote q = true ∧ t = q :: (r ++ [q])) ∨
    (¬ ∃ q m, isQuote q = true ∧ t = q :: (m ++ [q])) ∧ r = t

theorem isQuote_iff {c : Char} : isQuote c = true ↔ c = '\'' ∨ c = '"' := by simp [isQuote]

theorem isQuote_apostrophe : isQuote '\'' = true := isQuote_iff.mpr (.inl rfl)

theorem isQuote_doubleQuote : isQuote '"' = true := isQuote_iff.mpr (.inr rfl)

theorem isBlank_of_isQuote {q : Char} (h : isQuote q = true) : isBlank q = false := by
  rcases isQuote_iff.mp h with rfl | rfl <;> decide

theorem unquoteChars_quoted {q : Char} (h : isQuote q = true) (v : List Char) :
    unquoteChars (q :: (v ++ [q])) = v := by
  simp [unquoteChars, h]

theorem unquoteChars_of_not_quoted {t : List Char}
    (h : ¬ ∃ q m, isQuote q = true ∧ t = q :: (m ++ [q])) : unquoteChars t = t := by
  cases t with
  | nil => rfl
  | cons q rest =>
    rw [unquoteChars, if_neg]
    intro hquoted
    obtain ⟨hq, hlast⟩ := hquoted
    obtain ⟨m, rfl⟩ := List.getLast?_eq_some_iff.mp hlast
    exact h ⟨q, m, hq, rfl⟩

/-- **One layer of quotes is dropped where there is one, and nothing else.** -/
theorem unquoted_iff {t r : List Char} : Unquoted t r ↔ r = unquoteChars t := by
  refine ⟨?_, ?_⟩
  · intro h
    rcases h with ⟨q, hq, rfl⟩ | ⟨hnot, rfl⟩
    · exact (unquoteChars_quoted hq r).symm
    · exact (unquoteChars_of_not_quoted hnot).symm
  · intro h
    subst h
    by_cases h : ∃ q m, isQuote q = true ∧ t = q :: (m ++ [q])
    · obtain ⟨q, m, hq, rfl⟩ := h
      rw [unquoteChars_quoted hq]
      exact .inl ⟨q, hq, rfl⟩
    · rw [unquoteChars_of_not_quoted h]
      exact .inr ⟨h, rfl⟩

/-- A value in quotes is trimmed of the padding around the quotes and of nothing inside them. -/
theorem trimChars_padded {q : Char} (hq : isQuote q = true) {before after : List Char}
    (hbefore : IsBlankRun before) (hafter : IsBlankRun after) (v : List Char) :
    trimChars (before ++ (q :: (v ++ [q]) ++ after)) = q :: (v ++ [q]) := by
  refine Trimmed.trimChars_eq ⟨⟨before, after, hbefore, hafter, rfl⟩, ?_, ?_⟩
  · intro c hc
    have hc : q = c := by simpa using hc
    exact hc ▸ isBlank_of_isQuote hq
  · intro c hc
    rw [← List.cons_append, List.getLast?_concat] at hc
    have hc : q = c := by simpa using hc
    exact hc ▸ isBlank_of_isQuote hq

end FormLine.Arguments
