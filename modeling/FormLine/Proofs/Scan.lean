import FormLine.Token.Chunk
/-!
# Steps of the scan

The scan of a text, said once for each kind of stretch it can meet: a gap is skipped (`ofChars_gap`),
a name that a group follows is a chunk with that group (`ofChars_group`), and a name that no group
follows is a chunk of its own (`ofChars_bare`). What a group is, is said apart from the search for it:
`closed?_eq_some_iff` and `closed?_eq_none_iff` tell exactly when the search for the closing
parenthesis succeeds. Everything proved of the scan elsewhere is proved from these statements.
-/

namespace FormLine.Chunk

/-- No character of the text can stand in a name. -/
def IsGap (s : List Char) : Prop := ∀ c ∈ s, isNameChar c = false

/-- The text is not empty and all its characters can stand in a name. -/
def IsName (s : List Char) : Prop := s ≠ [] ∧ ∀ c ∈ s, isNameChar c = true

/-- The text can stand between the parentheses of a group. -/
def IsSpan (s : List Char) : Prop := ∀ c ∈ s, c ≠ ')' ∧ isLineBreak c = false

/-- The text up to its first line break. -/
def line (s : List Char) : List Char := s.takeWhile fun c => !isLineBreak c

/-- The text does not start with a group: where it starts with an opening parenthesis, no closing one
follows on the line. -/
def StartsNoGroup (s : List Char) : Prop := ∀ inner, s = '(' :: inner → ')' ∉ line inner

/-- No name character is at the start of the text. -/
def StartsNoName (s : List Char) : Prop := ∀ c ∈ s.head?, isNameChar c = false

instance (s : List Char) : Decidable (IsGap s) :=
  List.decidableBAll (fun c => isNameChar c = false) s

instance (s : List Char) : Decidable (IsName s) :=
  have := List.decidableBAll (fun c => isNameChar c = true) s
  instDecidableAnd

instance (s : List Char) : Decidable (IsSpan s) :=
  List.decidableBAll (fun c => c ≠ ')' ∧ isLineBreak c = false) s

/-! ## Gaps, names and spans -/

theorem isGap_nil : IsGap [] := by intro c hc; simp at hc

theorem isSpan_nil : IsSpan [] := by intro c hc; simp at hc

theorem isGap_cons {c : Char} {s : List Char} :
    IsGap (c :: s) ↔ isNameChar c = false ∧ IsGap s := by
  simp [IsGap]

theorem isSpan_cons {c : Char} {s : List Char} :
    IsSpan (c :: s) ↔ (c ≠ ')' ∧ isLineBreak c = false) ∧ IsSpan s := by
  simp [IsSpan]

theorem isSpan_append {s t : List Char} : IsSpan (s ++ t) ↔ IsSpan s ∧ IsSpan t := by
  simp only [IsSpan, List.forall_mem_append]

theorem IsName.exists_cons {s : List Char} (h : IsName s) :
    ∃ c rest, s = c :: rest ∧ isNameChar c = true ∧ ∀ x ∈ rest, isNameChar x = true := by
  obtain ⟨hne, hall⟩ := h
  cases s with
  | nil => exact absurd rfl hne
  | cons c rest =>
    exact ⟨c, rest, rfl, hall c List.mem_cons_self, fun x hx => hall x (List.mem_cons_of_mem c hx)⟩

theorem isNameChar_open : isNameChar '(' = false := by decide

theorem isLineBreak_close : isLineBreak ')' = false := by decide

theorem startsNoName_nil : StartsNoName [] := by intro c hc; simp at hc

theorem startsNoName_cons {c : Char} {s : List Char} :
    StartsNoName (c :: s) ↔ isNameChar c = false := by
  simp [StartsNoName]

theorem startsNoName_append {g s : List Char} (hg : IsGap g) (h : g = [] → StartsNoName s) :
    StartsNoName (g ++ s) := by
  cases g with
  | nil => exact h rfl
  | cons c g => exact startsNoName_cons.mpr (isGap_cons.mp hg).1

/-- What is left when a run of name characters has been taken starts with none. -/
theorem startsNoName_dropWhile (s : List Char) : StartsNoName (s.dropWhile isNameChar) := by
  intro c hc
  have := List.head?_dropWhile_not isNameChar s
  rw [Option.mem_def.mp hc] at this
  simpa using this

theorem startsNoGroup_nil : StartsNoGroup [] := by intro inner h; simp at h

theorem startsNoGroup_cons {c : Char} {s : List Char} (hc : c ≠ '(') : StartsNoGroup (c :: s) := by
  intro inner h
  exact absurd (List.cons.inj h).1 hc

/-! ## Groups -/

/-- The search for the closing parenthesis succeeds where a span and a closing parenthesis follow. -/
theorem closed?_of_isSpan {text : List Char} (h : IsSpan text) (after : List Char) :
    closed? (text ++ ')' :: after) = some (text, after) := by
  induction text with
  | nil => simp [closed?]
  | cons c rest ih =>
    obtain ⟨⟨hc, hb⟩, hrest⟩ := isSpan_cons.mp h
    simp [closed?, hc, hb, ih hrest]

theorem isSpan_of_closed? {s text after : List Char} (h : closed? s = some (text, after)) :
    IsSpan text ∧ s = text ++ ')' :: after := by
  induction s generalizing text with
  | nil => simp [closed?] at h
  | cons c rest ih =>
    simp only [closed?] at h
    split at h
    · -- the group ends here
      rename_i hc
      cases h
      exact ⟨by intro x hx; simp at hx, by rw [hc]; rfl⟩
    · split at h
      · simp at h
      · -- the group goes on
        rename_i hc hb
        obtain ⟨⟨t, a⟩, ht, hta⟩ := Option.map_eq_some_iff.mp h
        cases hta
        obtain ⟨hspan, hrest⟩ := ih ht
        refine ⟨isSpan_cons.mpr ⟨⟨hc, by simpa using hb⟩, hspan⟩, ?_⟩
        rw [hrest]; rfl

/-- The search stops at the first closing parenthesis and crosses no line break. -/
theorem closed?_eq_some_iff {s text after : List Char} :
    closed? s = some (text, after) ↔ IsSpan text ∧ s = text ++ ')' :: after := by
  refine ⟨isSpan_of_closed?, ?_⟩
  intro h
  obtain ⟨hspan, rfl⟩ := h
  exact closed?_of_isSpan hspan after

/-- The search fails exactly when the line holds no closing parenthesis. -/
theorem closed?_eq_none_iff {s : List Char} : closed? s = none ↔ ')' ∉ line s := by
  induction s with
  | nil => simp [closed?, line]
  | cons c rest ih =>
    by_cases hc : c = ')'
    · subst hc
      simp [closed?, line, isLineBreak_close]
    · cases hb : isLineBreak c
      · have hc' : ¬ ')' = c := fun h => hc h.symm
        simpa [closed?, line, hc, hc', hb] using ih
      · simp [closed?, line, hc, hb]

theorem group?_eq_some_iff {s text after : List Char} :
    group? s = some (text, after) ↔ IsSpan text ∧ s = '(' :: text ++ ')' :: after := by
  unfold group?
  split
  · rw [closed?_eq_some_iff]; simp
  · rename_i hopen
    refine ⟨fun h => absurd h (by simp), ?_⟩
    intro h
    obtain ⟨_, rfl⟩ := h
    exact absurd rfl (hopen _)

theorem group?_eq_none_iff {s : List Char} : group? s = none ↔ StartsNoGroup s := by
  unfold group?
  split
  · rw [closed?_eq_none_iff]; simp [StartsNoGroup]
  · rename_i hopen
    simp only [true_iff]
    intro inner h
    exact absurd h (hopen inner)

/-! ## The scan at a gap, at a bare name and at a name with its group -/

theorem ofChars_nil : ofChars [] = [] := by rw [ofChars]

theorem ofChars_skip {c : Char} (hc : isNameChar c = false) (rest : List Char) :
    ofChars (c :: rest) = ofChars rest := by
  rw [ofChars]; simp [hc]

/-- A gap leaves no chunk. -/
theorem ofChars_gap {g : List Char} (hg : IsGap g) (s : List Char) :
    ofChars (g ++ s) = ofChars s := by
  induction g with
  | nil => rfl
  | cons c g ih =>
    obtain ⟨hc, hg⟩ := isGap_cons.mp hg
    rw [List.cons_append, ofChars_skip hc, ih hg]

theorem takeWhile_name {w s : List Char} (hw : ∀ c ∈ w, isNameChar c = true)
    (hs : StartsNoName s) : (w ++ s).takeWhile isNameChar = w := by
  rw [List.takeWhile_append_of_pos hw]
  cases s with
  | nil => simp
  | cons c s => simp [hs c rfl]

theorem dropWhile_name {w s : List Char} (hw : ∀ c ∈ w, isNameChar c = true)
    (hs : StartsNoName s) : (w ++ s).dropWhile isNameChar = s := by
  rw [List.dropWhile_append_of_pos hw]
  cases s with
  | nil => rfl
  | cons c s => simp [hs c rfl]

/-- A name that no group follows is a chunk without a group. -/
theorem ofChars_bare {w s : List Char} (hw : IsName w) (hs : StartsNoName s)
    (hg : StartsNoGroup s) : ofChars (w ++ s) = ⟨w, none⟩ :: ofChars s := by
  obtain ⟨c, rest, rfl, hc, hrest⟩ := hw.exists_cons
  have htake := takeWhile_name hrest hs
  have hdrop := dropWhile_name hrest hs
  have hgroup := group?_eq_none_iff.mpr hg
  rw [List.cons_append, ofChars]
  simp only [hc, if_true, htake]
  -- The scan remembers which group it found, so its match is split before it is rewritten.
  split
  · rename_i h
    rw [hdrop, hgroup] at h
    simp at h
  · rw [hdrop]

/-- A name that a group follows is a chunk with that group. -/
theorem ofChars_group {w text : List Char} (hw : IsName w) (ht : IsSpan text) (s : List Char) :
    ofChars (w ++ ('(' :: text ++ ')' :: s)) = ⟨w, some text⟩ :: ofChars s := by
  obtain ⟨c, rest, rfl, hc, hrest⟩ := hw.exists_cons
  have hopen : StartsNoName ('(' :: text ++ ')' :: s) := startsNoName_cons.mpr isNameChar_open
  have htake := takeWhile_name hrest hopen
  have hdrop := dropWhile_name hrest hopen
  have hgroup := group?_eq_some_iff.mpr ⟨ht, (rfl : '(' :: text ++ ')' :: s = _)⟩
  rw [List.cons_append, ofChars]
  simp only [hc, if_true, htake]
  split
  · rename_i h
    rw [hdrop, hgroup] at h
    cases h
    rfl
  · rename_i h
    rw [hdrop, hgroup] at h
    simp at h

end FormLine.Chunk
