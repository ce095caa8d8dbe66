import FormLine.Field.Report
import FormLine.Proofs.Quoting
import FormLine.Proofs.Words
/-!
# Writing a record as a specification

Every consistent record of a field can be written as a specification that says exactly this record. The
component is written by its name, with its arguments in quotes where it has any; the label, the
description and a text as default stand between two pairs of quotes of different kinds, for reading an
argument drops one pair and reading a text drops another; yes and no are written as words.

The writing is a list of words, each with the text of its group (`Writing.words`), and the proof follows
the reading: `Words.ofText_text` for the scan, `Words.argsOf_tokens` for the lookup of a word,
`ofGroup_written` and `firstText?_twice` for its text. `reading_writing` puts them together.
-/

namespace FormLine

/-! ## Texts in one and in two pairs of quotes -/

namespace Arguments
open Chunk Text

/-- The value between its quotes. -/
def QuotedText.written (t : QuotedText) : List Char := t.quote :: (t.value.toList ++ [t.quote])

/-- The quote of the other kind. -/
def otherQuote (q : Char) : Char := if q = '\'' then '"' else '\''

theorem isQuote_otherQuote (q : Char) : isQuote (otherQuote q) = true := by
  unfold otherQuote
  split
  · exact isQuote_doubleQuote
  · exact isQuote_apostrophe

theorem otherQuote_ne {q : Char} (h : isQuote q = true) : otherQuote q ≠ q := by
  rcases isQuote_iff.mp h with rfl | rfl <;> decide

/-- A pair of quotes of the other kind around a value leaves it sealed. -/
theorem sealed_otherQuote {q : Char} (h : isQuote q = true) {v : List Char} (hv : Sealed q v) :
    Sealed q (otherQuote q :: (v ++ [otherQuote q])) := by
  have hne := otherQuote_ne h
  have hcomma : ',' ≠ otherQuote q := (ne_comma_of_isQuote (isQuote_otherQuote q)).symm
  have hdrop : (otherQuote q :: (v ++ [otherQuote q])).dropWhile (· != q) =
      (v ++ [otherQuote q]).dropWhile (· != q) := by simp [hne]
  rw [Sealed, hdrop, List.dropWhile_append]
  split
  · -- the value does not hold the quote
    simp [hne]
  · rw [List.mem_append, not_or]
    exact ⟨hv, by simpa using hcomma⟩

/-- The value in a pair of quotes of the other kind, to be written between its own quotes. -/
def QuotedText.twice (t : QuotedText) : QuotedText where
  value := String.ofList (otherQuote t.quote :: (t.value.toList ++ [otherQuote t.quote]))
  quote := t.quote
  isQuote_quote := t.isQuote_quote
  isSealed := by
    rw [String.toList_ofList]
    exact sealed_otherQuote t.isQuote_quote t.isSealed
  isSpan_value := by
    have hquote := isSpan_quote (isQuote_otherQuote t.quote)
    rw [String.toList_ofList, ← List.singleton_append, isSpan_append, isSpan_append]
    exact ⟨hquote, t.isSpan_value, hquote⟩

/-- The text as a part without padding. -/
def QuotedText.tight (t : QuotedText) : QuotedPart :=
  { t with
    before := []
    after := []
    isPadding_before := by decide
    isPadding_after := by decide }

theorem text_tight (t : QuotedText) : t.tight.text = t.written := by
  simp [QuotedPart.text, QuotedText.tight, QuotedText.written]

theorem joined_tight (ts : List QuotedText) :
    joined (ts.map QuotedText.tight) = List.intercalate [','] (ts.map QuotedText.written) := by
  rw [joined, List.map_map]
  exact congrArg _ (List.map_congr_left fun t _ => text_tight t)

theorem isSpan_written (ts : List QuotedText) :
    IsSpan (List.intercalate [','] (ts.map QuotedText.written)) := by
  rw [← joined_tight]
  exact isSpan_joined _

/-- The arguments are the values. -/
theorem ofGroup_written (ts : List QuotedText) :
    ofGroup (List.intercalate [','] (ts.map QuotedText.written)) = ts.map (·.value) := by
  cases ts with
  | nil => exact ofGroup_blank isBlankRun_nil
  | cons t rest =>
    rw [← joined_tight, List.map_cons, ofGroup_joined, ← List.map_cons, List.map_map]
    rfl

theorem ofGroup_written_one (t : QuotedText) : ofGroup t.written = [t.value] := by
  simpa using ofGroup_written [t]

end Arguments

/-- A text in two pairs of quotes gives its value: one pair goes with the reading of the argument, the
other with the reading of the text. -/
theorem firstText?_twice (t : Arguments.QuotedText) :
    firstText? (some (Arguments.ofGroup t.twice.written)) = some t.value := by
  rw [Arguments.ofGroup_written_one]
  have hquote := Arguments.isQuote_otherQuote t.quote
  have htrim := Arguments.trimChars_padded hquote Text.isBlankRun_nil Text.isBlankRun_nil t.value.toList
  rw [List.nil_append, List.append_nil] at htrim
  simp only [firstText?, Arguments.unquote, Text.trim, Arguments.QuotedText.twice, String.toList_ofList]
  rw [htrim, Arguments.unquoteChars_quoted hquote, String.ofList_toList]

/-! ## The writing of a record -/

/-- A default as it is written. -/
inductive WrittenDefault where
  | flag (b : Bool)
  | text (t : Arguments.QuotedText)

namespace WrittenDefault

/-- The default that is written. -/
def value : WrittenDefault → DefaultValue
  | flag b => .flag b
  | text t => .text t.value

/-- What stands between the parentheses of the default. -/
def group : WrittenDefault → List Char
  | flag b => (if b then "true" else "false").toList
  | text t => t.twice.written

end WrittenDefault

/-- A record with the quotes that its texts are written between. -/
structure Writing where
  component : Option Component
  arguments : Option (List Arguments.QuotedText)
  label : Option Arguments.QuotedText
  description : Option Arguments.QuotedText
  required : Bool
  initial : Option WrittenDefault

namespace Writing
open Arguments Chunk

/-- The record that is written. -/
def metadata (w : Writing) : Metadata where
  component := w.component
  arguments := w.arguments.map fun ts => ts.map (·.value)
  label := w.label.map (·.value)
  description := w.description.map (·.value)
  required := w.required
  initial := w.initial.map WrittenDefault.value

/-- The word of the component. -/
def componentWord (w : Writing) (c : Component) : String × Option (Option (List Char)) :=
  (c.name, some (w.arguments.map fun ts => List.intercalate [','] (ts.map QuotedText.written)))

/-- The words behind the component. -/
def modifiers (w : Writing) : Words :=
  [("label", w.label.map fun t => some t.twice.written),
    ("description", w.description.map fun t => some t.twice.written),
    ("default", w.initial.map fun d => some d.group),
    ("required", if w.required then some none else none)]

/-- The words of the record. -/
def words (w : Writing) : Words := (w.component.map w.componentWord).toList ++ w.modifiers

/-- The record as a specification. -/
def text (w : Writing) : String := String.ofList w.words.text

/-! ## Reading what was written -/

theorem isSpan_written_one (t : QuotedText) : IsSpan t.written := by
  simpa using isSpan_written [t]

theorem isSpan_twice (t : QuotedText) : IsSpan t.twice.written := isSpan_written_one t.twice

theorem isName_component (c : Component) : IsName c.name.toList := by
  cases c <;> decide

theorem isSpan_default (d : WrittenDefault) : IsSpan d.group := by
  cases d with
  | flag b => cases b <;> decide
  | text t => exact isSpan_twice t

theorem scannable_words (w : Writing) : w.words.Scannable := by
  intro word hword
  rcases List.mem_append.mp hword with hword | hword
  · obtain ⟨c, _, rfl⟩ := Option.map_eq_some_iff.mp (Option.mem_toList.mp hword)
    refine ⟨isName_component c, ?_⟩
    intro group hgroup span hspan
    obtain rfl := Option.some.inj hgroup
    obtain ⟨ts, _, rfl⟩ := Option.map_eq_some_iff.mp hspan
    exact isSpan_written ts
  · simp only [modifiers, List.mem_cons, List.not_mem_nil, or_false] at hword
    rcases hword with rfl | rfl | rfl | rfl
    · exact Words.fits_map (by decide : IsName "label".toList) isSpan_twice w.label
    · exact Words.fits_map (by decide : IsName "description".toList) isSpan_twice w.description
    · exact Words.fits_map (by decide : IsName "default".toList) isSpan_default w.initial
    · refine ⟨(by decide : IsName "required".toList), ?_⟩
      intro group hgroup span hspan
      cases hr : w.required with
      | false => simp [hr] at hgroup
      | true =>
        obtain rfl : none = group := by simpa [hr] using hgroup
        simp at hspan

theorem nodup_words (w : Writing) : (w.words.map Prod.fst).Nodup := by
  have hmodifiers : w.modifiers.map Prod.fst = ["label", "description", "default", "required"] := rfl
  rw [words, List.map_append, hmodifiers]
  cases w.component with
  | none => exact (by decide : ["label", "description", "default", "required"].Nodup)
  | some c =>
    have hname : ((some c).map w.componentWord).toList.map Prod.fst = [c.name] := rfl
    rw [hname]
    cases c <;> decide

theorem mem_words_of_mem_modifiers {w : Writing} {word : String × Option (Option (List Char))}
    (h : word ∈ w.modifiers) : word ∈ w.words :=
  List.mem_append_right _ h

/-- A text in two pairs of quotes is read as it was. -/
theorem firstText?_word {w : Writing} {name : String} {o : Option QuotedText}
    (hmem : (name, o.map fun t => some t.twice.written) ∈ w.modifiers) :
    firstText? (Token.argsOf name w.words.tokens) = o.map (·.value) := by
  rw [Words.argsOf_tokens w.nodup_words (mem_words_of_mem_modifiers hmem)]
  cases o with
  | none => rfl
  | some t => exact firstText?_twice t

/-- The text of the default as reading finds it. -/
def defaultText (d : WrittenDefault) : String :=
  match d with
  | .flag b => if b then "true" else "false"
  | .text t => t.value

theorem defaultText?_words (w : Writing) :
    Metadata.defaultText? w.words.tokens = w.initial.map defaultText := by
  have hmem : ("default", w.initial.map fun d => some d.group) ∈ w.modifiers := by simp [modifiers]
  rw [Metadata.defaultText?, Words.argsOf_tokens w.nodup_words (mem_words_of_mem_modifiers hmem)]
  cases w.initial with
  | none => rfl
  | some d =>
    cases d with
    | flag b => cases b <;> decide
    | text t => exact firstText?_twice t

theorem boolean?_defaultText (b : Bool) : boolean? (defaultText (.flag b)) = some b := by
  cases b <;> decide

theorem componentOf_words (w : Writing) : Metadata.componentOf w.words.tokens = w.component := by
  -- No word behind the component's names a component, so the search finds its word or nothing.
  have hmodifiers : Token.first? Component.names w.modifiers.tokens = none := by
    rw [Token.first?_eq_none]
    intro t ht
    have hname : t.name ∈ ["label", "description", "default", "required"] :=
      Words.name_mem_of_mem_tokens ht
    revert hname
    generalize t.name = name
    decide +revert
  rw [Metadata.componentOf, words, Words.tokens_append, Token.first?_append, hmodifiers, Option.or_none]
  cases w.component with
  | none => rfl
  | some c =>
    have hword : Words.tokens ((some c).map w.componentWord).toList =
        [⟨c.name, (w.componentWord c).2.join.map ofGroup⟩] := by
      simp [Words.tokens, Words.chunks, componentWord, Token.ofChunk]
    rw [hword]
    cases c <;> rfl

theorem argumentsOf_words {w : Writing} (h : w.component = none → w.arguments = none) :
    Metadata.argumentsOf w.words.tokens = w.arguments.map fun ts => ts.map (·.value) := by
  rw [Metadata.argumentsOf, componentOf_words]
  cases hc : w.component with
  | none => rw [h hc]; rfl
  | some c =>
    have hmem : w.componentWord c ∈ w.words := by
      rw [words, hc]
      exact List.mem_append_left _ (by simp)
    rw [Option.bind_some, Words.argsOf_tokens w.nodup_words hmem]
    cases w.arguments with
    | none => rfl
    | some ts => exact congrArg some (ofGroup_written ts)

/-- What is no component's name is a modifier. -/
theorem mem_words_iff {w : Writing} {name : String} {group : Option (Option (List Char))}
    (h : name ∉ Component.names) : (name, group) ∈ w.words ↔ (name, group) ∈ w.modifiers := by
  rw [words, List.mem_append]
  refine ⟨?_, .inr⟩
  intro hmem
  rcases hmem with hword | hword
  · obtain ⟨c, _, hc⟩ := Option.map_eq_some_iff.mp (Option.mem_toList.mp hword)
    have hname : c.name = name := congrArg Prod.fst hc
    exact absurd (List.mem_map.mpr ⟨c, Component.mem_all c, hname⟩) h
  · exact hword

theorem requiredOf_words {w : Writing} (h : w.component = some .checkbox → w.required = false) :
    Metadata.requiredOf w.words.tokens = w.required := by
  have hrequired : Token.has "required" w.words.tokens = w.required := by
    rw [Bool.eq_iff_iff, Words.has_tokens]
    simp only [mem_words_iff (by decide : "required" ∉ Component.names)]
    cases hr : w.required with
    | false => simp [modifiers, hr]
    | true => simp [modifiers, hr]
  have hnot : Token.has "not-required" w.words.tokens = false := by
    rw [Bool.eq_false_iff, ne_eq, Words.has_tokens]
    simp only [mem_words_iff (by decide : "not-required" ∉ Component.names)]
    simp [modifiers]
  rw [Metadata.requiredOf, hrequired, hnot, componentOf_words]
  by_cases hc : w.component = some .checkbox
  · rw [h hc]; rfl
  · simp [hc]

end Writing

/-! ## Consistent records -/

/-- The text can stand in a group, between quotes that it is sealed for. -/
def Quotable (v : String) : Prop :=
  Chunk.IsSpan v.toList ∧ ∃ q, Arguments.isQuote q = true ∧ Arguments.Sealed q v.toList

namespace Metadata

/-- The texts of the record. -/
def texts (m : Metadata) : List String :=
  m.arguments.getD [] ++ (m.label.toList ++ (m.description.toList ++
    match m.initial with
    | some (.text s) => [s]
    | _ => []))

/-- The record does not contradict itself and its texts can be written in quotes. -/
structure Consistent (m : Metadata) : Prop where
  /-- Arguments are those of a component. -/
  arguments : m.component = none → m.arguments = none
  /-- A checkbox is never required, and its default is yes or no. -/
  checkbox : m.component = some .checkbox →
    m.required = false ∧ (m.initial = none ∨ ∃ b, m.initial = some (.flag b))
  /-- Every other default is a text. -/
  other : m.component ≠ some .checkbox → m.initial = none ∨ ∃ s, m.initial = some (.text s)
  quotable : ∀ v ∈ m.texts, Quotable v

end Metadata

namespace Writing
open Arguments

theorem exists_quotedText {v : String} (h : Quotable v) : ∃ t : QuotedText, t.value = v := by
  obtain ⟨hspan, q, hquote, hsealed⟩ := h
  exact ⟨⟨v, q, hquote, hsealed, hspan⟩, rfl⟩

theorem exists_quotedTexts {vs : List String} (h : ∀ v ∈ vs, Quotable v) :
    ∃ ts : List QuotedText, ts.map (·.value) = vs := by
  induction vs with
  | nil => exact ⟨[], rfl⟩
  | cons v rest ih =>
    obtain ⟨t, rfl⟩ := exists_quotedText (h v List.mem_cons_self)
    obtain ⟨ts, rfl⟩ := ih fun u hu => h u (List.mem_cons_of_mem t.value hu)
    exact ⟨t :: ts, rfl⟩

theorem exists_quotedText? {o : Option String} (h : ∀ v ∈ o.toList, Quotable v) :
    ∃ t : Option QuotedText, t.map (·.value) = o := by
  cases o with
  | none => exact ⟨none, rfl⟩
  | some v =>
    obtain ⟨t, rfl⟩ := exists_quotedText (h v (by simp))
    exact ⟨some t, rfl⟩

/-- A consistent record can be written. -/
theorem exists_writing {m : Metadata} (h : m.Consistent) : ∃ w : Writing, w.metadata = m := by
  obtain ⟨component, arguments, label, description, required, initial⟩ := m
  have hquotable := h.quotable
  simp only [Metadata.texts, List.forall_mem_append] at hquotable
  obtain ⟨harguments, hlabel, hdescription, hinitial⟩ := hquotable
  obtain ⟨label, rfl⟩ := exists_quotedText? hlabel
  obtain ⟨description, rfl⟩ := exists_quotedText? hdescription
  obtain ⟨initial, rfl⟩ : ∃ d : Option WrittenDefault, d.map WrittenDefault.value = initial := by
    match initial, hinitial with
    | none, _ => exact ⟨none, rfl⟩
    | some (.flag b), _ => exact ⟨some (.flag b), rfl⟩
    | some (.text s), hs =>
      obtain ⟨t, rfl⟩ := exists_quotedText (hs s List.mem_cons_self)
      exact ⟨some (.text t), rfl⟩
  cases arguments with
  | none => exact ⟨⟨component, none, label, description, required, initial⟩, rfl⟩
  | some vs =>
    obtain ⟨ts, rfl⟩ := exists_quotedTexts harguments
    exact ⟨⟨component, some ts, label, description, required, initial⟩, rfl⟩

/-- The default of a consistent checkbox is written as a word for yes or no. -/
theorem flag_of_checkbox {w : Writing} (h : w.metadata.Consistent)
    (hc : w.component = some .checkbox) {d : WrittenDefault} (hd : w.initial = some d) :
    ∃ b, d = .flag b := by
  have hinitial : w.metadata.initial = some d.value := by simp [metadata, hd]
  cases d with
  | flag b => exact ⟨b, rfl⟩
  | text t =>
    rcases (h.checkbox hc).2 with hnone | ⟨b, hflag⟩
    · rw [hnone] at hinitial
      simp at hinitial
    · rw [hflag] at hinitial
      simp [WrittenDefault.value] at hinitial

theorem text_of_other {w : Writing} (h : w.metadata.Consistent)
    (hc : w.component ≠ some .checkbox) {d : WrittenDefault} (hd : w.initial = some d) :
    ∃ t, d = .text t := by
  have hinitial : w.metadata.initial = some d.value := by simp [metadata, hd]
  cases d with
  | text t => exact ⟨t, rfl⟩
  | flag b =>
    rcases h.other hc with hnone | ⟨s, htext⟩
    · rw [hnone] at hinitial
      simp at hinitial
    · rw [htext] at hinitial
      simp [WrittenDefault.value] at hinitial

theorem initialOf_words {w : Writing} (h : w.metadata.Consistent) :
    Metadata.initialOf w.words.tokens = w.initial.map WrittenDefault.value := by
  rw [Metadata.initialOf, componentOf_words, defaultText?_words]
  cases hd : w.initial with
  | none => rfl
  | some d =>
    by_cases hc : w.component = some .checkbox
    · obtain ⟨b, rfl⟩ := flag_of_checkbox h hc hd
      simp [hc, boolean?_defaultText, WrittenDefault.value]
    · obtain ⟨t, rfl⟩ := text_of_other h hc hd
      simp [hc, defaultText, WrittenDefault.value]

theorem ofTokens_words {w : Writing} (h : w.metadata.Consistent) :
    Metadata.ofTokens w.words.tokens = w.metadata := by
  have harguments : w.component = none → w.arguments = none := by
    intro hc
    have := h.arguments hc
    simpa [metadata] using this
  have hlabel : firstText? (Token.argsOf "label" w.words.tokens) = w.label.map (·.value) :=
    firstText?_word (by simp [modifiers])
  have hdescription : firstText? (Token.argsOf "description" w.words.tokens) =
      w.description.map (·.value) := firstText?_word (by simp [modifiers])
  rw [Metadata.ofTokens, componentOf_words, argumentsOf_words harguments, hlabel, hdescription,
    requiredOf_words fun hc => (h.checkbox hc).1, initialOf_words h]
  rfl

/-- Only a selection without arguments is reported. -/
theorem diagnostics_words {w : Writing} (h : w.metadata.Consistent) :
    Diagnostic.ofTokens w.words.tokens =
      if w.component = some .select ∧ w.arguments = none then [⟨"select", "Requires arguments"⟩]
      else [] := by
  rw [Diagnostic.ofTokens, componentOf_words, defaultText?_words]
  cases hc : w.component with
  | none => rfl
  | some c =>
    cases c with
    | text => rfl
    | textarea => rfl
    | select =>
      rw [argumentsOf_words (by simp [hc])]
      cases w.arguments with
      | none => rfl
      | some ts => rfl
    | checkbox =>
      cases hd : w.initial with
      | none => rfl
      | some d =>
        obtain ⟨b, rfl⟩ := flag_of_checkbox h hc hd
        simp [boolean?_defaultText]

/-- **A consistent record can be written as a specification, and every such specification says exactly
the record.** The only finding there can be is that a selection has no arguments. -/
theorem reading_writing (m : Metadata) (h : m.Consistent) :
    (∃ w : Writing, w.metadata = m) ∧
      ∀ w : Writing, w.metadata = m →
        Report.ofSpec w.text = ⟨w.text, m,
          if m.component = some .select ∧ m.arguments = none then [⟨"select", "Requires arguments"⟩]
          else []⟩ := by
  refine ⟨exists_writing h, ?_⟩
  intro w hw
  subst hw
  have htokens : Token.ofText w.text = w.words.tokens := Words.ofText_text w.scannable_words
  rw [Report.ofSpec, htokens, ofTokens_words h, diagnostics_words h]
  simp [metadata]

/-- A selection whose texts hold commas, both quotes and blank characters at their ends. -/
def selection : Writing where
  component := some .select
  arguments := some [⟨"it's", '"', by decide, by decide, by decide⟩,
    ⟨" a, b ", '\'', by decide, by decide, by decide⟩, ⟨"", '"', by decide, by decide, by decide⟩]
  label := some ⟨"'Pick', one\"", '"', by decide, by decide, by decide⟩
  description := none
  required := true
  initial := some (.text ⟨"true", '\'', by decide, by decide, by decide⟩)

theorem selection_consistent : selection.metadata.Consistent where
  arguments := by decide
  checkbox := by decide
  other := fun _ => .inr ⟨"true", rfl⟩
  quotable := by
    intro v hv
    have hv : v ∈ ["it's", " a, b ", "", "'Pick', one\"", "true"] := hv
    simp only [List.mem_cons, List.not_mem_nil, or_false] at hv
    rcases hv with rfl | rfl | rfl | rfl | rfl
    · exact ⟨by decide, '"', by decide, by decide⟩
    · exact ⟨by decide, '"', by decide, by decide⟩
    · exact ⟨by decide, '"', by decide, by decide⟩
    · exact ⟨by decide, '"', by decide, by decide⟩
    · exact ⟨by decide, '"', by decide, by decide⟩

theorem reading_selection :
    selection.metadata.Consistent ∧
      selection.text =
        "select(\"it's\",' a, b ',\"\") label(\"''Pick', one\"'\") default('\"true\"') required" ∧
      Report.ofSpec selection.text = ⟨selection.text, selection.metadata, []⟩ :=
  ⟨selection_consistent, by decide,
    (reading_writing selection.metadata selection_consistent).2 selection rfl⟩

end Writing

end FormLine
