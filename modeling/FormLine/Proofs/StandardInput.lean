import FormLine.Proofs.CommandOptions
import FormLine.Proofs.Trim
/-!
# Specifications from standard input

The command takes its specifications as operands or, without any, from the lines of its standard input.
The two ways are one: options with specifications behind two hyphens have the outcome that the options
have alone when the input holds the specifications, one on a line (`run_fed`).

How an input holds texts is said without the reading of lines (`Feeds`): any of three line ends ends a
line, blank lines may stand anywhere, and the last line need not be ended. Reading an input gives what it
holds (`inputLines_of_feeds`): a line end of any kind is read as one line feed, and the one thing that a
carriage return may take with it, the end of an empty line, leaves no text out. On the other side each
option sets its value whatever that holds (`IsOption.sets`), and behind two hyphens nothing is an option.
-/

namespace FormLine.Program

open CommandLine Text

/-! ## Inputs -/

/-- The text has no line end of its own. -/
def IsLine (s : List Char) : Prop := '\n' ∉ s ∧ '\r' ∉ s

/-- What may end a line. -/
def lineEnds : List (List Char) := [['\n'], ['\r', '\n'], ['\r']]

/-- The input holds the texts in order, one on a line, and its other lines are blank. -/
inductive Feeds : List String → List Char → Prop
  | blankLast {l : List Char} (hline : IsLine l) (hblank : IsBlankRun l) : Feeds [] l
  | textLast {s : String} (hline : IsLine s.toList) (hblank : ¬ IsBlankRun s.toList) :
    Feeds [s] s.toList
  | blank {l e : List Char} {specs : List String} {input : List Char} (hline : IsLine l)
    (hblank : IsBlankRun l) (hend : e ∈ lineEnds) (hrest : Feeds specs input) :
    Feeds specs (l ++ (e ++ input))
  | text {s : String} {e : List Char} {specs : List String} {input : List Char}
    (hline : IsLine s.toList) (hblank : ¬ IsBlankRun s.toList) (hend : e ∈ lineEnds)
    (hrest : Feeds specs input) : Feeds (s :: specs) (s.toList ++ (e ++ input))

instance (s : List Char) : Decidable (IsLine s) := inferInstanceAs (Decidable (_ ∧ _))

/-- The lines of a text that are not blank. -/
def filled (s : List Char) : List (List Char) :=
  (lines (unifyLineEnds s)).filter fun l => !isBlankText l

theorem isLine_cons {c : Char} {s : List Char} :
    IsLine (c :: s) ↔ c ≠ '\n' ∧ c ≠ '\r' ∧ IsLine s := by
  simp only [IsLine, List.mem_cons, not_or]
  constructor
  · rintro ⟨⟨hfeed, hs⟩, hreturn, hs'⟩
    exact ⟨Ne.symm hfeed, Ne.symm hreturn, hs, hs'⟩
  · rintro ⟨hfeed, hreturn, hs, hs'⟩
    exact ⟨⟨Ne.symm hfeed, hs⟩, Ne.symm hreturn, hs'⟩

theorem unifyLineEnds_cons {c : Char} (hc : c ≠ '\r') (s : List Char) :
    unifyLineEnds (c :: s) = c :: unifyLineEnds s := by
  rw [unifyLineEnds]
  · exact fun _ h => absurd h hc
  · exact hc

/-- What is no line end is left as it is. -/
theorem unifyLineEnds_line {l : List Char} (h : IsLine l) (s : List Char) :
    unifyLineEnds (l ++ s) = l ++ unifyLineEnds s := by
  induction l with
  | nil => rfl
  | cons c l ih =>
    obtain ⟨_, hreturn, hl⟩ := isLine_cons.mp h
    rw [List.cons_append, unifyLineEnds_cons hreturn, ih hl, List.cons_append]

theorem lines_cons {c : Char} (hc : c ≠ '\n') {s l : List Char} {ls : List (List Char)}
    (h : lines s = l :: ls) : lines (c :: s) = (c :: l) :: ls := by
  rw [lines, if_neg hc, h]

theorem lines_last {l : List Char} (h : IsLine l) : lines l = [l] := by
  induction l with
  | nil => rfl
  | cons c l ih =>
    obtain ⟨hfeed, _, hl⟩ := isLine_cons.mp h
    exact lines_cons hfeed (ih hl)

theorem lines_ended {l : List Char} (h : IsLine l) (s : List Char) :
    lines (l ++ '\n' :: s) = l :: lines s := by
  induction l with
  | nil => rw [List.nil_append, lines, if_pos rfl]
  | cons c l ih =>
    obtain ⟨hfeed, _, hl⟩ := isLine_cons.mp h
    exact lines_cons hfeed (ih hl)

theorem filled_last {l : List Char} (h : IsLine l) :
    filled l = if isBlankText l then [] else [l] := by
  have hunified : unifyLineEnds l = l := by simpa [unifyLineEnds] using unifyLineEnds_line h []
  rw [filled, hunified, lines_last h]
  cases hblank : isBlankText l <;> simp [hblank]

theorem unifyLineEnds_return (s : List Char) (h : s.head? ≠ some '\n') :
    unifyLineEnds ('\r' :: s) = '\n' :: unifyLineEnds s := by
  rw [unifyLineEnds]
  rintro rest rfl
  exact h rfl

/-- A line end is read as one line feed. A carriage return takes a line feed that follows with it, which
ended an empty line if it was an end of its own. -/
theorem unifyLineEnds_end {e : List Char} (hend : e ∈ lineEnds) (s : List Char) :
    ∃ t, unifyLineEnds (e ++ s) = '\n' :: t ∧
      (lines t).filter (fun l => !isBlankText l) = filled s := by
  simp only [lineEnds, List.mem_cons, List.not_mem_nil, or_false] at hend
  obtain rfl | rfl | rfl := hend
  · exact ⟨unifyLineEnds s, unifyLineEnds_cons (by decide) s, rfl⟩
  · exact ⟨unifyLineEnds s, rfl, rfl⟩
  · by_cases hfeed : s.head? = some '\n'
    · obtain ⟨rest, rfl⟩ := List.head?_eq_some_iff.mp hfeed
      refine ⟨unifyLineEnds rest, rfl, ?_⟩
      have hlines : lines ('\n' :: unifyLineEnds rest) = [] :: lines (unifyLineEnds rest) := by
        rw [lines, if_pos rfl]
      have hempty : isBlankText [] = true := rfl
      rw [filled, unifyLineEnds_cons (by decide), hlines, List.filter_cons_of_neg (by simp [hempty])]
    · exact ⟨unifyLineEnds s, unifyLineEnds_return s hfeed, rfl⟩

/-- A line is read up to its end, whatever end that is and whatever follows. -/
theorem filled_ended {l e : List Char} (h : IsLine l) (hend : e ∈ lineEnds) (s : List Char) :
    filled (l ++ (e ++ s)) = (if isBlankText l then [] else [l]) ++ filled s := by
  obtain ⟨t, hunified, hfilled⟩ := unifyLineEnds_end hend s
  rw [filled, unifyLineEnds_line h, hunified, lines_ended h, List.filter_cons, hfilled]
  cases isBlankText l <;> rfl

theorem inputLines_eq (input : List Char) :
    inputLines (String.ofList input) = (filled input).map String.ofList := by
  rw [inputLines, String.toList_ofList]
  rfl

/-- **Reading an input gives the texts that it holds.** -/
theorem inputLines_of_feeds {specs : List String} {input : List Char} (h : Feeds specs input) :
    inputLines (String.ofList input) = specs := by
  rw [inputLines_eq]
  induction h with
  | blankLast hline hblank =>
    rw [filled_last hline, if_pos (isBlankText_iff.mpr hblank)]
    rfl
  | textLast hline hblank =>
    rw [filled_last hline, if_neg (mt isBlankText_iff.mp hblank)]
    simp
  | blank hline hblank hend _ ih =>
    rw [filled_ended hline hend, if_pos (isBlankText_iff.mpr hblank)]
    exact ih
  | text hline hblank hend _ ih =>
    rw [filled_ended hline hend, if_neg (mt isBlankText_iff.mp hblank)]
    simpa using ih

/-- Texts that are lines and not blank can be given by an input. -/
theorem exists_feeds {specs : List String}
    (h : ∀ s ∈ specs, IsLine s.toList ∧ ¬ IsBlankRun s.toList) : ∃ input, Feeds specs input := by
  induction specs with
  | nil => exact ⟨[], .blankLast (by decide) isBlankRun_nil⟩
  | cons s rest ih =>
    obtain ⟨⟨hline, hblank⟩, hrest⟩ := List.forall_mem_cons.mp h
    obtain ⟨input, hinput⟩ := ih hrest
    have hend : ['\n'] ∈ lineEnds := by decide
    exact ⟨_, .text hline hblank hend hinput⟩

/-! ## Options -/

/-- The word is an option of the command with a value that the command takes. Every option takes two
hyphens for its value. -/
inductive IsOption : String → Prop
  | schema : IsOption "--schema"
  | verbose : IsOption "--verbose"
  | formId (text : String) : IsOption ("--form-id=" ++ text)
  | title (text : String) : IsOption ("--title=" ++ text)
  | indent {text : String} {n : Int} (h : integer? text = some n) : IsOption ("--indent=" ++ text)
  | logLevel {level : String} (h : upper level ∈ levelNames) : IsOption ("--log-level=" ++ level)
  | indentDashes : IsOption "--indent=--"
  | logLevelDashes : IsOption "--log-level=--"

theorem IsOption.sets {word : String} (h : IsOption word) (settings : Settings) :
    ∃ f v, (command settings).Sets word f v := by
  have hplain := plain_names settings
  cases h with
  | schema =>
    obtain ⟨f, _, hsets⟩ := sets_schema settings
    exact ⟨f, _, hsets⟩
  | verbose =>
    obtain ⟨f, _, hsets⟩ := sets_verbose settings
    exact ⟨f, _, hsets⟩
  | formId text =>
    obtain ⟨f, _, hsets⟩ := sets_formId settings text
    exact ⟨f, _, hsets⟩
  | title text =>
    obtain ⟨f, _, hsets⟩ := sets_title settings text
    exact ⟨f, _, hsets⟩
  | indent h =>
    obtain ⟨f, _, hsets⟩ := sets_integer settings h
    exact ⟨f, _, hsets⟩
  | logLevel h =>
    obtain ⟨f, _, hsets⟩ := sets_logLevel settings h
    exact ⟨f, _, hsets⟩
  | indentDashes =>
    have hword : "--indent=--" = "--indent" ++ "=" ++ "--" := by decide
    rw [hword]
    exact ⟨_, _, Command.sets_dashes hplain rfl rfl (by decide) rfl⟩
  | logLevelDashes =>
    have hword : "--log-level=--" = "--log-level" ++ "=" ++ "--" := by decide
    rw [hword]
    exact ⟨_, _, Command.sets_dashes hplain rfl rfl (by decide) rfl⟩

/-- Options are written words, each with the value that it sets. -/
theorem exists_written {options : List String} (h : ∀ word ∈ options, IsOption word)
    (settings : Settings) : ∃ written : List Command.Written,
      written.map Command.Written.word = options ∧
        ∀ w ∈ written, (command settings).Sets w.word w.flag w.value := by
  induction options with
  | nil => exact ⟨[], rfl, by simp⟩
  | cons word rest ih =>
    obtain ⟨hword, hrest⟩ := List.forall_mem_cons.mp h
    obtain ⟨f, v, hsets⟩ := hword.sets settings
    obtain ⟨written, hwords, hall⟩ := ih hrest
    refine ⟨⟨word, f, v⟩ :: written, by rw [List.map_cons, hwords], ?_⟩
    exact List.forall_mem_cons.mpr ⟨hsets, hall⟩

/-! ## The two ways -/

/-- **Specifications behind two hyphens and specifications on the lines of an input have the same
outcome.** Nothing that a specification holds makes a difference, as long as it is a line and not
blank, and every such list of specifications can be given either way. -/
theorem run_fed (settings : Settings) {options : List String}
    (hoptions : ∀ word ∈ options, IsOption word) {specs : List String} (hne : specs ≠ [])
    (hspecs : ∀ s ∈ specs, IsLine s.toList ∧ ¬ IsBlankRun s.toList) :
    (∃ input, Feeds specs input) ∧
      ∀ input, Feeds specs input → ∀ stdin,
        run settings (options ++ "--" :: specs) stdin = run settings options (String.ofList input) := by
  refine ⟨exists_feeds hspecs, ?_⟩
  intro input hinput stdin
  obtain ⟨written, rfl, hsets⟩ := exists_written hoptions settings
  have hbehind := Command.invocation_options hsets rfl (Command.givesOperands_dashes specs)
  have halone := Command.invocation_options hsets rfl Command.givesOperands_nil
  rw [List.append_nil] at halone
  have hempty : specs.isEmpty = false := by simpa using hne
  rw [run, run, Command.run, Command.run, hbehind, halone]
  -- The defaults are refused in both or fill both in; then only the operands differ.
  cases defaults (command settings).flags (Command.valuesOf written) with
  | error m => rfl
  | ok values =>
    simp only [hempty, List.isEmpty_nil, inputLines_of_feeds hinput, Bool.false_eq_true, if_false,
      if_true]
    rfl

/-- Blank lines of every kind stand around a word that looks like an option and a line that starts with
a line separator, and the last line is not ended. -/
theorem run_fed_mixed :
    run Settings.defaults (["--verbose", "--title=--"] ++ "--" :: ["-h ", "\u2028a=--\u0085"]) "text" =
      run Settings.defaults ["--verbose", "--title=--"] "\r\n-h \r\n\t\r\u2028a=--\u0085" := by
  have hoptions : ∀ word ∈ ["--verbose", "--title=--"], IsOption word := by
    intro word hword
    simp only [List.mem_cons, List.not_mem_nil, or_false] at hword
    obtain rfl | rfl := hword
    · exact .verbose
    · exact .title "--"
  have hlast : Feeds ["\u2028a=--\u0085"] "\u2028a=--\u0085".toList := .textLast (by decide) (by decide)
  have htab : Feeds ["\u2028a=--\u0085"] (['\t'] ++ (['\r'] ++ "\u2028a=--\u0085".toList)) :=
    .blank (by decide) (by decide) (by decide) hlast
  have hinput : Feeds ["-h ", "\u2028a=--\u0085"] ([] ++ (['\r', '\n'] ++
      ("-h ".toList ++ (['\r', '\n'] ++ (['\t'] ++ (['\r'] ++ "\u2028a=--\u0085".toList)))))) :=
    .blank (by decide) (by decide) (by decide) (.text (by decide) (by decide) (by decide) htab)
  have hspecs : ∀ s ∈ ["-h ", "\u2028a=--\u0085"], IsLine s.toList ∧ ¬ IsBlankRun s.toList := by decide
  have hrun := (run_fed Settings.defaults hoptions (List.cons_ne_nil _ _) hspecs).2 _ hinput "text"
  have htext : String.ofList ([] ++ (['\r', '\n'] ++ ("-h ".toList ++ (['\r', '\n'] ++ (['\t'] ++
      (['\r'] ++ "\u2028a=--\u0085".toList)))))) = "\r\n-h \r\n\t\r\u2028a=--\u0085" := by decide +kernel
  rw [htext] at hrun
  exact hrun

end FormLine.Program
