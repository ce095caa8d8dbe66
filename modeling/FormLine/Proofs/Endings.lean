import FormLine.Proofs.CommandOptions
import FormLine.Proofs.OptionValues
import FormLine.Proofs.ReportCommand
import FormLine.Proofs.SettingsHistory
/-!
# How the command ends under the settings of an environment

Settings that are built from an environment bring three defaults to the command. Two of them do no harm:
an indentation is an integer, and whether the output is verbose is yes or no. The log level is any text.
Written as an option it would be held against the choices and refused, as a default it is not, and the
command breaks off where it sets its threshold. So the command ends as it should, on every command line,
exactly where the level of the environment has a rank (`settles_iff_level`).

The argument goes through what each option of the command can hold (`held_logLevel` and so on): a value
that the command line gave, which was read and chosen, or the default. A request for help is part of it,
since the help shows the defaults and a percent sign in one would have to be expanded.
-/

namespace FormLine.Program

open CommandLine Text

/-! ## What the options hold -/

/-- The targets of the options differ. -/
theorem find?_flags {settings : Settings} {f : Flag} (hf : f ∈ (command settings).flags) :
    ((command settings).flags.find? fun g => g.target == f.target) = some f := by
  simp only [command, List.mem_cons, List.not_mem_nil, or_false] at hf
  obtain rfl | rfl | rfl | rfl | rfl | rfl | rfl := hf <;> rfl

/-- An option of the command that takes a value holds nothing, or one that was read and chosen, or its
default. -/
theorem held {settings : Settings} {arguments : List String} {i : Invocation}
    (h : (command settings).invocation arguments = .ok i) (target : String) {f : Flag}
    (hfind : ((command settings).flags.find? fun g => g.target == target) = some f)
    {reader : ValueReader} {choices : List String} (heffect : f.effect = .value reader choices)
    {v : Json} (habsent : f.absent = .ok v) :
    i.value target = .arr [] ∨
      (∃ s, (f.read reader s).bind (f.choose choices) = .ok (i.value target)) ∨
        i.value target = v := by
  obtain ⟨g, hg, htarget, htakes⟩ | hdefault := Command.value_of_invocation h target
  · have hgf : g = f := by
      have hfindg := find?_flags hg
      rw [htarget, hfind] at hfindg
      exact (Option.some.inj hfindg).symm
    rw [hgf] at htakes
    exact ((Flag.takes_value heffect).mp htakes).imp_right .inl
  · have hvalue : i.value target = v := by
      rw [Invocation.value, hdefault, hfind, Option.bind_some, habsent]
      rfl
    exact .inr (.inr hvalue)

/-- Only a default that is a text is read. -/
theorem absent_int {f : Flag} {n : Int} (h : f.default = .int n) : f.absent = .ok (.int n) := by
  rw [Flag.absent, h]
  cases f.effect <;> rfl

section Held

variable {settings : Settings} {arguments : List String} {i : Invocation}
  (h : (command settings).invocation arguments = .ok i)
include h

theorem held_text (target : String) {f : Flag}
    (hfind : ((command settings).flags.find? fun g => g.target == target) = some f)
    (heffect : f.effect = .value .text []) {default : String} (hdefault : f.absent = .ok (.str default)) :
    i.value target = .arr [] ∨ ∃ s, i.value target = .str s := by
  obtain hnone | ⟨s, hs⟩ | hvalue := held h target hfind heffect hdefault
  · exact .inl hnone
  · exact .inr ⟨s, (Except.ok.inj hs).symm⟩
  · exact .inr ⟨default, hvalue⟩

theorem held_indent {n : Int} (hn : settings .indent = .int n) :
    i.value "indent" = .arr [] ∨ ∃ m, i.value "indent" = .int m := by
  obtain hnone | ⟨s, hs⟩ | hdefault := held h "indent" rfl rfl (absent_int hn)
  · exact .inl hnone
  · right
    simp only [Flag.read] at hs
    split at hs
    · rename_i m _
      exact ⟨m, (Except.ok.inj hs).symm⟩
    · cases hs
  · exact .inr ⟨n, hdefault⟩

/-- The default log level is the one value for it that need not be among the choices. -/
theorem held_logLevel : i.value "log_level" = .arr [] ∨
    (∃ name ∈ levelNames, i.value "log_level" = .str name) ∨
      i.value "log_level" = usualLevel settings := by
  obtain ⟨f, hfind, heffect, habsent⟩ := exists_logLevel settings
  obtain hnone | ⟨s, hs⟩ | hdefault := held h "log_level" hfind heffect habsent
  · exact .inl hnone
  · right
    left
    simp only [Flag.read, Except.bind, Flag.choose] at hs
    split at hs
    · rename_i hchosen
      refine ⟨upper s, ?_, (Except.ok.inj hs).symm⟩
      simpa [levelNames, Json.plain] using hchosen
    · cases hs
  · exact .inr (.inr hdefault)

end Held

/-! ## Help -/

/-- The help of options whose explanations have no percent sign can be put together. -/
theorem exists_entries (program : String) {flags : List Flag} (h : ∀ f ∈ flags, '%' ∉ f.help.toList) :
    ∃ text, entries program flags = .ok text := by
  induction flags with
  | nil => exact ⟨_, rfl⟩
  | cons f rest ih =>
    obtain ⟨hf, hrest⟩ := List.forall_mem_cons.mp h
    obtain ⟨others, hothers⟩ := ih hrest
    have hexplanation : f.explanation program = .ok f.help := by
      rw [Flag.explanation]
      split
      · exact expand_of_no_percent _ f.help hf
      · rfl
    rw [entries, hexplanation, hothers]
    exact ⟨_, rfl⟩

theorem percent_mem_upper {s : String} (h : '%' ∈ s.toList) : '%' ∈ (upper s).toList := by
  rw [upper, String.toList_ofList]
  exact List.mem_flatMap.mpr ⟨'%', h, by decide⟩

theorem percent_not_mem_integerChars (n : Int) : '%' ∉ integerChars n := by
  have hdigits : ∀ k, '%' ∉ Nat.toDigits 10 k := by
    intro k hk
    have hdigit := isDigit_of_mem_digits hk
    revert hdigit
    decide
  cases n with
  | ofNat k => exact hdigits k
  | negSucc k => exact List.not_mem_cons_of_ne_of_not_mem (by decide) (hdigits (k + 1))

/-- A name sets a threshold where it is the name of a rank. -/
theorem threshold_str {name : String} :
    (∃ threshold, Settings.threshold (.str name) = .ok threshold) ↔ name ∈ rankNames.map Prod.fst := by
  cases hrank : rankNames.lookup name with
  | some rank =>
    have hthreshold : Settings.threshold (.str name) = .ok rank := by rw [Settings.threshold, hrank]
    obtain ⟨before, after, hnames, _⟩ := List.lookup_eq_some_iff.mp hrank
    refine ⟨fun _ => ?_, fun _ => ⟨rank, hthreshold⟩⟩
    rw [hnames]
    simp
  | none =>
    have hthreshold : Settings.threshold (.str name) = .error (.unknownLevel name) := by
      rw [Settings.threshold, hrank]
    rw [List.lookup_eq_none_iff] at hrank
    constructor
    · rintro ⟨_, h⟩
      rw [hthreshold] at h
      cases h
    · intro hmem
      obtain ⟨e, he, rfl⟩ := List.mem_map.mp hmem
      simpa using hrank e he

/-- No rank has a percent sign in its name, in whatever case it is written. -/
theorem percent_not_mem_level {name : String}
    (h : ∃ threshold, Settings.threshold (.str (upper name)) = .ok threshold) : '%' ∉ name.toList := by
  have hnames : ∀ n ∈ rankNames.map Prod.fst, '%' ∉ n.toList := by decide
  exact fun hmem => hnames _ (threshold_str.mp h) (percent_mem_upper hmem)

/-- What the settings of an environment bring to the command. -/
structure Usual (settings : Settings) (level : String) (indent : Int) : Prop where
  level : settings .logLevel = .str level
  indent : settings .indent = .int indent
  verbose : ∃ b, settings .verbose = .bool b

theorem usual_of_environment {env : Environment} {settings : Settings}
    (h : Settings.ofEnvironment env = .ok settings) : ∃ level indent, Usual settings level indent := by
  obtain ⟨port, indent, _, _, rfl⟩ := Settings.ofEnvironment_eq_ok h
  exact ⟨_, indent, rfl, rfl, _, rfl⟩

section Usual

variable {settings : Settings} {level : String} {indent : Int} (husual : Usual settings level indent)
include husual

theorem usualLevel_eq : usualLevel settings = .str (upper level) := by
  rw [usualLevel, husual.level]

/-- The help shows the defaults, and a level that has a rank brings no directive into it. -/
theorem exists_help (hlevel : ∃ threshold, Settings.threshold (usualLevel settings) = .ok threshold) :
    ∃ text, (command settings).help = .ok text := by
  rw [usualLevel_eq husual] at hlevel
  have hplain : ∀ explanation v, '%' ∉ explanation.toList → '%' ∉ (Json.plain v).toList →
      '%' ∉ (withDefault explanation v).toList := by
    intro explanation v hexplanation hv
    simp [withDefault, hexplanation, hv]
  have hindent : '%' ∉ (Json.plain (.int indent)).toList := by
    simpa [Json.plain, Json.shown] using percent_not_mem_integerChars indent
  have hflags : ∀ f ∈ (command settings).flags, '%' ∉ f.help.toList := by
    simp only [command, husual.level, husual.indent, List.forall_mem_cons]
    refine ⟨by simp [helpFlag], by simp, by simp, by simp, ?_, ?_, by simp,
      List.forall_mem_nil _⟩
    · exact hplain _ _ (by simp) hindent
    · exact hplain _ _ (by simp) (percent_not_mem_level hlevel)
  obtain ⟨text, htext⟩ := exists_entries (command settings).program hflags
  rw [Command.help, htext]
  exact ⟨_, rfl⟩

end Usual

/-! ## The ending -/

/-- The command was carried out, or it was misused. -/
def Settles (o : Outcome Fault) : Prop := o.ending = .exit 0 ∨ o.ending = .exit 2

/-- Nothing that the command line gives is in the way of the output: an indentation is a machine word, and
no option was given two hyphens for its value. -/
structure Presentable (i : Invocation) : Prop where
  fits : ∀ n, i.value "indent" = .int n → Json.fitsMachineWord n = true
  given : ∀ target, i.value target ≠ .arr []

/-- No option holds an empty list where no entry is one. -/
theorem value_ne_nothing {i : Invocation} (h : ∀ e ∈ i.values, e.2 ≠ .arr []) (target : String) :
    i.value target ≠ .arr [] := by
  obtain ⟨operands, values⟩ := i
  rw [Invocation.value]
  induction values with
  | nil =>
    intro hnothing
    cases hnothing
  | cons e rest ih =>
    obtain ⟨he, hrest⟩ := List.forall_mem_cons.mp h
    rw [OrderedMap.get?]
    split
    · exact he
    · exact ih hrest

theorem ending_present {r : Result} {v : Json} (hvalue : r.value = .valid v) {indent : Int}
    (hindent : Json.fitsMachineWord indent = true) (threshold : Int) :
    (present threshold (.int indent) r).ending = .exit 0 := by
  simp only [present, hvalue, layout_int hindent]

/-- What is computed from texts has no problems. -/
theorem exists_value_of_compute {settings : Settings} {i : Invocation} {formId title : String}
    (hformId : i.value "form_id" = .str formId) (htitle : i.value "title" = .str title)
    {specs : List String} {r : Result} (h : compute settings i specs = .ok r) :
    ∃ v, r.value = .valid v := by
  rw [compute, hformId, htitle] at h
  split at h
  · cases hpairs : pairs specs with
    | error item => rw [hpairs] at h; cases h
    | ok ps =>
      rw [hpairs] at h
      cases h
      exact ⟨_, rfl⟩
  · cases h
    exact ⟨_, rfl⟩

theorem settles_of_presentable {settings : Settings} {level : String} {indent : Int}
    (husual : Usual settings level indent)
    (hlevel : ∃ threshold, Settings.threshold (usualLevel settings) = .ok threshold)
    {arguments : List String} {i : Invocation} (hi : (command settings).invocation arguments = .ok i)
    (hpresentable : Presentable i) (stdin : String) : Settles (run settings arguments stdin) := by
  obtain ⟨formId, hformId⟩ :=
    (held_text hi "form_id" rfl rfl rfl).resolve_left (hpresentable.given "form_id")
  obtain ⟨title, htitle⟩ :=
    (held_text hi "title" rfl rfl rfl).resolve_left (hpresentable.given "title")
  obtain ⟨n, hn⟩ := (held_indent hi husual.indent).resolve_left (hpresentable.given "indent")
  obtain ⟨threshold, hthreshold⟩ :
      ∃ threshold, Settings.threshold (i.value "log_level") = .ok threshold := by
    obtain ⟨name, hname, hvalue⟩ | hdefault :=
      (held_logLevel hi).resolve_left (hpresentable.given "log_level")
    · rw [hvalue]
      exact exists_threshold hname
    · rwa [hdefault]
  rw [run, Command.run, hi]
  simp only [hthreshold, hn]
  cases hresult : compute settings i (if i.operands.isEmpty then inputLines stdin else i.operands) with
  | error item => exact .inr rfl
  | ok r =>
    obtain ⟨v, hv⟩ := exists_value_of_compute hformId htitle hresult
    exact .inl (ending_present hv (hpresentable.fits n hn) threshold)

/-- Where the level is the default and has no rank, the command breaks off with its name. -/
theorem run_of_unknown_level {settings : Settings} {level : String} {indent : Int}
    (husual : Usual settings level indent)
    (hlevel : ¬ ∃ threshold, Settings.threshold (usualLevel settings) = .ok threshold)
    {arguments : List String} {i : Invocation} (hi : (command settings).invocation arguments = .ok i)
    (hdefault : i.value "log_level" = usualLevel settings) (stdin : String) :
    run settings arguments stdin =
      { ending := .fault (.unusable (.unknownLevel (upper level))) } := by
  rw [usualLevel_eq husual] at hlevel hdefault
  have hlookup : rankNames.lookup (upper level) = none := by
    cases hrank : rankNames.lookup (upper level) with
    | none => rfl
    | some rank => exact absurd ⟨rank, by rw [Settings.threshold, hrank]⟩ hlevel
  rw [run, Command.run, hi]
  simp only [hdefault, Settings.threshold, hlookup]

/-- No default of the command is an empty list. -/
theorem default_ne_nothing {settings : Settings} {level : String} {indent : Int}
    (husual : Usual settings level indent) (target : String) :
    (((command settings).flags.find? fun f => f.target == target).bind
      fun f => f.absent.toOption) ≠ some (.arr []) := by
  obtain ⟨b, hverbose⟩ := husual.verbose
  have hflags : ∀ f ∈ (command settings).flags, f.absent.toOption ≠ some (.arr []) := by
    intro f hf h
    simp only [command, husual.level, husual.indent, hverbose, List.mem_cons, List.not_mem_nil,
      or_false] at hf
    obtain rfl | rfl | rfl | rfl | rfl | rfl | rfl := hf <;> cases h
  intro h
  obtain ⟨f, hfind, habsent⟩ := Option.bind_eq_some_iff.mp h
  exact hflags f (List.mem_of_find?_eq_some hfind) habsent

/-- Some command line gives no level, and nothing else is in its way. -/
theorem exists_presentable {settings : Settings} {level : String} {indent : Int}
    (husual : Usual settings level indent) :
    ∃ arguments i, (command settings).invocation arguments = .ok i ∧ Presentable i ∧
      i.value "log_level" = usualLevel settings := by
  obtain ⟨f, htarget, hsets⟩ := sets_integer settings (by decide : integer? "2" = some 2)
  have hvalues : Command.valuesOf [⟨"--indent=" ++ "2", f, .int 2⟩] = [("indent", .int 2)] := by
    simp [Command.valuesOf, OrderedMap.ofEntries, OrderedMap.put, htarget]
  obtain ⟨i, hi, _, hget⟩ :=
    invocation_set (List.forall_mem_singleton.mpr hsets) (by rw [hvalues]; rfl) []
  rw [hvalues] at hget
  have hindent : i.value "indent" = .int 2 := by
    rw [Invocation.value, hget]
    rfl
  have hlog : i.value "log_level" = usualLevel settings := by
    rw [Invocation.value, hget, absent_logLevel]
    rfl
  refine ⟨_, i, hi, ⟨?_, ?_⟩, hlog⟩
  · intro n hn
    rw [hindent] at hn
    cases hn
    decide
  · intro target hnothing
    by_cases ht : target = "indent"
    · rw [ht, hindent] at hnothing
      cases hnothing
    · have hunset : OrderedMap.get? [("indent", Json.int 2)] target = none := by
        simp [OrderedMap.get?, Ne.symm ht]
      rw [Invocation.value, hget, hunset, Option.none_or] at hnothing
      cases hdefault : ((command settings).flags.find? fun f => f.target == target).bind
          fun f => f.absent.toOption with
      | none => rw [hdefault] at hnothing; cases hnothing
      | some v =>
        rw [hdefault] at hnothing
        exact default_ne_nothing husual target (hdefault.trans (congrArg some hnothing))

/-- **The command ends as it should exactly where the level of the environment has a rank.** With such a
level every command line is carried out or is a misuse, whatever its words, its specifications and its
input are. Without one every command line that leaves the level to the environment breaks off. The same
level is a misuse where it is written as an option, as is every level that is no choice. -/
theorem settles_iff_level {env : Environment} {settings : Settings}
    (h : Settings.ofEnvironment env = .ok settings) :
    ((∀ arguments stdin,
        (∀ i, (command settings).invocation arguments = .ok i → Presentable i) →
          Settles (run settings arguments stdin)) ↔
      ∃ threshold, Settings.threshold (usualLevel settings) = .ok threshold) ∧
    (∀ arguments i stdin, (command settings).invocation arguments = .ok i →
      i.value "log_level" = usualLevel settings →
        (¬ ∃ threshold, Settings.threshold (usualLevel settings) = .ok threshold) →
          ∃ name, usualLevel settings = .str name ∧
            run settings arguments stdin = { ending := .fault (.unusable (.unknownLevel name)) }) ∧
    ∀ level behind stdin, level ≠ "--" → upper level ∉ levelNames →
      (run settings (("--log-level=" ++ level) :: behind) stdin).ending = .exit 2 := by
  obtain ⟨level, indent, husual⟩ := usual_of_environment h
  refine ⟨⟨?_, ?_⟩, ?_, ?_⟩
  · -- one command line that cannot end otherwise is enough
    intro hsettles
    by_cases hlevel : ∃ threshold, Settings.threshold (usualLevel settings) = .ok threshold
    · exact hlevel
    · obtain ⟨arguments, i, hi, hpresentable, hdefault⟩ := exists_presentable husual
      have hrun := hsettles arguments "" fun j hj => by
        rw [hi] at hj
        cases hj
        exact hpresentable
      rw [run_of_unknown_level husual hlevel hi hdefault] at hrun
      obtain hexit | hexit := hrun
      · cases hexit
      · cases hexit
  · intro hlevel arguments stdin hpresentable
    cases hi : (command settings).invocation arguments with
    | ok i => exact settles_of_presentable husual hlevel hi (hpresentable i hi) stdin
    | error halt =>
      rw [run, Command.run, hi]
      cases halt with
      | misuse m => exact .inr rfl
      | help =>
        obtain ⟨text, htext⟩ := exists_help husual hlevel
        simp only [htext]
        exact .inl rfl
  · intro arguments i stdin hi hdefault hlevel
    exact ⟨_, usualLevel_eq husual, run_of_unknown_level husual hlevel hi hdefault stdin⟩
  · intro level behind stdin hdashes hchoice
    rw [run, Command.run, logLevel_refused settings hdashes hchoice behind]
    cases (command settings).words behind <;> rfl

/-- A level may be written in small letters, and the indentation may be negative. -/
theorem settles_iff_level_debug : ∃ settings,
    Settings.ofEnvironment [("FIELDSPEC_LOG_LEVEL", "debug"), ("FIELDSPEC_INDENT_JSON", "-4")] =
        .ok settings ∧
      ∀ arguments stdin,
        (∀ i, (command settings).invocation arguments = .ok i → Presentable i) →
          Settles (run settings arguments stdin) := by
  have hbuilt : Settings.ofEnvironment
      [("FIELDSPEC_LOG_LEVEL", "debug"), ("FIELDSPEC_INDENT_JSON", "-4")] = .ok (Settings.ofVariables
        [("FIELDSPEC_LOG_LEVEL", "debug"), ("FIELDSPEC_INDENT_JSON", "-4")] 8080 (-4)) := rfl
  exact ⟨_, hbuilt, (settles_iff_level hbuilt).1.mpr ⟨10, rfl⟩⟩

/-- An environment may name a level that has no rank. The command then breaks off, while the same level is
a misuse where it is written as an option. -/
theorem unknown_level_taken : ∃ settings,
    Settings.ofEnvironment [("FIELDSPEC_LOG_LEVEL", "loud")] = .ok settings ∧
      (∀ i, (command settings).invocation ["text"] = .ok i → Presentable i) ∧
      run settings ["text"] "" = { ending := .fault (.unusable (.unknownLevel "LOUD")) } ∧
      run settings ["--log-level=loud", "text"] "" =
        (command settings).misused (.notAChoice "--log-level" "LOUD" levelNames) := by
  have hbuilt : Settings.ofEnvironment [("FIELDSPEC_LOG_LEVEL", "loud")] =
      .ok (Settings.ofVariables [("FIELDSPEC_LOG_LEVEL", "loud")] 8080 2) := rfl
  have husual : Usual (Settings.ofVariables [("FIELDSPEC_LOG_LEVEL", "loud")] 8080 2) "LOUD" 2 :=
    ⟨rfl, rfl, _, rfl⟩
  have hinvocation : (command (Settings.ofVariables [("FIELDSPEC_LOG_LEVEL", "loud")] 8080 2)).invocation
      ["text"] = .ok ⟨["text"], [("help", .null), ("schema", .bool false), ("form_id", .str "form"),
        ("title", .str "Form"), ("indent", .int 2), ("log_level", .str "LOUD"),
        ("verbose", .bool false)]⟩ := rfl
  have hupper : upper "LOUD" = "LOUD" := by decide
  have hlevel : ¬ ∃ threshold, Settings.threshold (usualLevel
      (Settings.ofVariables [("FIELDSPEC_LOG_LEVEL", "loud")] 8080 2)) = .ok threshold := by
    rw [usualLevel_eq husual, threshold_str, hupper]
    decide
  refine ⟨_, hbuilt, ?_, ?_, ?_⟩
  · rw [hinvocation]
    rintro i ⟨rfl⟩
    constructor
    · rintro n ⟨rfl⟩
      decide
    · exact value_ne_nothing (by simp)
  · have hdefault : usualLevel (Settings.ofVariables [("FIELDSPEC_LOG_LEVEL", "loud")] 8080 2) =
        .str "LOUD" := by
      rw [usualLevel_eq husual, hupper]
    rw [run_of_unknown_level husual hlevel hinvocation hdefault.symm, hupper]
  · have hrefused := logLevel_refused (Settings.ofVariables [("FIELDSPEC_LOG_LEVEL", "loud")] 8080 2)
      (by decide : "loud" ≠ "--") (by decide) ["text"]
    have hword : "--log-level=" ++ "loud" = "--log-level=loud" := by decide
    rw [hword] at hrefused
    rw [run, Command.run, hrefused]
    rfl

end FormLine.Program
