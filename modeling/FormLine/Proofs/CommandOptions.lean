import FormLine.Program
import FormLine.Proofs.Numerals
import FormLine.Proofs.OptionWords
/-!
# The options of the command that reads specifications

How each option of the command is written and the value that it sets (`sets_schema` and so on), and what
the command is called with where its options stand in front of two hyphens (`invocation_set`): each value
that is not set is the default of its option. Only a default for the indentation can be refused, so such
a command line is understood, under whatever settings, when it sets the indentation.
-/

namespace FormLine.Program

open CommandLine Text

/-! ## The values that options set -/

theorem names_command (settings : Settings) : (command settings).names.map Prod.fst =
    ["-h", "--help", "--schema", "--form-id", "--title", "--indent", "--log-level", "--verbose"] := rfl

theorem plain_names (settings : Settings) : ∀ e ∈ (command settings).names, '=' ∉ e.1.toList := by
  intro e he
  have hname := List.mem_map_of_mem (f := Prod.fst) he
  rw [names_command] at hname
  revert hname
  generalize e.1 = name
  revert name
  decide

theorem sets_schema (settings : Settings) :
    ∃ f, f.target = "schema" ∧ (command settings).Sets "--schema" f (.bool true) :=
  ⟨_, rfl, Command.sets_switch rfl rfl (by decide) rfl⟩

theorem sets_formId (settings : Settings) (formId : String) : ∃ f, f.target = "form_id" ∧
    (command settings).Sets ("--form-id=" ++ formId) f (textValue formId) := by
  have hword : "--form-id=" ++ formId = "--form-id" ++ "=" ++ formId := by simp
  rw [hword]
  exact ⟨_, rfl, Command.sets_text (plain_names settings) rfl rfl (by decide) rfl⟩

theorem sets_title (settings : Settings) (title : String) : ∃ f, f.target = "title" ∧
    (command settings).Sets ("--title=" ++ title) f (textValue title) := by
  have hword : "--title=" ++ title = "--title" ++ "=" ++ title := by simp
  rw [hword]
  exact ⟨_, rfl, Command.sets_text (plain_names settings) rfl rfl (by decide) rfl⟩

/-- An integer may be written in any way that is read as one. -/
theorem sets_integer (settings : Settings) {text : String} {indent : Int}
    (h : Text.integer? text = some indent) : ∃ f, f.target = "indent" ∧
    (command settings).Sets ("--indent=" ++ text) f (.int indent) := by
  have hvalue : text ≠ "--" := by
    rintro rfl
    cases h
  have hword : "--indent=" ++ text = "--indent" ++ "=" ++ text := by simp
  rw [hword]
  refine ⟨_, rfl, Command.sets_read (plain_names settings) rfl rfl (by decide) rfl hvalue ?_⟩
  simp only [Flag.read, h]
  rfl

theorem sets_indent (settings : Settings) {indent : Int}
    (h : (Nat.toDigits 10 indent.natAbs).length ≤ mostDigits) : ∃ f, f.target = "indent" ∧
    (command settings).Sets ("--indent=" ++ String.ofList (integerChars indent)) f (.int indent) :=
  sets_integer settings (integer?_integerChars h)

/-- A level may be written in any case. -/
theorem sets_logLevel (settings : Settings) {level : String} (h : Text.upper level ∈ levelNames) :
    ∃ f, f.target = "log_level" ∧
      (command settings).Sets ("--log-level=" ++ level) f (.str (Text.upper level)) := by
  have hvalue : level ≠ "--" := by
    rintro rfl
    revert h
    decide
  have hword : "--log-level=" ++ level = "--log-level" ++ "=" ++ level := by simp
  have hchosen : levelNames.contains (Text.upper level) = true := List.contains_iff_mem.mpr h
  rw [hword]
  refine ⟨_, rfl, Command.sets_read (plain_names settings) rfl rfl (by decide) rfl hvalue ?_⟩
  simp only [Flag.read, Except.bind, Flag.choose, Json.plain, hchosen, Bool.or_true, if_true]

/-- A level that is no choice in any case is refused. -/
theorem logLevel_refused (settings : Settings) {level : String} (hlevel : level ≠ "--")
    (h : Text.upper level ∉ levelNames) (behind : List String) :
    (command settings).invocation (("--log-level=" ++ level) :: behind) =
      match (command settings).words behind with
      | .error m => .error (.misuse m)
      | .ok _ => .error (.misuse (.notAChoice "--log-level" (Text.upper level) levelNames)) := by
  obtain ⟨f, hname, htitle, heffect⟩ : ∃ f, (command settings).flag? "--log-level" = some f ∧
      f.title = "--log-level" ∧ f.effect = .value .upper levelNames := ⟨_, rfl, rfl, rfl⟩
  have hword : "--log-level=" ++ level = "--log-level" ++ "=" ++ level := by simp
  have hchosen : levelNames.contains (Text.upper level) = false := by simpa using h
  have hread : (f.read .upper level).bind (f.choose levelNames) =
      .error (.notAChoice "--log-level" (Text.upper level) levelNames) := by
    simp only [Flag.read, Except.bind, Flag.choose, Json.plain, hchosen, htitle]
    rfl
  rw [hword]
  exact Command.invocation_refused (plain_names settings) hname rfl (by decide) heffect hlevel hread behind

theorem sets_verbose (settings : Settings) :
    ∃ f, f.target = "verbose" ∧ (command settings).Sets "--verbose" f (.bool true) :=
  ⟨_, rfl, Command.sets_switch rfl rfl (by decide) rfl⟩

/-! ## The values that are not set -/

/-- Whatever the settings are, only a text that is set for the indentation can be refused. -/
theorem exists_absent (settings : Settings) {f : Flag} (hf : f ∈ (command settings).flags)
    (h : f.target ≠ "indent") : ∃ v, f.absent = .ok v := by
  simp only [command, List.mem_cons, List.not_mem_nil, or_false] at hf
  obtain rfl | rfl | rfl | rfl | rfl | rfl | rfl := hf
  · exact ⟨_, rfl⟩
  · exact ⟨_, rfl⟩
  · exact ⟨_, rfl⟩
  · exact ⟨_, rfl⟩
  · exact absurd rfl h
  · rw [Flag.absent]
    cases settings .logLevel <;> exact ⟨_, rfl⟩
  · exact ⟨_, rfl⟩

/-- The log level of a command line that names none. -/
def usualLevel (settings : Settings) : Json :=
  match settings .logLevel with
  | .str name => .str (Text.upper name)
  | v => v

theorem exists_logLevel (settings : Settings) : ∃ f,
    ((command settings).flags.find? fun f => f.target == "log_level") = some f ∧
      f.effect = .value .upper levelNames ∧ f.absent = .ok (usualLevel settings) := by
  obtain ⟨f, hf, heffect, hdefault⟩ : ∃ f,
      ((command settings).flags.find? fun f => f.target == "log_level") = some f ∧
        f.effect = .value .upper levelNames ∧ f.default = settings .logLevel := ⟨_, rfl, rfl, rfl⟩
  refine ⟨f, hf, heffect, ?_⟩
  rw [Flag.absent, heffect, hdefault, usualLevel]
  cases settings .logLevel <;> rfl

theorem absent_logLevel (settings : Settings) :
    (((command settings).flags.find? fun f => f.target == "log_level").bind
      fun f => f.absent.toOption) = some (usualLevel settings) := by
  obtain ⟨f, hf, _, habsent⟩ := exists_logLevel settings
  rw [hf, Option.bind_some, habsent]
  rfl

/-- An indentation that is a machine word is a layout: that many blanks, none where it is negative. -/
theorem layout_int {indent : Int} (h : Json.fitsMachineWord indent = true) :
    Settings.layout (.int indent) = .ok (.lines (List.replicate indent.toNat ' ')) := by
  rw [Settings.layout, if_pos h]

/-- A command line with its options in front is understood where it sets the indentation. -/
theorem invocation_set {settings : Settings} {written : List Command.Written}
    (h : ∀ w ∈ written, (command settings).Sets w.word w.flag w.value)
    (hindent : (Command.valuesOf written).has "indent" = true) (items : List String) :
    ∃ i, (command settings).invocation (written.map Command.Written.word ++ "--" :: items) = .ok i ∧
      i.operands = items ∧ ∀ target, i.values.get? target =
        ((Command.valuesOf written).get? target).or
          (((command settings).flags.find? fun f => f.target == target).bind
            fun f => f.absent.toOption) := by
  obtain ⟨filled, hfilled⟩ : ∃ filled,
      defaults (command settings).flags (Command.valuesOf written) = .ok filled := by
    refine exists_defaults fun f hf hfresh => exists_absent settings hf ?_
    intro htarget
    rw [htarget, hindent] at hfresh
    cases hfresh
  exact ⟨_, Command.invocation_written h rfl items hfilled, rfl, get?_defaults hfilled⟩

end FormLine.Program
