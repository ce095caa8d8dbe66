import FormLine.Proofs.CommandOptions
import FormLine.Proofs.JsonReading
import FormLine.Proofs.Outputs
import Mathlib.Data.List.Forall2
/-!
# Reports from the command line

What the command prints for specifications is decided by the specifications and by whether it is asked
for the tokens; the indentation decides the layout and nothing else, and the log level, the settings and
the way in which the specifications are given decide nothing (`reports_of_command`).

An outcome of the command is held against the reports by reading its output as JSON (`PrintsReports`).
Two outcomes are compared without naming what they print: they belong to the same specifications
(`IsReporting`). An indentation that is no machine word prints nothing (`reports_of_command_limit`).
-/

namespace FormLine.Program

open CommandLine Json Text

/-! ## What is printed -/

/-- The value lists the token. A token without parentheses has null for its arguments and one with empty
parentheses the empty array. -/
inductive Lists : Token → Json → Prop
  | bare (name : String) : Lists ⟨name, none⟩ (.obj [("name", .str name), ("args", .null)])
  | group (name : String) (items : List String) :
    Lists ⟨name, some items⟩ (.obj [("name", .str name), ("args", .arr (items.map .str))])

/-- The members that a verbose report has behind the others. -/
def ListsTokens (verbose : Bool) (spec : String) (members : List (String × Json)) : Prop :=
  if verbose then
    ∃ items, members = [("tokens", .arr items)] ∧ List.Forall₂ Lists (Token.ofText spec) items
  else members = []

/-- The value is the report of the specification, with its tokens where it is verbose. -/
def IsReport (verbose : Bool) (spec : String) (v : Json) : Prop :=
  ∃ listed, v = .obj ((Report.ofSpec spec).members ++ listed) ∧ ListsTokens verbose spec listed

/-- The outcome is a line of ASCII that is read as the reports of the specifications. -/
structure PrintsReports (verbose : Bool) (specs : List String) (o : Outcome Fault) : Prop where
  exit : o.ending = .exit 0
  printed : ∃ text items, o.stdout = text ++ "\n" ∧ IsAscii text.toList ∧
    read? text = some (.arr items) ∧ List.Forall₂ (IsReport verbose) specs items

theorem lists_iff (t : Token) (v : Json) : Lists t v ↔ v = tokenJson t := by
  constructor
  · intro h
    cases h with
    | bare name => rfl
    | group name items => rfl
  · rintro rfl
    obtain ⟨name, args⟩ := t
    cases args with
    | none => exact .bare name
    | some items => exact .group name items

theorem forall₂_iff_map {α : Type} {r : α → Json → Prop} {f : α → Json} (h : ∀ a v, r a v ↔ v = f a)
    {as : List α} {vs : List Json} : List.Forall₂ r as vs ↔ vs = as.map f := by
  have hr : r = fun a v => f a = v := by
    funext a v
    exact propext ((h a v).trans eq_comm)
  rw [hr, ← List.forall₂_map_left_iff (R := Eq), List.forall₂_eq_eq_eq, eq_comm]

theorem isReport_iff (verbose : Bool) (spec : String) (v : Json) :
    IsReport verbose spec v ↔ v = reportJson verbose (Report.ofSpec spec) := by
  cases verbose with
  | false =>
    constructor
    · rintro ⟨_, rfl, rfl⟩
      rfl
    · rintro rfl
      exact ⟨[], rfl, rfl⟩
  | true =>
    constructor
    · rintro ⟨_, rfl, items, rfl, hitems⟩
      rw [(forall₂_iff_map lists_iff).mp hitems]
      rfl
    · rintro rfl
      exact ⟨_, rfl, _, rfl, (forall₂_iff_map lists_iff).mpr rfl⟩

/-! ## Asking for reports -/

/-- The command is called for the reports of the specifications, which are its operands or the lines of
its input, with an indentation and with or without the tokens. It can be carried out with any value for
the log level that is one. -/
structure CallsForReports (i : Invocation) (stdin : String) (specs : List String) (indent : Int)
    (verbose : Bool) : Prop where
  schema : (i.value "schema").isSet = false
  specs : (if i.operands = [] then inputLines stdin else i.operands) = specs
  indent : i.value "indent" = .int indent
  verbose : (i.value "verbose").isSet = verbose
  level : ∃ threshold, Settings.threshold (i.value "log_level") = .ok threshold

/-- The outcome of a command line that calls for the reports, under some settings, with some log level and
with the specifications given in some way. -/
def IsReporting (specs : List String) (indent : Int) (verbose : Bool) (o : Outcome Fault) : Prop :=
  ∃ settings arguments stdin i, (command settings).invocation arguments = .ok i ∧
    CallsForReports i stdin specs indent verbose ∧ run settings arguments stdin = o

/-- The array of the reports. -/
def reportsJson (verbose : Bool) (specs : List String) : Json :=
  .arr (specs.map fun spec => reportJson verbose (Report.ofSpec spec))

theorem wellFormed_reportsJson (verbose : Bool) (specs : List String) :
    (reportsJson verbose specs).WellFormed := by
  refine wellFormed_arr.mpr fun v hv => ?_
  obtain ⟨spec, _, rfl⟩ := List.mem_map.mp hv
  exact wellFormed_reportJson verbose (Report.ofSpec spec)

theorem without_reportsJson (verbose : Bool) (specs : List String) :
    without "tokens" (reportsJson verbose specs) = reportsJson false specs := by
  simp only [reportsJson, without, withoutItems_eq_map, List.map_map, Function.comp_def,
    without_reportJson]

theorem run_callsForReports {settings : Settings} {arguments : List String} {i : Invocation}
    (hi : (command settings).invocation arguments = .ok i) {stdin : String} {specs : List String}
    {indent : Int} {verbose : Bool} (hcalls : CallsForReports i stdin specs indent verbose) :
    ∃ threshold, run settings arguments stdin =
      present threshold (.int indent) (reports verbose specs) := by
  obtain ⟨hschema, hspecs, hindent, hverbose, threshold, hthreshold⟩ := hcalls
  refine ⟨threshold, ?_⟩
  have hgiven : (if i.operands.isEmpty then inputLines stdin else i.operands) = specs := by
    simpa only [List.isEmpty_iff] using hspecs
  rw [run, Command.run, hi]
  simp only [hthreshold, hgiven, compute, hschema, Bool.false_eq_true, if_false, hindent, hverbose]

theorem isBlank_indentation (n : Nat) : Json.Layout.IsBlank (.lines (List.replicate n ' ')) := by
  intro c hc
  rw [List.eq_of_mem_replicate hc]
  decide

section Reporting

variable {specs : List String} {indent : Int} (hindent : fitsMachineWord indent = true) {verbose : Bool}
  {o : Outcome Fault} (ho : IsReporting specs indent verbose o)
include hindent ho

/-- Whatever logs the command writes, its output is the array of the reports, laid out. -/
theorem stdout_of_isReporting : o.ending = .exit 0 ∧
    o.stdout = (reportsJson verbose specs).print (.lines (List.replicate indent.toNat ' ')) ++ "\n" := by
  obtain ⟨settings, arguments, stdin, i, hi, hcalls, rfl⟩ := ho
  -- the threshold decides what is written to the log, which is not the output
  obtain ⟨threshold, hrun⟩ := run_callsForReports hi hcalls
  have hlayout := layout_int hindent
  have hvalue : (reports verbose specs).value = .valid (reportsJson verbose specs) := by
    simp only [reports, reportsJson, List.map_map, Function.comp_def]
  simp only [hrun, present, hvalue, hlayout, and_self]

theorem printsReports_of_isReporting : PrintsReports verbose specs o := by
  obtain ⟨hexit, hstdout⟩ := stdout_of_isReporting hindent ho
  have hblank := isBlank_indentation indent.toNat
  have hwell := wellFormed_reportsJson verbose specs
  exact ⟨hexit, _, _, hstdout, isAscii_print hblank hwell, read?_print hblank hwell,
    (forall₂_iff_map (isReport_iff _)).mpr rfl⟩

/-- What the output is read as does not depend on the indentation. -/
theorem read?_of_isReporting : read? o.stdout = some (reportsJson verbose specs) := by
  rw [(stdout_of_isReporting hindent ho).2]
  exact read?_print_line (isBlank_indentation _) (wellFormed_reportsJson verbose specs)

end Reporting

/-! ## Command lines -/

/-- A command line that asks for the reports of the specifications. -/
def reportArguments (indent : Int) (level : String) (verbose : Bool) (specs : List String) :
    List String :=
  ["--indent=" ++ String.ofList (integerChars indent), "--log-level=" ++ level] ++
    (if verbose then ["--verbose"] else []) ++ "--" :: specs

theorem exists_threshold {name : String} (h : name ∈ levelNames) :
    ∃ threshold, Settings.threshold (.str name) = .ok threshold := by
  simp only [levelNames, List.mem_cons, List.not_mem_nil, or_false] at h
  obtain rfl | rfl | rfl | rfl | rfl := h
  · exact ⟨10, rfl⟩
  · exact ⟨20, rfl⟩
  · exact ⟨30, rfl⟩
  · exact ⟨40, rfl⟩
  · exact ⟨50, rfl⟩

/-- The command line is understood, whatever the specifications are. -/
theorem invocation_reportArguments {settings : Settings} (specs : List String) {indent : Int}
    (hindent : (Nat.toDigits 10 indent.natAbs).length ≤ mostDigits) {level : String}
    (hlevel : upper level ∈ levelNames) {verbose : Bool}
    (hverbose : (settings .verbose).isSet = true → verbose = true) :
    ∃ i, (command settings).invocation (reportArguments indent level verbose specs) = .ok i ∧
      i.value "log_level" = .str (upper level) ∧ CallsForReports i "" specs indent verbose := by
  obtain ⟨indentFlag, hindentFlag, hsetsIndent⟩ := sets_indent settings hindent
  obtain ⟨levelFlag, hlevelFlag, hsetsLevel⟩ := sets_logLevel settings hlevel
  obtain ⟨verboseFlag, hverboseFlag, hsetsVerbose⟩ := sets_verbose settings
  let written : List Command.Written :=
    [⟨"--indent=" ++ String.ofList (integerChars indent), indentFlag, .int indent⟩,
      ⟨"--log-level=" ++ level, levelFlag, .str (upper level)⟩] ++
    if verbose then [⟨"--verbose", verboseFlag, .bool true⟩] else []
  have hsets : ∀ w ∈ written, (command settings).Sets w.word w.flag w.value := by
    cases verbose <;> simp [written, hsetsIndent, hsetsLevel, hsetsVerbose]
  have hwords : written.map Command.Written.word ++ "--" :: specs =
      reportArguments indent level verbose specs := by
    cases verbose <;> rfl
  have hvalues : Command.valuesOf written = [("indent", .int indent), ("log_level", .str (upper level))] ++
      if verbose then [("verbose", .bool true)] else [] := by
    cases verbose <;>
      simp [written, Command.valuesOf, OrderedMap.ofEntries, OrderedMap.put, hindentFlag, hlevelFlag,
        hverboseFlag]
  obtain ⟨i, hi, hoperands, hget⟩ := invocation_set hsets (by rw [hvalues]; rfl) specs
  rw [hwords] at hi
  rw [hvalues] at hget
  have hlog : i.value "log_level" = .str (upper level) := by
    rw [Invocation.value, hget]
    rfl
  refine ⟨i, hi, hlog, ?_⟩
  exact {
    schema := by
      rw [Invocation.value, hget]
      cases verbose <;> rfl
    specs := by
      rw [hoperands]
      split
      · rename_i hempty
        rw [hempty]
        decide
      · rfl
    indent := by rw [Invocation.value, hget]; rfl
    verbose := by
      rw [Invocation.value, hget]
      cases verbose with
      | true => rfl
      | false =>
        show (settings .verbose).isSet = false
        simpa using hverbose
    level := by
      rw [hlog]
      exact exists_threshold hlevel }

/-- **The output of the command is what reading the specifications gives, however it is presented.** The
reports of any specifications can be asked for at every level, and every outcome of such a command line
is a line of JSON that is read as the reports. The same request gives the same output under all settings
and log levels; another indentation gives an output that is read as the same value; and the reports that
are not verbose are the verbose ones without their tokens. -/
theorem reports_of_command (specs : List String) {indent : Int}
    (hindent : fitsMachineWord indent = true) (verbose : Bool) :
    (∀ level, upper level ∈ levelNames → ∃ i,
      (command Settings.defaults).invocation (reportArguments indent level verbose specs) = .ok i ∧
        i.value "log_level" = .str (upper level) ∧ CallsForReports i "" specs indent verbose) ∧
    ∀ o, IsReporting specs indent verbose o → PrintsReports verbose specs o ∧
      (∀ o', IsReporting specs indent verbose o' → o'.stdout = o.stdout ∧ o'.ending = o.ending) ∧
      ∀ indent' o', fitsMachineWord indent' = true →
        (IsReporting specs indent' verbose o' → read? o'.stdout = read? o.stdout) ∧
        (IsReporting specs indent' false o' →
          read? o'.stdout = (read? o.stdout).map (without "tokens")) := by
  have hdigits := length_digits_machineWord hindent
  constructor
  · intro level hlevel
    exact invocation_reportArguments specs hdigits hlevel nofun
  · intro o ho
    obtain ⟨hexit, hstdout⟩ := stdout_of_isReporting hindent ho
    have hread := read?_of_isReporting hindent ho
    refine ⟨printsReports_of_isReporting hindent ho, ?_, ?_⟩
    · intro o' ho'
      obtain ⟨hexit', hstdout'⟩ := stdout_of_isReporting hindent ho'
      exact ⟨hstdout'.trans hstdout.symm, hexit'.trans hexit.symm⟩
    · intro indent' o' hindent'
      constructor
      · intro ho'
        rw [hread]
        exact read?_of_isReporting hindent' ho'
      · intro ho'
        rw [hread, Option.map_some, without_reportsJson]
        exact read?_of_isReporting hindent' ho'

/-- The members of a report keep their order, empty parentheses and missing ones stay apart, and the
characters of a specification come back from their escapes. -/
theorem reports_of_command_escaped :
    ∃ text, (run Settings.defaults (reportArguments (-1) "debug" true ["é\"\x01𝔸", "select() x"])
        "").stdout = text ++ "\n" ∧ IsAscii text.toList ∧
      read? text = some (.arr [
        .obj [("spec", .str "é\"\x01𝔸"),
          ("metadata", .obj [("required", .bool false), ("component", .null), ("arguments", .null)]),
          ("diagnostics", .arr []),
          ("tokens", .arr [.obj [("name", .str "é"), ("args", .null)],
            .obj [("name", .str "𝔸"), ("args", .null)]])],
        .obj [("spec", .str "select() x"),
          ("metadata", .obj [("component", .str "select"), ("arguments", .arr []),
            ("required", .bool false)]),
          ("diagnostics", .arr []),
          ("tokens", .arr [.obj [("name", .str "select"), ("args", .arr [])],
            .obj [("name", .str "x"), ("args", .null)]])]]) := by
  have hword : fitsMachineWord (-1) = true := by decide
  obtain ⟨hasked, houtcome⟩ :=
    reports_of_command ["é\"\x01𝔸", "select() x"] hword true
  obtain ⟨i, hi, _, hcalls⟩ := hasked "debug" (by decide)
  have ho : IsReporting ["é\"\x01𝔸", "select() x"] (-1) true _ :=
    ⟨Settings.defaults, _, "", i, hi, hcalls, rfl⟩
  obtain ⟨text, items, hstdout, hascii, hread, hitems⟩ := (houtcome _ ho).1.printed
  refine ⟨text, hstdout, hascii, ?_⟩
  have hletters : Token.ofText "é\"\x01𝔸" = [⟨"é", none⟩, ⟨"𝔸", none⟩] := by decide +kernel
  have hselect : Token.ofText "select() x" = [⟨"select", some []⟩, ⟨"x", none⟩] := by decide +kernel
  rw [hread, (forall₂_iff_map (isReport_iff _)).mp hitems]
  simp only [List.map_cons, List.map_nil, reportJson, Report.members, Report.ofSpec, hletters, hselect]
  rfl

/-- An indentation that is no machine word prints nothing. -/
theorem reports_of_command_limit :
    (∃ o, IsReporting ["text"] (-100000000000000000000) false o) ∧
      ∀ o, IsReporting ["text"] (-100000000000000000000) false o → ¬ PrintsReports false ["text"] o := by
  have hdigits := length_digits_le (by decide : (-100000000000000000000 : Int).natAbs < 10 ^ 21)
    (by decide)
  constructor
  · have hlevel : upper "INFO" ∈ levelNames := by decide
    have hverbose : (Settings.defaults .verbose).isSet = true → false = true := nofun
    obtain ⟨i, hi, _, hcalls⟩ := invocation_reportArguments ["text"] hdigits hlevel hverbose
    exact ⟨_, Settings.defaults, _, "", i, hi, hcalls, rfl⟩
  · rintro o ⟨settings, arguments, stdin, i, hi, hcalls, rfl⟩ hprints
    obtain ⟨threshold, hrun⟩ := run_callsForReports hi hcalls
    have hexit := hprints.exit
    rw [hrun] at hexit
    cases hexit

end FormLine.Program
