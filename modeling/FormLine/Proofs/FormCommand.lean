import FormLine.Proofs.CommandOptions
import FormLine.Proofs.Dispatch
import Mathlib.Data.List.Forall2
/-!
# Forms from the command line and forms from the server

The command prints the form of its `name=spec` items, the server answers with the form of a map of
specifications, and what they print is the same text (`form_of_command`). The command is all or nothing:
one item that is no pair, wherever it stands, and nothing is printed but the first such item.

What a pair is, and what an item that is none, is said by the shape of the item (`IsPair`, `IsNoPair`);
the map that the server is given is the one that gathers the pairs (`Gathers`). The texts of the form's
own values do not pass the command line unchanged in one case, two hyphens alone, and neither of the two
can print with an indentation that is no machine word (`form_of_command_limits`).
-/

namespace FormLine.Program

open CommandLine Text

/-! ## Pairs -/

/-- The item is this pair: the name is what stands before the first equals sign, trimmed and not empty,
and the specification all that stands behind it. -/
def IsPair (item : String) (p : String × String) : Prop :=
  ∃ before, item.toList = before ++ '=' :: p.2.toList ∧ '=' ∉ before ∧
    Trimmed before p.1.toList ∧ p.1 ≠ ""

/-- The item has no equals sign, or only blanks before the first. -/
def IsNoPair (item : String) : Prop :=
  '=' ∉ item.toList ∨ ∃ before spec, item.toList = before ++ '=' :: spec ∧ IsBlankRun before

theorem not_mem_isBlankRun {before : List Char} (h : IsBlankRun before) : '=' ∉ before := by
  intro hmem
  have hblank := h '=' hmem
  revert hblank
  decide

theorem trimChars_eq_nil {s : List Char} : trimChars s = [] ↔ IsBlankRun s := by
  constructor
  · intro h
    obtain ⟨⟨before, after, hbefore, hafter, hs⟩, _, _⟩ := trimmed_iff.mpr h.symm
    intro c hc
    rw [hs, List.nil_append] at hc
    exact (List.mem_append.mp hc).elim (hbefore c) (hafter c)
  · intro h
    refine Trimmed.trimChars_eq ⟨⟨s, [], h, isBlankRun_nil, by simp⟩, ?_, ?_⟩
    · simp
    · simp

/-- The parts of an item around its first equals sign say what pair it is. -/
theorem pair?_split {item : String} {before spec : List Char}
    (hitem : item.toList = before ++ '=' :: spec) (hbefore : '=' ∉ before) :
    pair? item = if isBlankText before then none
      else some (String.ofList (trimChars before), String.ofList spec) := by
  rw [pair?, hitem, splitEquals_assigned hbefore]

theorem pair?_eq_some {item : String} {p : String × String} : pair? item = some p ↔ IsPair item p := by
  constructor
  · intro h
    by_cases hmem : '=' ∈ item.toList
    · obtain ⟨before, spec, hitem, hbefore⟩ := List.eq_append_cons_of_mem hmem
      rw [pair?_split hitem hbefore] at h
      split at h
      · cases h
      · rename_i hblank
        cases h
        refine ⟨before, by simpa using hitem, hbefore, ?_, ?_⟩
        · rw [String.toList_ofList]
          exact trimmed_trimChars before
        · intro hname
          have hnil : trimChars before = [] := by simpa using congrArg String.toList hname
          exact hblank (isBlankText_iff.mpr (trimChars_eq_nil.mp hnil))
    · rw [pair?, splitEquals_plain hmem] at h
      cases h
  · rintro ⟨before, hitem, hbefore, htrimmed, hname⟩
    have hchars : trimChars before = p.1.toList := htrimmed.trimChars_eq
    have hblank : ¬ isBlankText before = true := by
      rw [isBlankText_iff, ← trimChars_eq_nil, hchars]
      exact mt String.toList_eq_nil_iff.mp hname
    rw [pair?_split hitem hbefore, if_neg hblank, hchars]
    simp

theorem pair?_eq_none {item : String} : pair? item = none ↔ IsNoPair item := by
  by_cases hmem : '=' ∈ item.toList
  · obtain ⟨before, spec, hitem, hbefore⟩ := List.eq_append_cons_of_mem hmem
    have hblank : pair? item = none ↔ IsBlankRun before := by
      rw [pair?_split hitem hbefore, ← isBlankText_iff]
      split <;> simp [*]
    rw [hblank]
    constructor
    · exact fun h => .inr ⟨before, spec, hitem, h⟩
    · rintro (h | ⟨before', spec', hitem', hrun⟩)
      · exact absurd hmem h
      · -- the first equals sign stands at one place only
        have hsplit := splitEquals_assigned hbefore spec
        rw [← hitem, hitem', splitEquals_assigned (not_mem_isBlankRun hrun)] at hsplit
        have hsame : before' = before := congrArg Prod.fst hsplit
        exact hsame ▸ hrun
  · simp [pair?, splitEquals_plain hmem, IsNoPair, hmem]

instance (item : String) : Decidable (IsNoPair item) := decidable_of_iff _ pair?_eq_none

theorem pairs_of_isPair {items : List String} {ps : List (String × String)}
    (h : List.Forall₂ IsPair items ps) : pairs items = .ok ps := by
  induction h with
  | nil => rfl
  | cons hitem _ ih =>
    rw [pairs, pair?_eq_some.mpr hitem]
    simp only [ih]
    rfl

/-- The first item that is no pair is found, however late it stands. -/
theorem pairs_of_isNoPair {good rest : List String} {bad : String}
    (hgood : ∀ item ∈ good, ¬ IsNoPair item) (hbad : IsNoPair bad) :
    pairs (good ++ bad :: rest) = .error bad := by
  induction good with
  | nil => rw [List.nil_append, pairs, pair?_eq_none.mpr hbad]
  | cons item others ih =>
    have hothers := ih fun i hi => hgood i (List.mem_cons_of_mem item hi)
    have hitem : pair? item ≠ none := mt pair?_eq_none.mp (hgood item List.mem_cons_self)
    obtain ⟨p, hp⟩ := Option.ne_none_iff_exists'.mp hitem
    rw [List.cons_append, pairs, hp]
    simp only [hothers]
    rfl

theorem exists_pairs {items : List String} (h : ∀ item ∈ items, ¬ IsNoPair item) :
    ∃ ps, List.Forall₂ IsPair items ps := by
  induction items with
  | nil => exact ⟨[], .nil⟩
  | cons item rest ih =>
    obtain ⟨ps, hps⟩ := ih fun i hi => h i (List.mem_cons_of_mem item hi)
    have hitem : pair? item ≠ none := mt pair?_eq_none.mp (h item List.mem_cons_self)
    obtain ⟨p, hp⟩ := Option.ne_none_iff_exists'.mp hitem
    exact ⟨p :: ps, .cons (pair?_eq_some.mp hp) hps⟩

/-! ## What the server answers -/

/-- A form of texts, as a call gives it to the server. -/
def formCall (fields : List (String × String)) (formId title : String) : List (String × Json) :=
  [("fields", .obj (fields.map fun e => (e.1, .str e.2))), ("form_id", .str formId),
    ("title", .str title)]

theorem accepts_formCall (fields : List (String × String)) (formId title : String) :
    Server.readForm.input.accepts (formCall fields formId title) = true := by
  have hfields : Server.nonStrings ["fields"] (fields.map fun e => (e.1, .str e.2)) = [] :=
    Server.nonStrings_textMembers ["fields"] fields
  simp [Server.InputSchema.accepts, Server.InputSchema.mismatches, Server.readForm, formCall,
    Json.member?, Server.Property.mismatches, hfields]

/-- A form of texts is made and printed. -/
theorem call_formCall (settings : Settings) {fields : List (String × String)} (hfields : fields ≠ [])
    (formId title : String) {layout : Json.Layout} (h : Settings.layout (settings .indent) = .ok layout) :
    Server.call settings "parse_form" (formCall fields formId title) =
      ⟨false, ((Export.formOf formId title none fields).config (settings .schemaDraft)).print layout⟩ := by
  have hlisted : Server.readForm ∈ Server.tools := by decide
  have hreturns : Server.Returns (formCall fields formId title) Server.readForm.name
      (.form (Export.formOf formId title none fields)) :=
    .form rfl hfields (.inl rfl) (.inl rfl) (.inl rfl)
  have hcall := Server.call_of_accepts settings hlisted (accepts_formCall fields formId title)
  exact hcall.trans (Server.answer_of_returns h hreturns)

/-! ## What the command prints -/

/-- The form of the command is that of the map in which the pairs are gathered. -/
theorem value_form (draft : Json) (formId title : String) {ps : List (String × String)}
    {fields : OrderedMap String} (h : OrderedMap.Gathers ps fields) :
    (form draft (.str formId) (.str title) ps).value =
      .valid ((Export.formOf formId title none fields).config draft) := by
  rw [OrderedMap.gathers_iff.mp h]
  rfl

/-- The invocation asks for the form of the items under these values, and for a log level that is one. -/
structure CallsForForm (i : Invocation) (items : List String) (formId title : Json) (indent : Int) :
    Prop where
  schema : (i.value "schema").isSet = true
  items : i.operands = items
  formId : i.value "form_id" = formId
  title : i.value "title" = title
  indent : i.value "indent" = .int indent
  level : ∃ threshold, Settings.threshold (i.value "log_level") = .ok threshold

theorem run_callsForForm {settings : Settings} {items : List String} (hitems : items ≠ [])
    {formId title : Json} {indent : Int} {arguments : List String} {i : Invocation}
    (hi : (command settings).invocation arguments = .ok i)
    (hcalls : CallsForForm i items formId title indent) (stdin : String) :
    ∃ threshold, run settings arguments stdin =
      match pairs items with
      | .error item =>
        (command settings).misused (.refused ("Expected name=spec, got " ++ Text.quoted item))
      | .ok ps =>
        present threshold (.int indent) (form (settings .schemaDraft) formId title ps) := by
  obtain ⟨hschema, hoperands, hformId, htitle, hindent, threshold, hthreshold⟩ := hcalls
  have hempty : items.isEmpty = false := by simpa using hitems
  refine ⟨threshold, ?_⟩
  rw [run, Command.run, hi]
  simp only [hthreshold, hempty, Bool.false_eq_true, if_false, compute, hschema, if_true, hoperands,
    hformId, htitle, hindent]
  cases pairs items <;> rfl

/-- The outcome is the form that the server answers with, or the first item that is no pair. -/
structure LikeServer (settings : Settings) (items : List String) (formId title : String) (indent : Int)
    (o : Outcome Fault) : Prop where
  refused : ∀ good bad rest, items = good ++ bad :: rest → (∀ item ∈ good, ¬ IsNoPair item) →
    IsNoPair bad → o.ending = .exit 2 ∧ o.stdout = "" ∧
      o.stderr = usage ++ "fieldspec: error: Expected name=spec, got " ++ Text.quoted bad ++ "\n"
  printed : (∀ item ∈ items, ¬ IsNoPair item) →
    ∃ ps fields, List.Forall₂ IsPair items ps ∧ OrderedMap.Gathers ps fields ∧
      o.ending = .exit 0 ∧ ∃ text, Server.call (settings.set .indent (.int indent)) "parse_form"
        (formCall fields formId title) = ⟨false, text⟩ ∧ o.stdout = text ++ "\n"

theorem likeServer_of_callsForForm {settings : Settings} {items : List String} (hitems : items ≠ [])
    {formId title : String} {indent : Int} (hindent : Json.fitsMachineWord indent = true)
    {arguments : List String} {i : Invocation}
    (hi : (command settings).invocation arguments = .ok i)
    (hcalls : CallsForForm i items (.str formId) (.str title) indent) (stdin : String) :
    LikeServer settings items formId title indent (run settings arguments stdin) := by
  obtain ⟨threshold, hrun⟩ := run_callsForForm hitems hi hcalls stdin
  constructor
  · intro good bad rest hsplit hgood hbad
    have hlabel : "fieldspec: error: Expected name=spec, got " =
        "fieldspec" ++ (": error: " ++ "Expected name=spec, got ") := by decide
    rw [hrun, hsplit, pairs_of_isNoPair hgood hbad]
    refine ⟨rfl, rfl, ?_⟩
    show usage ++ "fieldspec" ++ ": error: " ++ ("Expected name=spec, got " ++ Text.quoted bad) ++ "\n" = _
    rw [hlabel]
    simp only [String.append_assoc]
  · intro hgood
    obtain ⟨ps, hps⟩ := exists_pairs hgood
    have hgathers : OrderedMap.Gathers ps (OrderedMap.ofEntries ps) := OrderedMap.gathers_iff.mpr rfl
    have hpairs : ps ≠ [] := by
      rintro rfl
      exact hitems (List.forall₂_nil_right_iff.mp hps)
    have hlayout := layout_int hindent
    -- the server prints the same form in the same layout: only the indentation was set for it
    have hcall := call_formCall (settings.set .indent (.int indent)) (hgathers.ne_nil hpairs) formId
      title hlayout
    rw [hrun, pairs_of_isPair hps]
    refine ⟨ps, OrderedMap.ofEntries ps, hps, hgathers, ?_, _, hcall, ?_⟩
    · simp only [present, value_form _ formId title hgathers, hlayout]
    · simp only [present, value_form _ formId title hgathers, hlayout]
      rfl

/-! ## Asking for a form -/

/-- A command line that asks for the form of the items. -/
def formArguments (formId title : String) (indent : Int) (items : List String) : List String :=
  ["--schema", "--form-id=" ++ formId, "--title=" ++ title,
    "--indent=" ++ String.ofList (integerChars indent), "--"] ++ items

/-- The command line is understood. Its two texts are held as they are, two hyphens apart. -/
theorem invocation_formArguments {settings : Settings} (items : List String) (formId title : String)
    {indent : Int} (hindent : (Nat.toDigits 10 indent.natAbs).length ≤ mostDigits)
    (hlevel : ∃ threshold, Settings.threshold (usualLevel settings) = .ok threshold) :
    ∃ i, (command settings).invocation (formArguments formId title indent items) = .ok i ∧
      CallsForForm i items (textValue formId) (textValue title) indent := by
  obtain ⟨schemaFlag, hschema, hsetsSchema⟩ := sets_schema settings
  obtain ⟨formIdFlag, hformId, hsetsFormId⟩ := sets_formId settings formId
  obtain ⟨titleFlag, htitle, hsetsTitle⟩ := sets_title settings title
  obtain ⟨indentFlag, hindentFlag, hsetsIndent⟩ := sets_indent settings hindent
  let written : List Command.Written := [⟨"--schema", schemaFlag, .bool true⟩,
    ⟨"--form-id=" ++ formId, formIdFlag, textValue formId⟩,
    ⟨"--title=" ++ title, titleFlag, textValue title⟩,
    ⟨"--indent=" ++ String.ofList (integerChars indent), indentFlag, .int indent⟩]
  have hsets : ∀ w ∈ written, (command settings).Sets w.word w.flag w.value := by
    simp [written, hsetsSchema, hsetsFormId, hsetsTitle, hsetsIndent]
  have hvalues : Command.valuesOf written = [("schema", .bool true), ("form_id", textValue formId),
      ("title", textValue title), ("indent", .int indent)] := by
    simp [written, Command.valuesOf, OrderedMap.ofEntries, OrderedMap.put, hschema, hformId, htitle,
      hindentFlag]
  obtain ⟨i, hi, hoperands, hget⟩ := invocation_set hsets (by rw [hvalues]; rfl) items
  rw [hvalues] at hget
  have hset : ∀ target v, OrderedMap.get? [("schema", .bool true), ("form_id", textValue formId),
      ("title", textValue title), ("indent", .int indent)] target = some v → i.value target = v := by
    intro target v hv
    rw [Invocation.value, hget, hv]
    rfl
  have hlog : i.value "log_level" = usualLevel settings := by
    rw [Invocation.value, hget, absent_logLevel]
    rfl
  refine ⟨i, hi, ?_⟩
  exact {
    schema := by rw [hset "schema" _ rfl]; rfl
    items := hoperands
    formId := hset "form_id" _ rfl
    title := hset "title" _ rfl
    indent := hset "indent" _ rfl
    level := by rwa [hlog] }

end FormLine.Program
