import FormLine.Proofs.Export
import FormLine.Server.Tool
/-!
# Results and refusals of the tools

Which calls of a tool give a result (`Returns`) and why the others give none (`Refuses`), said by the
arguments alone. Every call is one or the other (`returns_or_refuses`), and running a tool gives exactly
that (`handle_eq_ok`, `handle_eq_error`).

A call may have several faults at once. A specification that is no text comes first, and of several such
specifications the first; all of the form's own values that are no texts are named together
(`ofReports?_misfits`), because the problems of one record add up (`Checked.Tells`).
-/

namespace FormLine

/-! ## Problems that add up -/

namespace Checked

variable {α β : Type} {ps qs : List Problem}

/-- These are the problems of the reading, which gives a record where there are none. -/
def Tells (c : Checked α) (ps : List Problem) : Prop :=
  (∃ a, c = .valid a) ∧ ps = [] ∨ c = .invalid ps ∧ ps ≠ []

theorem Tells.map {c : Checked α} (h : c.Tells ps) (f : α → β) : (f <$> c).Tells ps := by
  obtain ⟨⟨a, rfl⟩, hps⟩ | ⟨rfl, hps⟩ := h
  · exact .inl ⟨⟨f a, rfl⟩, hps⟩
  · exact .inr ⟨rfl, hps⟩

theorem Tells.seq {f : Checked (α → β)} {c : Checked α} (hf : f.Tells ps) (hc : c.Tells qs) :
    (f <*> c).Tells (ps ++ qs) := by
  obtain ⟨⟨g, rfl⟩, rfl⟩ | ⟨rfl, hps⟩ := hf
  · exact hc.map g
  · obtain ⟨⟨a, rfl⟩, rfl⟩ | ⟨rfl, hqs⟩ := hc
    · rw [List.append_nil]
      exact .inr ⟨rfl, hps⟩
    · exact .inr ⟨rfl, by simp [hps]⟩

theorem Tells.eq_invalid {c : Checked α} (h : c.Tells ps) (hps : ps ≠ []) : c = .invalid ps := by
  obtain ⟨_, hnil⟩ | ⟨hc, _⟩ := h
  · exact absurd hnil hps
  · exact hc

end Checked

namespace Server

open Json

/-! ## The statement -/

/-- Specifications by the names of their fields, as an argument. -/
def textMembers (fields : List (String × String)) : List (String × Json) :=
  fields.map fun e => (e.1, .str e.2)

section Call

variable (arguments : List (String × Json))

/-- The argument is this text, or this is the text that is taken where it is absent. -/
def Gives (name absent text : String) : Prop :=
  member? name arguments = some (.str text) ∨ member? name arguments = none ∧ text = absent

/-- The argument is this text, or it is absent or null and there is none. -/
def GivesOptional (name : String) : Option String → Prop
  | some text => member? name arguments = some (.str text)
  | none => member? name arguments = none ∨ member? name arguments = some .null

/-- A text was expected of an argument that is there and is none. A description may be null. -/
def misfit (name : String) : List Problem :=
  match member? name arguments with
  | none => []
  | some (.str _) => []
  | some .null => if name = "description" then [] else [⟨[.key name], .string⟩]
  | some _ => [⟨[.key name], .string⟩]

/-- What is wrong with the form's own values. -/
def misfits : List Problem := ["form_id", "title", "description"].flatMap (misfit arguments)

/-- What the call of a tool gives. -/
inductive Returns : String → ToolResult → Prop
  | report {spec : String} (hspec : member? "spec" arguments = some (.str spec)) :
    Returns "parse_field_spec" (.report (.ofSpec spec))
  | form {fields : List (String × String)} {formId title : String} {description : Option String}
    (hfields : member? "fields" arguments = some (.obj (textMembers fields))) (hne : fields ≠ [])
    (hformId : Gives arguments "form_id" "form" formId) (htitle : Gives arguments "title" "Form" title)
    (hdescription : GivesOptional arguments "description" description) :
    Returns "parse_form" (.form (Export.formOf formId title description fields))

/-- Why a call gives no result. The first specification that is no text counts before all that is wrong
with the form's own values. -/
inductive Refuses : String → ToolError → Prop
  | unknownTool {name : String} (hspec : name ≠ "parse_field_spec") (hform : name ≠ "parse_form") :
    Refuses name (.unknownTool name)
  | specNotText (h : ∀ spec, member? "spec" arguments ≠ some (.str spec)) :
    Refuses "parse_field_spec" .specNotText
  | fieldsNotObject (h : ∀ fields, member? "fields" arguments ≠ some (.obj fields)) :
    Refuses "parse_form" .fieldsNotObject
  | noFields (h : member? "fields" arguments = some (.obj [])) : Refuses "parse_form" .noFields
  | fieldNotText {good : List (String × String)} {name : String} {v : Json} {rest : List (String × Json)}
    (hfields : member? "fields" arguments = some (.obj (textMembers good ++ (name, v) :: rest)))
    (hv : ∀ s, v ≠ .str s) : Refuses "parse_form" (.form (.spec ⟨v⟩))
  | problems {fields : List (String × String)}
    (hfields : member? "fields" arguments = some (.obj (textMembers fields))) (hne : fields ≠ [])
    (hmisfits : misfits arguments ≠ []) : Refuses "parse_form" (.form (.problems (misfits arguments)))

end Call

/-! ## The fields of a form -/

/-- Members are all texts, or there is a first that is none. -/
theorem textMembers_or_first (members : List (String × Json)) :
    (∃ fields, members = textMembers fields) ∨
      ∃ good name v rest, members = textMembers good ++ (name, v) :: rest ∧ ∀ s, v ≠ .str s := by
  induction members with
  | nil => exact .inl ⟨[], rfl⟩
  | cons e rest ih =>
    obtain ⟨name, v⟩ := e
    by_cases hv : ∃ s, v = .str s
    · obtain ⟨s, rfl⟩ := hv
      obtain ⟨fields, rfl⟩ | ⟨good, bad, w, more, rfl, hw⟩ := ih
      · exact .inl ⟨(name, s) :: fields, rfl⟩
      · exact .inr ⟨(name, s) :: good, bad, w, more, rfl, hw⟩
    · exact .inr ⟨[], name, v, rest, rfl, fun s h => hv ⟨s, h⟩⟩

theorem readFields_fieldNotText (good : List (String × String)) {name : String} {v : Json}
    (hv : ∀ s, v ≠ .str s) (rest : List (String × Json)) :
    readFields (textMembers good ++ (name, v) :: rest) = .error ⟨v⟩ := by
  induction good with
  | nil =>
    have hspec : specText v = .error ⟨v⟩ := by
      cases v with
      | str s => exact absurd rfl (hv s)
      | _ => rfl
    rw [textMembers, List.map_nil, List.nil_append, readFields, hspec]
    rfl
  | cons e others ih =>
    rw [textMembers, List.map_cons, List.cons_append, readFields, ← textMembers, ih]
    rfl

/-! ## The form's own values -/

section Own

variable {arguments : List (String × Json)}

theorem tells_string (arguments : List (String × Json)) {name : String} (hname : name ≠ "description")
    (absent : String) : ((Check.string ((member? name arguments).getD (.str absent))).within
      (.key name)).Tells (misfit arguments name) := by
  rw [misfit]
  cases member? name arguments with
  | none => exact .inl ⟨⟨absent, rfl⟩, rfl⟩
  | some v =>
    cases v with
    | str s => exact .inl ⟨⟨s, rfl⟩, rfl⟩
    | null =>
      -- of the form's own values only the description may be null
      simp only [if_neg hname]
      exact .inr ⟨rfl, List.cons_ne_nil _ _⟩
    | _ => exact .inr ⟨rfl, List.cons_ne_nil _ _⟩

theorem tells_description :
    ((Check.optional Check.string ((member? "description" arguments).getD .null)).within
      (.key "description")).Tells (misfit arguments "description") := by
  rw [misfit]
  cases member? "description" arguments with
  | none => exact .inl ⟨⟨none, rfl⟩, rfl⟩
  | some v =>
    cases v with
    | str s => exact .inl ⟨⟨some s, rfl⟩, rfl⟩
    | null => exact .inl ⟨⟨none, rfl⟩, rfl⟩
    | _ => exact .inr ⟨rfl, List.cons_ne_nil _ _⟩

/-- The problems of the form's own values are reported together, in the order of their declaration. -/
theorem ofReports?_misfits (h : misfits arguments ≠ []) (reports : List (String × Report)) :
    Form.ofReports? ((member? "form_id" arguments).getD (.str "form"))
        ((member? "title" arguments).getD (.str "Form")) ((member? "description" arguments).getD .null)
        reports = .invalid (misfits arguments) := by
  have hmisfits : misfits arguments = misfit arguments "form_id" ++ misfit arguments "title" ++
      misfit arguments "description" := by
    simp [misfits]
  rw [hmisfits] at h ⊢
  have hformId := tells_string arguments (by decide : "form_id" ≠ "description") "form"
  have htitle := tells_string arguments (by decide : "title" ≠ "description") "Form"
  exact (((hformId.map _).seq htitle).seq tells_description).eq_invalid h

theorem text_of_misfit {name : String} (h : misfit arguments name = []) (hname : name ≠ "description")
    (v : Json) (hmember : member? name arguments = some v) : ∃ s, v = .str s := by
  rw [misfit, hmember] at h
  cases v with
  | str s => exact ⟨s, rfl⟩
  | null => simp [hname] at h
  | _ => simp at h

theorem null_or_text_of_misfit (h : misfit arguments "description" = []) (v : Json)
    (hmember : member? "description" arguments = some v) : v = .null ∨ ∃ s, v = .str s := by
  rw [misfit, hmember] at h
  cases v with
  | str s => exact .inr ⟨s, rfl⟩
  | null => exact .inl rfl
  | _ => simp at h

theorem exists_gives {name : String} (h : ∀ v, member? name arguments = some v → ∃ s, v = .str s)
    (absent : String) : ∃ text, Gives arguments name absent text := by
  cases hmember : member? name arguments with
  | none => exact ⟨absent, .inr ⟨hmember, rfl⟩⟩
  | some v =>
    obtain ⟨s, rfl⟩ := h v hmember
    exact ⟨s, .inl hmember⟩

theorem exists_givesOptional {name : String}
    (h : ∀ v, member? name arguments = some v → v = .null ∨ ∃ s, v = .str s) :
    ∃ text, GivesOptional arguments name text := by
  cases hmember : member? name arguments with
  | none => exact ⟨none, .inl hmember⟩
  | some v =>
    obtain rfl | ⟨s, rfl⟩ := h v hmember
    · exact ⟨none, .inr hmember⟩
    · exact ⟨some s, hmember⟩

theorem Gives.getD {name absent text : String} (h : Gives arguments name absent text) :
    (member? name arguments).getD (.str absent) = .str text := by
  obtain h | ⟨h, rfl⟩ := h
  · rw [h, Option.getD_some]
  · rw [h, Option.getD_none]

theorem GivesOptional.getD {name : String} {text : Option String}
    (h : GivesOptional arguments name text) : (member? name arguments).getD .null = .ofText? text := by
  cases text with
  | some text => rw [show member? name arguments = _ from h]; rfl
  | none =>
    obtain h | h := h
    · rw [h]; rfl
    · rw [h]; rfl

end Own

/-! ## Results and refusals -/

section Handle

variable {arguments : List (String × Json)} {name : String}

/-- The form of the fields with the form's own values, or why it is none. -/
def formWith (arguments fields : List (String × Json)) : Except FormError Form :=
  Form.ofSpecs? ((member? "form_id" arguments).getD (.str "form"))
    ((member? "title" arguments).getD (.str "Form")) ((member? "description" arguments).getD .null) fields

theorem name_readSpec : "parse_field_spec" = readSpec.name := rfl

theorem handle_readForm : handle "parse_form" arguments = formOf arguments := rfl

theorem formOf_fields {fields : List (String × Json)} (hne : fields ≠ [])
    (h : member? "fields" arguments = some (.obj fields)) :
    formOf arguments = ((formWith arguments fields).map ToolResult.form).mapError ToolError.form := by
  obtain ⟨e, rest, rfl⟩ := List.exists_cons_of_ne_nil hne
  have hform : Form.ofSpecs? ((member? "form_id" arguments).getD (.str "form"))
      ((member? "title" arguments).getD (.str "Form")) ((member? "description" arguments).getD .null)
      (e :: rest) = formWith arguments (e :: rest) := rfl
  rw [formOf, h]
  simp only [hform]
  cases formWith arguments (e :: rest) with
  | ok f => rfl
  | error e => rfl

theorem formWith_gives {fields : List (String × String)} {formId title : String}
    {description : Option String} (hformId : Gives arguments "form_id" "form" formId)
    (htitle : Gives arguments "title" "Form" title)
    (hdescription : GivesOptional arguments "description" description) :
    formWith arguments (textMembers fields) = .ok (Export.formOf formId title description fields) := by
  rw [formWith, hformId.getD, htitle.getD, hdescription.getD]
  exact Export.ofSpecs?_texts formId title description fields

/-- A specification that is no text is reported whatever else is wrong. -/
theorem formWith_fieldNotText (good : List (String × String)) {name : String} {v : Json}
    (hv : ∀ s, v ≠ .str s) (rest : List (String × Json)) :
    formWith arguments (textMembers good ++ (name, v) :: rest) = .error (.spec ⟨v⟩) := by
  rw [formWith, Form.ofSpecs?, readFields_fieldNotText good hv]
  rfl

theorem formWith_misfits (h : misfits arguments ≠ []) (fields : List (String × String)) :
    formWith arguments (textMembers fields) = .error (.problems (misfits arguments)) := by
  have hreports := ofReports?_misfits h (fields.map fun e => (e.1, Report.ofSpec e.2))
  rw [formWith, Form.ofSpecs?, textMembers, Export.readFields_texts]
  show (Form.ofReports? _ _ _ _).toExcept.mapError FormError.problems = _
  rw [hreports]
  rfl

theorem textMembers_ne_nil {fields : List (String × String)} (h : fields ≠ []) :
    textMembers fields ≠ [] := by
  simpa [textMembers] using h

theorem handle_of_returns {result : ToolResult} (h : Returns arguments name result) :
    handle name arguments = .ok result := by
  cases h with
  | report hspec => rw [handle, if_pos name_readSpec, hspec]
  | form hfields hne hformId htitle hdescription =>
    rw [handle_readForm, formOf_fields (textMembers_ne_nil hne) hfields,
      formWith_gives hformId htitle hdescription]
    rfl

theorem handle_of_refuses {e : ToolError} (h : Refuses arguments name e) :
    handle name arguments = .error e := by
  cases h with
  | unknownTool hspec hform =>
    have hspec : name ≠ readSpec.name := hspec
    have hform : name ≠ readForm.name := hform
    rw [handle, if_neg hspec, if_neg hform]
  | specNotText h =>
    rw [handle, if_pos name_readSpec]
    split
    · rename_i spec hspec
      exact absurd hspec (h spec)
    · rfl
  | fieldsNotObject h =>
    rw [handle_readForm, formOf]
    split
    · rename_i hfields
      exact absurd hfields (h [])
    · rename_i fields _ hfields
      exact absurd hfields (h fields)
    · rfl
  | noFields h => rw [handle_readForm, formOf, h]
  | fieldNotText hfields hv =>
    rw [handle_readForm, formOf_fields (by simp) hfields, formWith_fieldNotText _ hv]
    rfl
  | problems hfields hne hmisfits =>
    rw [handle_readForm, formOf_fields (textMembers_ne_nil hne) hfields, formWith_misfits hmisfits]
    rfl

theorem returns_or_refuses_form (arguments : List (String × Json)) :
    (∃ result, Returns arguments "parse_form" result) ∨ ∃ e, Refuses arguments "parse_form" e := by
  -- the cases in the order in which the tool finds its faults
  by_cases hobject : ∃ members, member? "fields" arguments = some (.obj members)
  · obtain ⟨members, hmembers⟩ := hobject
    obtain ⟨fields, rfl⟩ | ⟨good, bad, v, rest, rfl, hv⟩ := textMembers_or_first members
    · by_cases hne : fields = []
      · subst hne
        exact .inr ⟨_, .noFields hmembers⟩
      by_cases hmisfits : misfits arguments = []
      · have hnone := List.flatMap_eq_nil_iff.mp hmisfits
        have hid := text_of_misfit (hnone "form_id" (by decide)) (by decide)
        have hcaption := text_of_misfit (hnone "title" (by decide)) (by decide)
        have hhelp := null_or_text_of_misfit (hnone "description" (by decide))
        obtain ⟨formId, hformId⟩ := exists_gives hid "form"
        obtain ⟨title, htitle⟩ := exists_gives hcaption "Form"
        obtain ⟨description, hdescription⟩ := exists_givesOptional hhelp
        exact .inl ⟨_, .form hmembers hne hformId htitle hdescription⟩
      · exact .inr ⟨_, .problems hmembers hne hmisfits⟩
    · exact .inr ⟨_, .fieldNotText hmembers hv⟩
  · exact .inr ⟨_, .fieldsNotObject fun fields h => hobject ⟨fields, h⟩⟩

/-- Every call gives a result or is refused. -/
theorem returns_or_refuses (name : String) (arguments : List (String × Json)) :
    (∃ result, Returns arguments name result) ∨ ∃ e, Refuses arguments name e := by
  by_cases hspec : name = "parse_field_spec"
  · subst hspec
    by_cases htext : ∃ spec, member? "spec" arguments = some (.str spec)
    · obtain ⟨spec, h⟩ := htext
      exact .inl ⟨_, .report h⟩
    · exact .inr ⟨_, .specNotText fun spec h => htext ⟨spec, h⟩⟩
  by_cases hform : name = "parse_form"
  · subst hform
    exact returns_or_refuses_form arguments
  · exact .inr ⟨_, .unknownTool hspec hform⟩

theorem handle_eq_ok {result : ToolResult} :
    handle name arguments = .ok result ↔ Returns arguments name result := by
  constructor
  · intro h
    obtain ⟨other, hreturns⟩ | ⟨e, hrefuses⟩ := returns_or_refuses name arguments
    · rw [handle_of_returns hreturns] at h
      cases h
      exact hreturns
    · rw [handle_of_refuses hrefuses] at h
      cases h
  · exact handle_of_returns

theorem handle_eq_error {e : ToolError} :
    handle name arguments = .error e ↔ Refuses arguments name e := by
  constructor
  · intro h
    obtain ⟨result, hreturns⟩ | ⟨other, hrefuses⟩ := returns_or_refuses name arguments
    · rw [handle_of_returns hreturns] at h
      cases h
    · rw [handle_of_refuses hrefuses] at h
      cases h
      exact hrefuses
  · exact handle_of_refuses

end Handle

end Server

end FormLine
