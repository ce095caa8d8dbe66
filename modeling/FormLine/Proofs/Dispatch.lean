import FormLine.Proofs.Calls
import FormLine.Proofs.JsonReading
import FormLine.Proofs.Outputs
/-!
# Answers to calls and the input schemas

Which calls give a result is decided in three places: by the input schema of the tool, by the tool when
it takes its arguments apart, and by the reading of the specifications and of the form's own values.
`dispatch_agrees` proves that

1. a call gives a result exactly where `Returns` says so, and that one,
2. every other call is refused, for the reason that `Refuses` gives,
3. the answers are those that the input schemas promise (`AnswersAsDeclared`) exactly where the setting for
   the indentation is one to print with (`UsableIndent`).

The schemas are stricter than the tools in one place, a description that is null.
-/

namespace FormLine.Server

open Json

/-! ## The statement -/

/-- The text is the value, printed with the indentation that is set. Where lines are indented by white
space, it is read as the value. -/
def IsPrinted (settings : Settings) (v : Json) (text : String) : Prop :=
  ∃ layout, Settings.layout (settings .indent) = .ok layout ∧ text = v.print layout ∧
    (layout.IsBlank → (settings .schemaDraft).WellFormed → read? text = some v)

/-- What a refusal is answered with. -/
def refusalText (message : String) : String := (Json.obj [("error", .str message)]).print .inline

/-- Arguments that fit a listed tool are answered with its result, or, where they are a form without
fields, with the text that says so; a refused call is answered; and no call breaks off. -/
structure AnswersAsDeclared (settings : Settings) : Prop where
  accepted : ∀ t ∈ tools, ∀ arguments, t.input.accepts arguments = true →
    (t = readForm ∧ member? "fields" arguments = some (.obj []) ∧
      call settings t.name arguments = ⟨false, refusalText "fields must not be empty"⟩) ∨
    ∃ result text, Returns arguments t.name result ∧ call settings t.name arguments = ⟨false, text⟩ ∧
      IsPrinted settings (result.toJson (settings .schemaDraft)) text
  refused : ∀ arguments name e, Refuses arguments name e →
    answer settings name arguments = ⟨false, refusalText e.message⟩
  unbroken : ∀ name arguments, (answer settings name arguments).isError = false

/-- The value can be set for the indentation: null, a yes or no, a text, or a machine word. -/
inductive UsableIndent : Json → Prop
  | null : UsableIndent .null
  | bool (b : Bool) : UsableIndent (.bool b)
  | str (s : String) : UsableIndent (.str s)
  | int (n : Int) (h : fitsMachineWord n = true) : UsableIndent (.int n)

/-! ## Input schemas -/

/-- The value is of the type of the property. -/
def Property.Fits (p : Property) (v : Json) : Prop :=
  match p.type with
  | .string => ∃ s, v = .str s
  | .stringObject => ∃ fields, v = .obj (textMembers fields)

theorem nonStrings_textMembers (path : List String) (fields : List (String × String)) :
    nonStrings path (textMembers fields) = [] := by
  induction fields with
  | nil => rfl
  | cons e rest ih => rw [textMembers, List.map_cons, nonStrings, ← textMembers, ih]

theorem nonStrings_eq_nil {path : List String} {members : List (String × Json)} :
    nonStrings path members = [] ↔ ∃ fields, members = textMembers fields := by
  constructor
  · intro h
    obtain hfields | ⟨good, name, v, rest, rfl, hv⟩ := textMembers_or_first members
    · exact hfields
    · -- a member that is no text is a mismatch, wherever it stands
      exfalso
      induction good with
      | nil =>
        rw [textMembers, List.map_nil, List.nil_append] at h
        cases v with
        | str s => exact hv s rfl
        | _ => exact List.cons_ne_nil _ _ h
      | cons e others ih =>
        rw [textMembers, List.map_cons, List.cons_append, nonStrings, ← textMembers] at h
        exact ih h
  · rintro ⟨fields, rfl⟩
    exact nonStrings_textMembers path fields

theorem Property.mismatches_eq_nil {p : Property} {v : Json} : p.mismatches v = [] ↔ p.Fits v := by
  obtain ⟨name, type, description, absent⟩ := p
  cases type with
  | string => cases v <;> simp [Property.mismatches, Property.Fits]
  | stringObject => cases v <;> simp [Property.mismatches, Property.Fits, nonStrings_eq_nil]

theorem InputSchema.accepts_iff {s : InputSchema} {arguments : List (String × Json)} :
    s.accepts arguments = true ↔
      (∀ p ∈ s.properties, ∀ v, member? p.name arguments = some v → p.Fits v) ∧
        ∀ name ∈ s.required, ∃ v, member? name arguments = some v := by
  rw [InputSchema.accepts, List.isEmpty_iff, InputSchema.mismatches, List.append_eq_nil_iff,
    List.flatMap_eq_nil_iff, List.map_eq_nil_iff, List.filter_eq_nil_iff]
  refine and_congr (forall₂_congr fun p _ => ?_) (forall₂_congr fun name _ => ?_)
  · cases h : member? p.name arguments with
    | none => simp
    | some v => simp [Property.mismatches_eq_nil]
  · rw [Option.isNone_iff_eq_none, ← Option.ne_none_iff_exists', Ne]

/-- Arguments that the schema of a listed tool accepts have a result, unless they are a form without
fields. -/
theorem returns_of_accepts {t : Tool} (ht : t ∈ tools) {arguments : List (String × Json)}
    (h : t.input.accepts arguments = true) :
    (t = readForm ∧ member? "fields" arguments = some (.obj [])) ∨
      ∃ result, Returns arguments t.name result := by
  -- what must be there is there, and what is there is of its type
  obtain ⟨hproperties, hrequired⟩ := InputSchema.accepts_iff.mp h
  obtain rfl | ht := List.mem_cons.mp ht
  · obtain ⟨v, hv⟩ := hrequired "spec" (by decide)
    obtain ⟨spec, rfl⟩ := hproperties ⟨"spec", .string, _, none⟩ List.mem_cons_self v hv
    exact .inr ⟨_, .report hv⟩
  · obtain rfl := List.mem_singleton.mp ht
    obtain ⟨v, hv⟩ := hrequired "fields" (by decide)
    simp only [readForm, List.forall_mem_cons] at hproperties
    obtain ⟨hfields, hid, hcaption, hhelp, -⟩ := hproperties
    obtain ⟨fields, rfl⟩ := hfields v hv
    by_cases hne : fields = []
    · subst hne
      exact .inl ⟨rfl, hv⟩
    · obtain ⟨formId, hformId⟩ := exists_gives hid "form"
      obtain ⟨title, htitle⟩ := exists_gives hcaption "Form"
      obtain ⟨description, hdescription⟩ := exists_givesOptional fun v hv => .inr (hhelp v hv)
      exact .inr ⟨_, .form hv hne hformId htitle hdescription⟩

/-! ## Answers -/

theorem usableIndent_iff {v : Json} :
    UsableIndent v ↔ ∃ layout, Settings.layout v = .ok layout := by
  constructor
  · intro h
    cases h with
    | null => exact ⟨_, rfl⟩
    | bool b => exact ⟨_, rfl⟩
    | str s => exact ⟨_, rfl⟩
    | int n h => exact ⟨_, by rw [Settings.layout, if_pos h]⟩
  · rintro ⟨layout, h⟩
    cases v with
    | null => exact .null
    | bool b => exact .bool b
    | str s => exact .str s
    | int n =>
      rw [Settings.layout] at h
      split at h
      · rename_i hword
        exact .int n hword
      · cases h
    | real literal => cases h
    | arr items => cases h
    | obj members => cases h

theorem ToolResult.wellFormed_toJson {draft : Json} (h : draft.WellFormed) (result : ToolResult) :
    (result.toJson draft).WellFormed := by
  cases result with
  | report r => exact r.wellFormed_toJson
  | form f => exact f.wellFormed_config h

theorem call_of_accepts (settings : Settings) {t : Tool} (ht : t ∈ tools) {arguments : List (String × Json)}
    (h : t.input.accepts arguments = true) :
    call settings t.name arguments = answer settings t.name arguments := by
  have htool : tool? t.name = some t := by
    simp only [tools, List.mem_cons, List.not_mem_nil, or_false] at ht
    obtain rfl | rfl := ht
    · rfl
    · rfl
  have hmismatches : t.input.mismatches arguments = [] := List.isEmpty_iff.mp h
  rw [call, htool, Option.bind_some, hmismatches]
  rfl

theorem answer_of_refuses (settings : Settings) {arguments : List (String × Json)} {name : String}
    {e : ToolError} (h : Refuses arguments name e) :
    answer settings name arguments = ⟨false, refusalText e.message⟩ := by
  rw [answer, handle_of_refuses h]
  rfl

section Layout

variable {settings : Settings} {layout : Json.Layout} (hlayout : Settings.layout (settings .indent) = .ok layout)
include hlayout

theorem answer_of_returns {arguments : List (String × Json)} {name : String} {result : ToolResult}
    (h : Returns arguments name result) : answer settings name arguments =
      ⟨false, (result.toJson (settings .schemaDraft)).print layout⟩ := by
  rw [answer, handle_of_returns h, hlayout]

theorem isPrinted_print (result : ToolResult) :
    IsPrinted settings (result.toJson (settings .schemaDraft))
      ((result.toJson (settings .schemaDraft)).print layout) :=
  ⟨layout, hlayout, rfl, fun hblank hdraft => read?_print hblank (result.wellFormed_toJson hdraft)⟩

theorem answersAsDeclared : AnswersAsDeclared settings where
  accepted := by
    intro t ht arguments h
    rw [call_of_accepts settings ht h]
    obtain ⟨rfl, hfields⟩ | ⟨result, hresult⟩ := returns_of_accepts ht h
    · have hanswer : answer settings readForm.name arguments =
          ⟨false, refusalText ToolError.noFields.message⟩ := answer_of_refuses settings (.noFields hfields)
      exact .inl ⟨rfl, hfields, hanswer⟩
    · exact .inr ⟨result, _, hresult, answer_of_returns hlayout hresult, isPrinted_print hlayout result⟩
  refused := fun _ _ _ h => answer_of_refuses settings h
  unbroken := by
    intro name arguments
    obtain ⟨result, hresult⟩ | ⟨e, he⟩ := returns_or_refuses name arguments
    · rw [answer_of_returns hlayout hresult]
    · rw [answer_of_refuses settings he]

end Layout

/-- Where nothing can be printed, even a specification is answered as broken off. -/
theorem usableIndent_of_unbroken {settings : Settings}
    (h : ∀ name arguments, (answer settings name arguments).isError = false) :
    UsableIndent (settings .indent) := by
  have hreturns : Returns [("spec", .str "")] "parse_field_spec" (.report (.ofSpec "")) := .report rfl
  have hanswer := h "parse_field_spec" [("spec", .str "")]
  rw [answer, handle_of_returns hreturns] at hanswer
  cases hlayout : Settings.layout (settings .indent) with
  | ok layout => exact usableIndent_iff.mpr ⟨layout, hlayout⟩
  | error e =>
    rw [hlayout] at hanswer
    cases hanswer

end FormLine.Server
