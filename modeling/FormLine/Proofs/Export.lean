import FormLine.Form
import FormLine.Proofs.Gathering
import FormLine.Proofs.Semantics
/-!
# What a form exports

A form is exported in four parts: the properties of its fields, the names of the required ones, the
controls, and the diagnostics. Each part is written by a walk of its own over the fields. `Exports` says
of each which fields it names, in which order, and what it says of them, and `export_pointwise` proves
it of every form that is read from specifications.

What is said of a field is said by its name and specification alone (`property`). That the parts agree
on one field — a default is a boolean exactly where the type is, and no boolean field is required —
does not follow from the export: it is a property of reading (`flag_iff_checkbox`,
`not_checkbox_of_required`), which turns every default of a checkbox into yes or no and never requires a
checkbox.
-/

namespace FormLine

/-- The value of a member, where the value is an object that has it. -/
def Json.at? : Json → String → Option Json
  | .obj members, name => Json.member? name members
  | _, _ => none

namespace Export

/-! ## The statement -/

/-- The metadata that a specification says. -/
def metadataOf (spec : String) : Metadata := (Report.ofSpec spec).metadata

/-- The property of a field with this name and specification. -/
def property (name spec : String) : Json := (FormField.ofMetadata name (metadataOf spec)).property

/-- What the property of a field says, keyword by keyword. -/
structure Says (name spec : String) (p : Json) : Prop where
  boolean : p.at? "type" = some (.str "boolean") ↔ (metadataOf spec).component = some .checkbox
  string : p.at? "type" = some (.str "string") ↔ (metadataOf spec).component ≠ some .checkbox
  title : p.at? "title" = some (.str (match (metadataOf spec).label with
    | some label => if label = "" then name else label
    | none => name))
  description : ∀ v, p.at? "description" = some v ↔
    ∃ text, (metadataOf spec).description = some text ∧ text ≠ "" ∧ v = .str text
  /-- The default is there where the specification gives one. -/
  default : p.at? "default" = (metadataOf spec).initial.map DefaultValue.toJson
  default_boolean : ∀ v, p.at? "default" = some v →
    ((∃ b, v = .bool b) ↔ p.at? "type" = some (.str "boolean"))
  enum : ∀ v, p.at? "enum" = some v ↔ (metadataOf spec).component = some .select ∧
    ∃ first rest, (metadataOf spec).arguments = some (first :: rest) ∧ v = .texts (first :: rest)
  not_boolean_of_required : (metadataOf spec).required = true → p.at? "type" = some (.str "string")

/-- The four parts of the export of a form, read off the names and specifications of its fields. -/
structure Exports (draft : Json) (fields : List (String × String)) (f : Form) : Prop where
  names_nodup : (fields.map Prod.fst).Nodup
  properties : (f.jsonSchema draft).at? "properties" =
    some (.obj (fields.map fun e => (e.1, property e.1 e.2)))
  property_says : ∀ e ∈ fields, Says e.1 e.2 (property e.1 e.2)
  required : (f.jsonSchema draft).at? "required" =
    some (.texts ((fields.filter fun e => (metadataOf e.2).required).map Prod.fst))
  controls : f.uiSchema = .obj (fields.filterMap fun e =>
    (metadataOf e.2).component.map fun c => (e.1, .obj [("ui:widget", .str c.name)]))
  diagnostics : (f.config draft).at? "diagnostics" =
    some (.obj ((fields.filter fun e => (Report.ofSpec e.2).diagnostics ≠ []).map fun e =>
      (e.1, .arr ((Report.ofSpec e.2).diagnostics.map Diagnostic.toJson))))

/-! ## What reading makes sure of -/

theorem flag_iff_checkbox {spec : String} {d : DefaultValue} (h : (metadataOf spec).initial = some d) :
    (∃ b, d = .flag b) ↔ (metadataOf spec).component = some .checkbox := by
  obtain ⟨text, _, rfl⟩ := Option.map_eq_some_iff.mp h
  have hcomponent : (metadataOf spec).component = Metadata.componentOf (Token.ofText spec) := rfl
  rw [hcomponent]
  by_cases hc : Metadata.componentOf (Token.ofText spec) = some .checkbox
  · simp [hc]
  · simp [hc]

theorem not_checkbox_of_required {spec : String} (h : (metadataOf spec).required = true) :
    (metadataOf spec).component ≠ some .checkbox :=
  (requiredOf_iff.mp h).2.2

/-! ## One field -/

theorem member?_stated (name keyword : String) (value : Option Json) :
    Json.member? name (FormField.stated keyword value) = if keyword = name then value else none := by
  cases value with
  | none => simp [FormField.stated, Json.member?]
  | some v => rfl

/-- Each keyword is looked up in its own part of the property. -/
theorem at?_property (f : FormField) (keyword : String) :
    f.property.at? keyword =
      if keyword = "type" then some (.str f.type)
      else if keyword = "title" then some (.str f.title)
      else if keyword = "description" then (Metadata.nonEmpty? f.description).map .str
      else if keyword = "default" then f.initial.map DefaultValue.toJson
      else if keyword = "enum" then
        f.choices.bind fun vs => if vs.isEmpty then none else some (.texts vs)
      else none := by
  simp only [FormField.property, FormField.keywords, Json.at?, Json.member?_append, member?_stated,
    Json.member?]
  by_cases htype : keyword = "type"
  · subst htype; rfl
  by_cases htitle : keyword = "title"
  · subst htitle; rfl
  by_cases hdescription : keyword = "description"
  · subst hdescription; simp
  by_cases hdefault : keyword = "default"
  · subst hdefault; simp
  by_cases henum : keyword = "enum"
  · subst henum; simp
  simp [Ne.symm htype, Ne.symm htitle, Ne.symm hdescription, Ne.symm hdefault, Ne.symm henum, htype,
    htitle, hdescription, hdefault, henum]

theorem at?_type (name spec : String) :
    (property name spec).at? "type" =
      some (.str (if (metadataOf spec).component = some .checkbox then "boolean" else "string")) := by
  rw [property, at?_property, if_pos rfl]
  show some (Json.str (FormField.typeOf (metadataOf spec).component)) = _
  cases (metadataOf spec).component with
  | none => rfl
  | some c => cases c <;> rfl

theorem nonEmpty?_eq_some {s : Option String} {text : String} :
    Metadata.nonEmpty? s = some text ↔ s = some text ∧ text ≠ "" := by
  cases s with
  | none => simp [Metadata.nonEmpty?]
  | some s =>
    by_cases h : s = ""
    · subst h
      simp only [Metadata.nonEmpty?, Option.bind_some, if_true]
      constructor
      · intro h; cases h
      · rintro ⟨hs, hne⟩
        exact absurd (Option.some.inj hs).symm hne
    · simp only [Metadata.nonEmpty?, Option.bind_some, if_neg h, Option.some.injEq]
      constructor
      · rintro rfl
        exact ⟨rfl, h⟩
      · exact fun hs => hs.1

theorem choicesOf_eq_some {m : Metadata} {choices : List String} :
    FormField.choicesOf m = some choices ↔
      m.component = some .select ∧ m.arguments = some choices ∧ choices ≠ [] := by
  unfold FormField.choicesOf
  split
  · rename_i first rest hc ha
    rw [hc, ha]
    simp only [Option.some.injEq, true_and]
    constructor
    · rintro rfl
      exact ⟨rfl, List.cons_ne_nil _ _⟩
    · exact fun h => h.1
  · rename_i hnone
    simp only [false_iff, reduceCtorEq]
    rintro ⟨hc, ha, hne⟩
    cases choices with
    | nil => exact hne rfl
    | cons first rest => exact hnone first rest hc ha

/-- The property of a field says what its specification says. -/
theorem property_says (name spec : String) : Says name spec (property name spec) := by
  have hdefault : (property name spec).at? "default" =
      (metadataOf spec).initial.map DefaultValue.toJson := at?_property _ "default"
  have htype := at?_type name spec
  refine ⟨?_, ?_, ?_, ?_, hdefault, ?_, ?_, ?_⟩
  · rw [htype]
    by_cases hc : (metadataOf spec).component = some .checkbox <;> simp [hc]
  · rw [htype]
    by_cases hc : (metadataOf spec).component = some .checkbox <;> simp [hc]
  · rw [property, at?_property]
    show some (Json.str ((metadataOf spec).titleOr name)) = _
    cases hlabel : (metadataOf spec).label with
    | none => simp [Metadata.titleOr, Metadata.nonEmpty?, hlabel]
    | some label => by_cases h : label = "" <;> simp [Metadata.titleOr, Metadata.nonEmpty?, hlabel, h]
  · intro v
    rw [property, at?_property]
    show (Metadata.nonEmpty? (metadataOf spec).description).map Json.str = some v ↔ _
    rw [Option.map_eq_some_iff]
    constructor
    · rintro ⟨text, htext, rfl⟩
      obtain ⟨hs, hne⟩ := nonEmpty?_eq_some.mp htext
      exact ⟨text, hs, hne, rfl⟩
    · rintro ⟨text, hs, hne, rfl⟩
      exact ⟨text, nonEmpty?_eq_some.mpr ⟨hs, hne⟩, rfl⟩
  · intro v hv
    rw [hdefault] at hv
    obtain ⟨d, hd, rfl⟩ := Option.map_eq_some_iff.mp hv
    have hflag := flag_iff_checkbox hd
    have hbool : (∃ b, d.toJson = .bool b) ↔ ∃ b, d = .flag b := by
      cases d <;> simp [DefaultValue.toJson]
    rw [hbool, hflag, htype]
    by_cases hc : (metadataOf spec).component = some .checkbox <;> simp [hc]
  · intro v
    rw [property, at?_property]
    show ((FormField.choicesOf (metadataOf spec)).bind fun vs =>
      if vs.isEmpty then none else some (Json.texts vs)) = some v ↔ _
    rw [Option.bind_eq_some_iff]
    constructor
    · rintro ⟨choices, hchoices, hv⟩
      obtain ⟨hc, ha, hne⟩ := choicesOf_eq_some.mp hchoices
      cases choices with
      | nil => exact absurd rfl hne
      | cons first rest => exact ⟨hc, first, rest, ha, (Option.some.inj hv).symm⟩
    · rintro ⟨hc, first, rest, ha, rfl⟩
      exact ⟨first :: rest, choicesOf_eq_some.mpr ⟨hc, ha, List.cons_ne_nil _ _⟩, rfl⟩
  · intro hrequired
    rw [htype, if_neg (not_checkbox_of_required hrequired)]

/-! ## The whole form -/

theorem readFields_texts (fields : List (String × String)) :
    readFields (fields.map fun e => (e.1, .str e.2)) =
      .ok (fields.map fun e => (e.1, Report.ofSpec e.2)) := by
  induction fields with
  | nil => rfl
  | cons e rest ih =>
    simp only [List.map_cons, readFields, specText, ih]
    rfl

/-- The form of fields with texts for specifications is always made. -/
theorem ofSpecs?_texts (formId title : String) (description : Option String)
    (fields : List (String × String)) :
    Form.ofSpecs? (.str formId) (.str title) (.ofText? description)
        (fields.map fun e => (e.1, .str e.2)) =
      .ok (Form.ofReports formId title description
        (fields.map fun e => (e.1, Report.ofSpec e.2))) := by
  rw [Form.ofSpecs?, readFields_texts]
  cases description <;> rfl

/-- Fields that are written out only where there is something to say of them keep their names and
their order. -/
theorem map_fst_filterMap {β γ : Type} (o : String → Option β) (k : β → γ)
    (fields : List (String × String)) :
    (fields.filterMap fun e => (o e.2).map fun b => (e.1, k b)).map Prod.fst =
      (fields.filter fun e => (o e.2).isSome).map Prod.fst := by
  induction fields with
  | nil => rfl
  | cons e rest ih =>
    cases h : o e.2 with
    | none => simpa [h] using ih
    | some b => simpa [h] using ih

/-- The control of a field is that of its component. -/
theorem widget?_ofMetadata (name : String) (m : Metadata) :
    (FormField.ofMetadata name m).widget? = m.component.map Component.name := by
  cases hc : m.component with
  | none => simp [FormField.widget?, FormField.ofMetadata, Metadata.nonEmpty?, hc]
  | some c => cases c <;> simp [FormField.widget?, FormField.ofMetadata, Metadata.nonEmpty?, hc,
      Component.name]

section Parts

variable {formId title : String} {description : Option String} {fields : List (String × String)}

/-- The form that is read from the fields. -/
def formOf (formId title : String) (description : Option String) (fields : List (String × String)) :
    Form :=
  Form.ofReports formId title description (fields.map fun e => (e.1, Report.ofSpec e.2))

theorem fields_formOf : (formOf formId title description fields).fields =
    fields.map fun e => FormField.ofMetadata e.1 (metadataOf e.2) :=
  List.map_map

theorem properties_formOf (h : (fields.map Prod.fst).Nodup) :
    (formOf formId title description fields).properties =
      fields.map fun e => (e.1, property e.1 e.2) := by
  have hentries : (formOf formId title description fields).fields.map
      (fun field => (field.name, field.property)) = fields.map fun e => (e.1, property e.1 e.2) := by
    rw [fields_formOf, List.map_map]
    rfl
  rw [Form.properties, hentries, OrderedMap.ofEntries_of_nodup]
  rwa [List.map_map]

theorem required_formOf : (formOf formId title description fields).required =
    (fields.filter fun e => (metadataOf e.2).required).map Prod.fst := by
  rw [Form.required, fields_formOf, List.filter_map, List.map_map]
  rfl

theorem widgets_formOf (h : (fields.map Prod.fst).Nodup) :
    (formOf formId title description fields).widgets =
      fields.filterMap fun e => (metadataOf e.2).component.map fun c => (e.1, c.name) := by
  have hentries : (formOf formId title description fields).fields.filterMap
      (fun field => field.widget?.map fun w => (field.name, w)) =
        fields.filterMap fun e => (metadataOf e.2).component.map fun c => (e.1, c.name) := by
    rw [fields_formOf, List.filterMap_map]
    congr 1
    funext e
    show (FormField.ofMetadata e.1 (metadataOf e.2)).widget?.map (fun w => (e.1, w)) = _
    rw [widget?_ofMetadata, Option.map_map]
    rfl
  rw [Form.widgets, hentries, OrderedMap.ofEntries_of_nodup]
  rw [map_fst_filterMap (fun spec => (metadataOf spec).component)]
  exact h.sublist (List.filter_sublist.map _)

theorem diagnostics_formOf : (formOf formId title description fields).diagnostics =
    (fields.filter fun e => (Report.ofSpec e.2).diagnostics ≠ []).map fun e =>
      (e.1, (Report.ofSpec e.2).diagnostics) := by
  show ((fields.map fun e => (e.1, Report.ofSpec e.2)).filter fun r => !r.2.isValid).map
    (fun r => (r.1, r.2.diagnostics)) = _
  rw [List.filter_map, List.map_map]
  have hvalid : ∀ e : String × String,
      (!(Report.ofSpec e.2).isValid) = decide ((Report.ofSpec e.2).diagnostics ≠ []) := by
    intro e
    cases h : (Report.ofSpec e.2).diagnostics <;> simp [Report.isValid, h]
  simp only [Function.comp_def, hvalid]

theorem exports_formOf (draft : Json) (h : (fields.map Prod.fst).Nodup) :
    Exports draft fields (formOf formId title description fields) where
  names_nodup := h
  properties := congrArg (fun ps => some (Json.obj ps)) (properties_formOf h)
  property_says := fun e _ => property_says e.1 e.2
  required := congrArg (fun names => some (Json.texts names)) required_formOf
  controls := by
    rw [Form.uiSchema, widgets_formOf h, List.map_filterMap]
    simp only [Option.map_map]
    rfl
  diagnostics := by
    show some (formOf formId title description fields).diagnosticsJson = _
    rw [Form.diagnosticsJson, diagnostics_formOf, List.map_map]
    rfl

end Parts

end Export

end FormLine
