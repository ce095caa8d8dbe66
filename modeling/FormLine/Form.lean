import FormLine.Form.Field
import FormLine.Field.Report
/-!
# Form schemas

A form schema is exported in three parts: a JSON Schema that describes the values, a map from fields
to their controls, and the diagnostics of the fields. Fields are written one after another, so a later
field replaces an earlier one of its name wherever both are written.

Correspondence (program ↔ library):
  `FormSchema`                        ↔ `Form`
  `from_results`, `from_specs`        ↔ `Form.ofReports?`, `Form.ofSpecs?`
  `to_json_schema`, `to_ui_schema`    ↔ `Form.jsonSchema`, `Form.uiSchema`
  `to_form_config`                    ↔ `Form.config`
The program looks the draft up in its settings; here it is handed in.
-/

namespace FormLine

/-- A form with its fields. -/
structure Form where
  formId : String
  title : String
  description : Option String := none
  fields : List FormField
  /-- The diagnostics of each field that has some. -/
  diagnostics : OrderedMap (List Diagnostic) := []
  submitText : String := "Submit"
  deriving DecidableEq, Repr, Inhabited

/-- Why no form could be made. -/
inductive FormError where
  /-- A specification is not a text. -/
  | spec (e : SpecError)
  /-- The form's own values are not as expected. -/
  | problems (ps : List Problem)
  deriving Repr

/-- What is said of it. -/
def FormError.message : FormError → String
  | spec e => e.message
  | problems ps => problemsMessage ps

namespace Form

/-- The form of fields that have been read. -/
def ofReports (formId title : String) (description : Option String)
    (reports : List (String × Report)) : Form where
  formId := formId
  title := title
  description := description
  fields := reports.map fun (name, r) => .ofMetadata name r.metadata
  diagnostics := (reports.filter fun (_, r) => !r.isValid).map fun (name, r) => (name, r.diagnostics)

/-- The form of fields that have been read, with values that have still to be checked. -/
def ofReports? (formId title description : Json) (reports : List (String × Report)) :
    Checked Form :=
  (fun i t d => ofReports i t d reports)
    <$> (Check.string formId).within (.key "form_id")
    <*> (Check.string title).within (.key "title")
    <*> (Check.optional Check.string description).within (.key "description")

/-- The form of a map from names to specifications. The specifications are read first. -/
def ofSpecs? (formId title description : Json) (fields : List (String × Json)) :
    Except FormError Form := do
  let reports ← (readFields fields).mapError .spec
  (ofReports? formId title description reports).toExcept.mapError .problems

/-- The properties of the values, by the names of the fields. -/
def properties (f : Form) : OrderedMap Json :=
  .ofEntries (f.fields.map fun field => (field.name, field.property))

/-- The names of the fields that must be filled in. -/
def required (f : Form) : List String :=
  (f.fields.filter (·.required)).map (·.name)

/-- The JSON Schema of the form's values, under the draft that a setting names. -/
def jsonSchema (draft : Json) (f : Form) : Json :=
  .obj [("$schema", draft), ("type", .str "object"), ("title", .str f.title),
    ("description", .ofText? f.description), ("properties", .obj f.properties),
    ("required", .texts f.required)]

/-- The controls of the fields that name one. -/
def widgets (f : Form) : OrderedMap String :=
  .ofEntries (f.fields.filterMap fun field => field.widget?.map fun w => (field.name, w))

/-- The export of the controls. -/
def uiSchema (f : Form) : Json :=
  .obj (f.widgets.map fun (name, w) => (name, .obj [("ui:widget", .str w)]))

/-- The export of the diagnostics. -/
def diagnosticsJson (f : Form) : Json :=
  .obj (f.diagnostics.map fun (name, ds) => (name, .arr (ds.map Diagnostic.toJson)))

/-- The whole export. -/
def config (draft : Json) (f : Form) : Json :=
  .obj [("formId", .str f.formId), ("schema", f.jsonSchema draft), ("uiSchema", f.uiSchema),
    ("submitButtonText", .str f.submitText), ("diagnostics", f.diagnosticsJson)]

end Form

/-- Reads a form schema. -/
def Check.form (members : List (String × Json)) : Checked Form :=
  Form.mk <$> field members "form_id" string
    <*> field members "title" string
    <*> fieldOr members "description" none (optional string)
    <*> field members "fields" (list (record "FormFieldSchema" formField))
    <*> fieldOr members "diagnostics" []
      (dictionary (list (record "Diagnostic" diagnostic)))
    <*> fieldOr members "submit_button_text" "Submit" string

end FormLine
