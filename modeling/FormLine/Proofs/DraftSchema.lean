import FormLine.Settings
import FormLine.Proofs.Grouping
import FormLine.Proofs.RepeatedFields
/-!
# The export as a schema of its draft

What the draft 2020-12 demands of a schema is `IsSchema`, as far as the keywords go that an export has:
which kind of value stands under each, at every depth. An export leaves keywords out one by one where there
is nothing to say.

1. `isSchema_property` — every property is a schema. What a property may leave out is left out.
2. `not_isSchema_of_undescribed` — a form without a description is not exported as a schema. Its description
   is not left out as that of a property is, but stands there as null.
3. `isSchema_jsonSchema_iff`, `isSchema_erase_jsonSchema` — nothing else is wrong. The export is a schema
   where the form has a description, and that of every form is one without this keyword.

`schema_iff_described` says so of the forms that are read from specifications.
-/

namespace FormLine

namespace Json

/-! ## The statement -/

/-- The seven names that `type` may give. -/
def typeNames : List String := ["null", "boolean", "object", "array", "number", "string", "integer"]

/-- A schema: under each of these keywords, where it is there, stands a value of the kind that the draft
demands. Beyond the draft, some value must be listed under `enum`, and a required name must be that of a
property. -/
inductive IsSchema : Json → Prop
  | bool (b : Bool) : IsSchema (.bool b)
  | obj {ms : List (String × Json)} (distinct : (ms.map Prod.fst).Nodup)
    (text : ∀ k ∈ ["$schema", "title", "description"], ∀ v, (Json.obj ms).at? k = some v → ∃ s, v = .str s)
    (type : ∀ v, (Json.obj ms).at? "type" = some v → ∃ name ∈ typeNames, v = .str name)
    (enum : ∀ v, (Json.obj ms).at? "enum" = some v → ∃ first rest, v = .arr (first :: rest))
    (properties : ∀ v, (Json.obj ms).at? "properties" = some v →
      ∃ ps, v = .obj ps ∧ (ps.map Prod.fst).Nodup)
    (subschemas : ∀ ps, (Json.obj ms).at? "properties" = some (.obj ps) → ∀ p ∈ ps, IsSchema p.2)
    (required : ∀ v, (Json.obj ms).at? "required" = some v → ∃ names ps, v = .texts names ∧ names.Nodup ∧
      (Json.obj ms).at? "properties" = some (.obj ps) ∧ ∀ name ∈ names, name ∈ ps.map Prod.fst) :
    IsSchema (.obj ms)

/-- The object without its member of this name. -/
def erase (name : String) : Json → Json
  | .obj ms => .obj (ms.filter fun e => e.1 != name)
  | v => v

/-! ## Leaving out a keyword -/

theorem at?_erase_self (name : String) (v : Json) : (v.erase name).at? name = none := by
  cases v with
  | obj ms =>
    show member? name (ms.filter fun e => e.1 != name) = none
    rw [member?_eq_get?]
    refine OrderedMap.get?_eq_none fun hmem => ?_
    obtain ⟨e, he, hname⟩ := List.mem_map.mp hmem
    have hne := (List.mem_filter.mp he).2
    simp [hname] at hne
  | _ => rfl

theorem at?_erase_of_ne {name k : String} (h : k ≠ name) (v : Json) : (v.erase name).at? k = v.at? k := by
  cases v with
  | obj ms =>
    show member? k (ms.filter fun e => e.1 != name) = member? k ms
    rw [member?_eq_get?, member?_eq_get?]
    exact OrderedMap.get?_filter (p := fun n => n != name) (by simpa using h) ms
  | _ => rfl

theorem at?_of_at?_erase {name k : String} {v w : Json} (h : (v.erase name).at? k = some w) :
    v.at? k = some w := by
  by_cases hk : k = name
  · subst hk
    rw [at?_erase_self] at h
    cases h
  · rwa [at?_erase_of_ne hk] at h

/-- A keyword may always be left out, except for `properties`, which `required` refers to. -/
theorem IsSchema.erase {schema : Json} (h : schema.IsSchema) {name : String} (hname : name ≠ "properties") :
    (schema.erase name).IsSchema := by
  cases h with
  | bool b => exact .bool b
  | @obj ms distinct text type enum properties subschemas required =>
    have hdistinct : ((ms.filter fun e => e.1 != name).map Prod.fst).Nodup :=
      distinct.sublist (List.filter_sublist.map _)
    refine .obj hdistinct ?text ?type ?enum ?properties ?subschemas ?required
    case text => exact fun k hk v hv => text k hk v (at?_of_at?_erase hv)
    case type => exact fun v hv => type v (at?_of_at?_erase hv)
    case enum => exact fun v hv => enum v (at?_of_at?_erase hv)
    case properties => exact fun v hv => properties v (at?_of_at?_erase hv)
    case subschemas => exact fun ps hps => subschemas ps (at?_of_at?_erase hps)
    case required =>
      intro v hv
      obtain ⟨names, ps, hvalue, hnodup, hps, hnames⟩ := required v (at?_of_at?_erase hv)
      have hkept := at?_erase_of_ne (Ne.symm hname) (Json.obj ms)
      exact ⟨names, ps, hvalue, hnodup, hkept.trans hps, hnames⟩

end Json

open Json

/-! ## Properties -/

namespace FormField

theorem typeOf_mem (c : Option Component) : typeOf c ∈ typeNames := by
  cases c with
  | none => decide
  | some c => cases c <;> decide

theorem map_fst_stated (keyword : String) (value : Option Json) :
    ((stated keyword value).map Prod.fst).Sublist [keyword] := by
  cases value with
  | none => exact List.nil_sublist _
  | some v => exact List.Sublist.refl _

theorem nodup_keywords (f : FormField) : (f.keywords.map Prod.fst).Nodup := by
  have hall : (f.keywords.map Prod.fst).Sublist ["type", "title", "description", "default", "enum"] := by
    simp only [keywords, List.map_append]
    exact (((List.Sublist.refl _).append (map_fst_stated "description" _)).append
      (map_fst_stated "default" _)).append (map_fst_stated "enum" _)
  exact List.Nodup.sublist hall (by decide)

/-- What a property says under a keyword is of the kind demanded, and it says nothing of properties of its
own. -/
theorem isSchema_property {f : FormField} (htype : f.type ∈ typeNames) : f.property.IsSchema := by
  have hat := Export.at?_property f
  refine .obj f.nodup_keywords ?text ?type ?enum ?properties ?subschemas ?required
  case text =>
    intro k hk v hv
    have hv : f.property.at? k = some v := hv
    rw [hat] at hv
    simp only [List.mem_cons, List.not_mem_nil, or_false] at hk
    obtain rfl | rfl | rfl := hk
    · -- only the root names a draft
      cases hv
    · exact ⟨f.title, (Option.some.inj hv).symm⟩
    · obtain ⟨s, _, rfl⟩ := Option.map_eq_some_iff.mp hv
      exact ⟨s, rfl⟩
  case type =>
    intro v hv
    exact ⟨f.type, htype, (Option.some.inj ((hat "type").symm.trans hv)).symm⟩
  case enum =>
    intro v hv
    obtain ⟨choices, _, hchoices⟩ := Option.bind_eq_some_iff.mp ((hat "enum").symm.trans hv)
    cases choices with
    | nil => cases hchoices
    | cons first rest => exact ⟨.str first, rest.map .str, (Option.some.inj hchoices).symm⟩
  case properties =>
    intro v hv
    cases (hat "properties").symm.trans hv
  case subschemas =>
    intro ps hps
    cases (hat "properties").symm.trans hps
  case required =>
    intro v hv
    cases (hat "required").symm.trans hv

end FormField

/-! ## Forms -/

namespace Form

/-- A required name is that of a property, whatever fields share it. -/
theorem mem_properties_of_required {f : Form} {name : String} (h : name ∈ f.required) :
    name ∈ f.properties.keys := by
  obtain ⟨g, hg, rfl, _⟩ := mem_required_iff.mp h
  rw [properties, OrderedMap.keys_ofEntries, List.mem_eraseDups, List.map_map]
  exact List.mem_map_of_mem hg

/-- Null is no description. -/
theorem not_isSchema_of_undescribed {f : Form} (h : f.description = none) (draft : Json) :
    ¬ (f.jsonSchema draft).IsSchema := by
  rintro (_ | ⟨_, text, _⟩)
  have hnull : (f.jsonSchema draft).at? "description" = some .null := by
    show some (ofText? f.description) = _
    rw [h]
    rfl
  obtain ⟨s, hs⟩ := text "description" (by decide) .null hnull
  cases hs

section Schema

variable {f : Form} (htypes : ∀ g ∈ f.fields, g.type ∈ typeNames) (hrequired : f.required.Nodup)
  (draft : String)
include htypes hrequired

theorem isSchema_of_description (hdescription : f.description ≠ none) :
    (f.jsonSchema (.str draft)).IsSchema := by
  have hdistinct :
      ["$schema", "type", "title", "description", "properties", "required"].Nodup := by decide
  refine .obj hdistinct ?text ?type ?enum ?properties ?subschemas ?required
  case text =>
    intro k hk v hv
    simp only [List.mem_cons, List.not_mem_nil, or_false] at hk
    obtain rfl | rfl | rfl := hk
    · exact ⟨draft, (Option.some.inj hv).symm⟩
    · exact ⟨f.title, (Option.some.inj hv).symm⟩
    · -- the one keyword of the root whose value depends on what the form has
      obtain ⟨s, hs⟩ := Option.ne_none_iff_exists'.mp hdescription
      have hv : some (ofText? f.description) = some v := hv
      rw [hs] at hv
      exact ⟨s, (Option.some.inj hv).symm⟩
  case type =>
    intro v hv
    exact ⟨"object", by decide, (Option.some.inj hv).symm⟩
  case enum =>
    intro v hv
    cases hv
  case properties =>
    intro v hv
    exact ⟨f.properties, (Option.some.inj hv).symm, OrderedMap.nodup_keys_ofEntries _⟩
  case subschemas =>
    intro ps hps p hp
    obtain rfl : f.properties = ps := Json.obj.inj (Option.some.inj hps)
    obtain ⟨g, hg, rfl⟩ := List.mem_map.mp (OrderedMap.mem_ofEntries hp)
    exact FormField.isSchema_property (htypes g hg)
  case required =>
    intro v hv
    exact ⟨f.required, f.properties, (Option.some.inj hv).symm, hrequired, rfl,
      fun name => mem_properties_of_required⟩

theorem isSchema_jsonSchema_iff : (f.jsonSchema (.str draft)).IsSchema ↔ f.description ≠ none := by
  constructor
  · exact fun h hnone => not_isSchema_of_undescribed hnone _ h
  · exact isSchema_of_description htypes hrequired draft

/-- Without its description, a form is exported as one that has a description is without it. -/
theorem isSchema_erase_jsonSchema : ((f.jsonSchema (.str draft)).erase "description").IsSchema := by
  have hdescribed : (jsonSchema (.str draft) { f with description := some "" }).IsSchema :=
    isSchema_of_description (f := { f with description := some "" }) htypes hrequired draft
      (Option.some_ne_none _)
  exact hdescribed.erase (by decide : "description" ≠ "properties")

end Schema

/-! ## Forms that are read from specifications -/

section Specs

variable {formId title : String} {description : Option String} {fields : List (String × String)}

theorem type_mem_formOf {g : FormField}
    (hg : g ∈ (Export.formOf formId title description fields).fields) : g.type ∈ typeNames := by
  rw [Export.fields_formOf] at hg
  obtain ⟨e, _, rfl⟩ := List.mem_map.mp hg
  exact FormField.typeOf_mem _

theorem nodup_required_formOf (h : (fields.map Prod.fst).Nodup) :
    (Export.formOf formId title description fields).required.Nodup := by
  rw [Export.required_formOf]
  exact h.sublist (List.filter_sublist.map _)

end Specs

/-- **A form that is read from specifications is exported as a schema of the draft that it names exactly
where it has a description.** It is always made, and its description is the only keyword that may be at
fault: without it the export is a schema of every form. -/
theorem schema_iff_described (formId title : String) (description : Option String)
    (pairs : List (String × String)) :
    ∃ f, Form.ofSpecs? (.str formId) (.str title) (.ofText? description)
        ((OrderedMap.ofEntries pairs).map fun e => (e.1, .str e.2)) = .ok f ∧
      ((f.jsonSchema (Settings.defaults .schemaDraft)).IsSchema ↔ description ≠ none) ∧
      ((f.jsonSchema (Settings.defaults .schemaDraft)).erase "description").IsSchema ∧
      (f.jsonSchema (Settings.defaults .schemaDraft)).at? "description" = some (.ofText? description) := by
  have htypes : ∀ g ∈ (Export.formOf formId title description (OrderedMap.ofEntries pairs)).fields,
      g.type ∈ typeNames := fun g => type_mem_formOf
  have hrequired : (Export.formOf formId title description (OrderedMap.ofEntries pairs)).required.Nodup :=
    nodup_required_formOf (OrderedMap.nodup_keys_ofEntries pairs)
  refine ⟨_, Export.ofSpecs?_texts formId title description _, ?_, ?_, rfl⟩
  · exact isSchema_jsonSchema_iff htypes hrequired _
  · exact isSchema_erase_jsonSchema htypes hrequired _

/-- A form of one field that is not described. -/
theorem undescribed_no_schema : ∃ f,
    Form.ofSpecs? (.str "f") (.str "F") .null [("a", .str "text")] = .ok f ∧
      f.jsonSchema (Settings.defaults .schemaDraft) = .obj [
        ("$schema", .str "https://json-schema.org/draft/2020-12/schema"), ("type", .str "object"),
        ("title", .str "F"), ("description", .null),
        ("properties", .obj [("a", .obj [("type", .str "string"), ("title", .str "a")])]),
        ("required", .arr [])] ∧
      ¬ (f.jsonSchema (Settings.defaults .schemaDraft)).IsSchema := by
  have hread : Report.ofSpec "text" = ⟨"text", { component := some .text }, []⟩ := by decide +kernel
  refine ⟨_, rfl, ?_, not_isSchema_of_undescribed rfl _⟩
  show (Form.ofReports "f" "F" none [("a", Report.ofSpec "text")]).jsonSchema _ = _
  rw [hread]
  rfl

end Form

end FormLine
