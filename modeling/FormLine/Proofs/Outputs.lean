import FormLine.Program
import FormLine.Proofs.Gathering
import FormLine.Proofs.JsonLexemes
/-!
# The values that are printed

A report and the export of a form are put together from values without members (`IsLeaf`), so they are
JSON (`wellFormed_reportJson`, `wellFormed_config`), and of their members only the one that lists the
tokens has the name `tokens`: a verbose report without it is the report that is not verbose
(`without_reportJson`).
-/

namespace FormLine

namespace Json

/-- Null, a yes or no, a text or a list of texts. -/
inductive IsLeaf : Json → Prop
  | null : IsLeaf .null
  | bool (b : Bool) : IsLeaf (.bool b)
  | str (s : String) : IsLeaf (.str s)
  | texts (items : List String) : IsLeaf (.texts items)

theorem isLeaf_ofText? (s : Option String) : IsLeaf (ofText? s) := by
  cases s with
  | none => exact .null
  | some s => exact .str s

theorem isLeaf_ofTexts? (items : Option (List String)) : IsLeaf (ofTexts? items) := by
  cases items with
  | none => exact .null
  | some items => exact .texts items

theorem IsLeaf.wellFormed {v : Json} (h : v.IsLeaf) : v.WellFormed := by
  cases h with
  | null => trivial
  | bool b => trivial
  | str s => trivial
  | texts items =>
    refine wellFormed_arr.mpr fun v hv => ?_
    obtain ⟨s, _, rfl⟩ := List.mem_map.mp hv
    trivial

theorem wellFormed_leaves {members : List (String × Json)} (h : ∀ e ∈ members, e.2.IsLeaf) :
    (obj members).WellFormed :=
  wellFormed_obj.mpr fun e he => (h e he).wellFormed

/-! ## Leaving out members -/

mutual
/-- The value without the members of this name, at any depth. -/
def without (name : String) : Json → Json
  | .arr items => .arr (withoutItems name items)
  | .obj members => .obj (withoutMembers name members)
  | v => v

/-- The items without such members. -/
def withoutItems (name : String) : List Json → List Json
  | [] => []
  | v :: vs => without name v :: withoutItems name vs

/-- The other members, each without such members. -/
def withoutMembers (name : String) : List (String × Json) → List (String × Json)
  | [] => []
  | (k, v) :: ms =>
    if k = name then withoutMembers name ms else (k, without name v) :: withoutMembers name ms
end

section Without

variable {name : String}

theorem withoutItems_eq_map (items : List Json) :
    withoutItems name items = items.map (without name) := by
  induction items with
  | nil => rfl
  | cons v vs ih => rw [withoutItems, ih, List.map_cons]

theorem withoutMembers_append (ms more : List (String × Json)) :
    withoutMembers name (ms ++ more) = withoutMembers name ms ++ withoutMembers name more := by
  induction ms with
  | nil => rfl
  | cons e rest ih =>
    obtain ⟨k, v⟩ := e
    rw [List.cons_append, withoutMembers, withoutMembers, ih]
    split
    · rfl
    · rfl

theorem withoutMembers_eq_self {members : List (String × Json)}
    (h : ∀ e ∈ members, e.1 ≠ name ∧ without name e.2 = e.2) : withoutMembers name members = members := by
  induction members with
  | nil => rfl
  | cons e rest ih =>
    obtain ⟨⟨hname, hvalue⟩, hrest⟩ := List.forall_mem_cons.mp h
    rw [withoutMembers, if_neg hname, hvalue, ih hrest]

theorem IsLeaf.without_eq {v : Json} (h : v.IsLeaf) : without name v = v := by
  cases h with
  | null => rfl
  | bool b => rfl
  | str s => rfl
  | texts items => rw [Json.texts, without, withoutItems_eq_map, List.map_map]; rfl

/-- An object of values without members only loses its own members of the name. -/
theorem without_leaves {members : List (String × Json)}
    (h : ∀ e ∈ members, e.1 ≠ name ∧ e.2.IsLeaf) : without name (.obj members) = .obj members := by
  have hself := withoutMembers_eq_self fun e he => ⟨(h e he).1, (h e he).2.without_eq⟩
  rw [without, hself]

end Without

end Json

open Json

/-! ## Reports -/

theorem DefaultValue.isLeaf_toJson (d : DefaultValue) : d.toJson.IsLeaf := by
  cases d with
  | flag b => exact .bool b
  | text s => exact .str s

theorem Metadata.mem_setMember {name : String} {value : Option Json} {e : String × Json} :
    e ∈ Metadata.setMember name value ↔ ∃ v, value = some v ∧ e = (name, v) := by
  cases value <;> simp [Metadata.setMember]

/-- What is known of a field is exported as values without members. -/
theorem Metadata.isLeaf_of_mem {m : Metadata} {e : String × Json} (he : e ∈ m.members) :
    e.1 ≠ "tokens" ∧ e.2.IsLeaf := by
  simp only [members, List.mem_append, mem_setMember, Option.map_eq_some_iff] at he
  obtain (((((((⟨_, ⟨_, _, rfl⟩, rfl⟩ | ⟨_, ⟨_, _, rfl⟩, rfl⟩) | ⟨_, ⟨_, _, rfl⟩, rfl⟩) |
    ⟨_, ⟨_, _, rfl⟩, rfl⟩) | he) | ⟨_, ⟨d, _, rfl⟩, rfl⟩) | he) | he) := he
  · exact ⟨(by decide : "component" ≠ "tokens"), .str _⟩
  · exact ⟨(by decide : "arguments" ≠ "tokens"), .texts _⟩
  · exact ⟨(by decide : "label" ≠ "tokens"), .str _⟩
  · exact ⟨(by decide : "description" ≠ "tokens"), .str _⟩
  · obtain rfl := List.mem_singleton.mp he
    exact ⟨(by decide : "required" ≠ "tokens"), .bool _⟩
  · exact ⟨(by decide : "default" ≠ "tokens"), d.isLeaf_toJson⟩
  · split at he
    · obtain rfl := List.mem_singleton.mp he
      exact ⟨by decide, .null⟩
    · cases he
  · split at he
    · obtain rfl := List.mem_singleton.mp he
      exact ⟨by decide, .null⟩
    · cases he

theorem Diagnostic.wellFormed_toJson (d : Diagnostic) : d.toJson.WellFormed :=
  ⟨trivial, trivial, trivial⟩

theorem Diagnostic.wellFormed_list (ds : List Diagnostic) :
    (arr (ds.map Diagnostic.toJson)).WellFormed := by
  refine wellFormed_arr.mpr fun v hv => ?_
  obtain ⟨d, _, rfl⟩ := List.mem_map.mp hv
  exact d.wellFormed_toJson

theorem Metadata.wellFormed_toJson (m : Metadata) : m.toJson.WellFormed :=
  wellFormed_leaves fun _ he => (Metadata.isLeaf_of_mem he).2

theorem Report.wellFormed_toJson (r : Report) : r.toJson.WellFormed :=
  ⟨trivial, r.metadata.wellFormed_toJson, Diagnostic.wellFormed_list r.diagnostics, trivial⟩

namespace Program

theorem wellFormed_tokenJson (t : Token) : (tokenJson t).WellFormed :=
  ⟨trivial, (isLeaf_ofTexts? t.args).wellFormed, trivial⟩

theorem wellFormed_reportJson (verbose : Bool) (r : Report) : (reportJson verbose r).WellFormed := by
  have hreport := wellFormed_obj.mp r.wellFormed_toJson
  refine wellFormed_obj.mpr (List.forall_mem_append.mpr ⟨hreport, ?_⟩)
  intro e he
  split at he
  · obtain rfl := List.mem_singleton.mp he
    refine wellFormed_arr.mpr fun v hv => ?_
    obtain ⟨t, _, rfl⟩ := List.mem_map.mp hv
    exact wellFormed_tokenJson t
  · cases he

theorem withoutMembers_report (r : Report) : withoutMembers "tokens" r.members = r.members := by
  have hmetadata : without "tokens" r.metadata.toJson = r.metadata.toJson :=
    without_leaves fun _ he => Metadata.isLeaf_of_mem he
  have hdiagnostics : without "tokens" (.arr (r.diagnostics.map Diagnostic.toJson)) =
      .arr (r.diagnostics.map Diagnostic.toJson) := by
    rw [without, withoutItems_eq_map, List.map_map]
    rfl
  refine withoutMembers_eq_self ?_
  simp only [Report.members, List.forall_mem_cons]
  exact ⟨⟨by decide, rfl⟩, ⟨by decide, hmetadata⟩, ⟨by decide, hdiagnostics⟩,
    List.forall_mem_nil _⟩

/-- Without its tokens a report is the one that is not verbose. -/
theorem without_reportJson (verbose : Bool) (r : Report) :
    without "tokens" (reportJson verbose r) = reportJson false r := by
  rw [reportJson, without, withoutMembers_append, withoutMembers_report, reportJson]
  cases verbose with
  | false => rfl
  | true => simp [withoutMembers]

end Program

/-! ## Forms -/

theorem FormField.wellFormed_property (f : FormField) : f.property.WellFormed := by
  have hstated : ∀ {keyword value e}, e ∈ FormField.stated keyword value →
      ∃ v, value = some v ∧ e = (keyword, v) := by
    intro keyword value e he
    cases value with
    | none => cases he
    | some v => exact ⟨v, rfl, List.mem_singleton.mp he⟩
  refine wellFormed_leaves fun e he => ?_
  simp only [keywords, List.mem_append] at he
  obtain ((he | he) | he) | he := he
  · simp only [List.mem_cons, List.not_mem_nil, or_false] at he
    obtain rfl | rfl := he
    · exact .str _
    · exact .str _
  · obtain ⟨v, hv, rfl⟩ := hstated he
    obtain ⟨s, _, rfl⟩ := Option.map_eq_some_iff.mp hv
    exact .str s
  · obtain ⟨v, hv, rfl⟩ := hstated he
    obtain ⟨d, _, rfl⟩ := Option.map_eq_some_iff.mp hv
    exact d.isLeaf_toJson
  · obtain ⟨v, hv, rfl⟩ := hstated he
    obtain ⟨choices, _, hv⟩ := Option.bind_eq_some_iff.mp hv
    split at hv
    · cases hv
    · cases hv
      exact .texts choices

theorem Form.wellFormed_jsonSchema {draft : Json} (hdraft : draft.WellFormed) (f : Form) :
    (f.jsonSchema draft).WellFormed := by
  have hproperties : (obj f.properties).WellFormed := by
    refine wellFormed_obj.mpr fun e he => ?_
    obtain ⟨field, _, rfl⟩ := List.mem_map.mp (OrderedMap.mem_ofEntries he)
    exact field.wellFormed_property
  exact ⟨hdraft, trivial, trivial, (isLeaf_ofText? f.description).wellFormed, hproperties,
    (IsLeaf.texts f.required).wellFormed, trivial⟩

/-- The export of a form is JSON where the setting that names the draft is. -/
theorem Form.wellFormed_config {draft : Json} (hdraft : draft.WellFormed) (f : Form) :
    (f.config draft).WellFormed := by
  have hcontrols : f.uiSchema.WellFormed := by
    refine wellFormed_obj.mpr fun e he => ?_
    obtain ⟨w, _, rfl⟩ := List.mem_map.mp he
    exact ⟨trivial, trivial⟩
  have hdiagnostics : f.diagnosticsJson.WellFormed := by
    refine wellFormed_obj.mpr fun e he => ?_
    obtain ⟨d, _, rfl⟩ := List.mem_map.mp he
    exact Diagnostic.wellFormed_list d.2
  exact ⟨trivial, f.wellFormed_jsonSchema hdraft, hcontrols, trivial, hdiagnostics, trivial⟩

end FormLine
