import FormLine.Proofs.Export
/-!
# Fields with one name

A form may have several fields of one name. Its exports are written by walks of their own over the fields
and do not treat such a name alike: of the properties the last field's is kept, the control is that of the
last field that names one, and the name is listed as required once for every field that is required.

`ExportsAgree` is what one would expect: a name is listed once at most, and all three exports say of a name
what its last field says. It holds exactly where the last field of a name covers the earlier ones
(`Covers`), so wherever no name is repeated (`agreement_of_exports`), and it does not hold of every form
(`exports_disagree`).
-/

namespace FormLine

/-! ## Maps with replaced values -/

namespace OrderedMap

variable {α β : Type u}

theorem get?_map (k : α → β) (m : OrderedMap α) (name : String) :
    OrderedMap.get? (m.map fun e => (e.1, k e.2)) name = (m.get? name).map k := by
  induction m with
  | nil => rfl
  | cons e rest ih =>
    obtain ⟨n, v⟩ := e
    by_cases h : n = name
    · simp [get?, h]
    · simpa [get?, h] using ih

end OrderedMap

theorem Json.member?_eq_get? (name : String) (members : List (String × Json)) :
    member? name members = OrderedMap.get? members name := by
  induction members with
  | nil => rfl
  | cons e rest ih => rw [member?, OrderedMap.get?, ih]

theorem Json.texts_injective {xs ys : List String} (h : texts xs = texts ys) : xs = ys :=
  (List.map_inj_right fun _ _ hxy => Json.str.inj hxy).mp (Json.arr.inj h)

namespace Form

/-! ## The statement -/

/-- The field is the last of its name, and these stand before it. -/
def IsLast (f : Form) (before : List FormField) (g : FormField) : Prop :=
  ∃ after, f.fields = before ++ g :: after ∧ ∀ h ∈ after, h.name ≠ g.name

/-- The exports say of every name what its last field says, and list no name twice. -/
structure ExportsAgree (draft : Json) (f : Form) : Prop where
  property : ∀ before g, f.IsLast before g →
    ((f.jsonSchema draft).at? "properties").bind (·.at? g.name) = some g.property
  control : ∀ before g, f.IsLast before g →
    f.uiSchema.at? g.name = g.widget?.map fun w => .obj [("ui:widget", .str w)]
  required : ∃ names, (f.jsonSchema draft).at? "required" = some (.texts names) ∧ names.Nodup ∧
    ∀ before g, f.IsLast before g → (g.name ∈ names ↔ g.required = true)

/-- The last field of a name covers the earlier ones: none of them is required, and none names a control
where the last one names none. -/
def Covers (before : List FormField) (g : FormField) : Prop :=
  ∀ h ∈ before, h.name = g.name → h.required = false ∧ (g.widget? = none → h.widget? = none)

/-! ## The last field of a name -/

variable {draft : Json} {f : Form} {before : List FormField} {g : FormField}

theorem IsLast.mem (hlast : f.IsLast before g) : g ∈ f.fields := by
  obtain ⟨after, hfields, _⟩ := hlast
  simp [hfields]

/-- A field of the same name stands before it. -/
theorem IsLast.eq_or_mem (hlast : f.IsLast before g) {h : FormField} (hh : h ∈ f.fields)
    (hname : h.name = g.name) : h = g ∨ h ∈ before := by
  obtain ⟨after, hfields, hafter⟩ := hlast
  rw [hfields, List.mem_append, List.mem_cons] at hh
  obtain hh | hh | hh := hh
  · exact .inr hh
  · exact .inl hh
  · exact absurd hname (hafter h hh)

/-- A field that another of its name follows stands before the last one. -/
theorem exists_isLast {earlier later : List FormField} {h k : FormField}
    (hfields : f.fields = earlier ++ h :: later) (hk : k ∈ later) (hname : k.name = h.name) :
    ∃ before g, f.IsLast before g ∧ h ∈ before ∧ h.name = g.name := by
  have hfound : (later.reverse.find? fun x => x.name == h.name).isSome = true :=
    List.find?_isSome.mpr ⟨k, List.mem_reverse.mpr hk, by simpa using hname⟩
  obtain ⟨g, hg⟩ := Option.isSome_iff_exists.mp hfound
  obtain ⟨hgname, middle, after, rfl, hafter⟩ := OrderedMap.find?_reverse_eq_some.mp hg
  have hgname : g.name = h.name := by simpa using hgname
  refine ⟨earlier ++ h :: middle, g, ⟨after, by simp [hfields], ?_⟩, by simp, hgname.symm⟩
  intro x hx
  have hne := hafter x hx
  rw [hgname]
  simpa using hne

/-- Of what fields write under their names, that of the last field of a name stays. -/
theorem IsLast.lastValue {α : Type} {entry : FormField → Option (String × α)}
    (hentry : ∀ h e, entry h = some e → e.1 = h.name) (hlast : f.IsLast before g) {v : α}
    (hg : entry g = some (g.name, v)) :
    OrderedMap.LastValue (f.fields.filterMap entry) g.name v := by
  obtain ⟨after, hfields, hafter⟩ := hlast
  refine ⟨before.filterMap entry, after.filterMap entry, ?_, ?_⟩
  · rw [hfields, List.filterMap_append, List.filterMap_cons, hg]
  · intro e he
    obtain ⟨h, hh, heq⟩ := List.mem_filterMap.mp he
    rw [hentry h e heq]
    exact hafter h hh

/-! ## The exports -/

/-- The property of a name is that of its last field. -/
theorem at?_properties (draft : Json) (hlast : f.IsLast before g) :
    ((f.jsonSchema draft).at? "properties").bind (·.at? g.name) = some g.property := by
  have hvalue : OrderedMap.LastValue (f.fields.filterMap fun h => some (h.name, h.property)) g.name
      g.property := by
    refine hlast.lastValue ?_ rfl
    intro h e he
    rw [← Option.some.inj he]
  rw [List.filterMap_eq_map'] at hvalue
  show Json.member? g.name f.properties = _
  rw [Json.member?_eq_get?]
  exact OrderedMap.lastValue_iff.mp hvalue

theorem at?_uiSchema (f : Form) (name : String) :
    f.uiSchema.at? name = (f.widgets.get? name).map fun w => .obj [("ui:widget", .str w)] := by
  show Json.member? name (f.widgets.map fun e => (e.1, Json.obj [("ui:widget", Json.str e.2)])) = _
  rw [Json.member?_eq_get?, OrderedMap.get?_map fun w => Json.obj [("ui:widget", Json.str w)]]

/-- A control that the last field names is exported. -/
theorem get?_widgets_isLast (hlast : f.IsLast before g) {w : String} (hw : g.widget? = some w) :
    f.widgets.get? g.name = some w := by
  refine OrderedMap.lastValue_iff.mp (hlast.lastValue ?_ (by rw [hw, Option.map_some]))
  intro h e he
  obtain ⟨w', _, rfl⟩ := Option.map_eq_some_iff.mp he
  rfl

/-- A control is exported under the names of fields that name one. -/
theorem get?_widgets_isSome {name : String} :
    (f.widgets.get? name).isSome = true ↔ ∃ h ∈ f.fields, h.name = name ∧ h.widget? ≠ none := by
  rw [widgets, OrderedMap.get?_ofEntries, Option.isSome_map, List.find?_isSome]
  constructor
  · rintro ⟨e, he, hname⟩
    obtain ⟨h, hh, hentry⟩ := List.mem_filterMap.mp (List.mem_reverse.mp he)
    obtain ⟨w, hw, rfl⟩ := Option.map_eq_some_iff.mp hentry
    exact ⟨h, hh, by simpa using hname, by simp [hw]⟩
  · rintro ⟨h, hh, hname, hcontrol⟩
    obtain ⟨w, hw⟩ := Option.ne_none_iff_exists'.mp hcontrol
    refine ⟨(h.name, w), List.mem_reverse.mpr (List.mem_filterMap.mpr ⟨h, hh, ?_⟩), by simpa using hname⟩
    rw [hw, Option.map_some]

theorem mem_required_iff {name : String} :
    name ∈ f.required ↔ ∃ h ∈ f.fields, h.name = name ∧ h.required = true := by
  rw [required, List.mem_map]
  constructor
  · rintro ⟨h, hh, rfl⟩
    obtain ⟨hmem, hrequired⟩ := List.mem_filter.mp hh
    exact ⟨h, hmem, rfl, hrequired⟩
  · rintro ⟨h, hmem, rfl, hrequired⟩
    exact ⟨h, List.mem_filter.mpr ⟨hmem, hrequired⟩, rfl⟩

/-! ## When the exports agree -/

section Covered

variable (hcovers : ∀ before g, f.IsLast before g → Covers before g)
include hcovers

theorem control_of_covers (hlast : f.IsLast before g) :
    f.uiSchema.at? g.name = g.widget?.map fun w => .obj [("ui:widget", .str w)] := by
  rw [at?_uiSchema]
  cases hw : g.widget? with
  | some w => rw [get?_widgets_isLast hlast hw]
  | none =>
    have hnone : ¬ (f.widgets.get? g.name).isSome = true := by
      rw [get?_widgets_isSome]
      rintro ⟨h, hh, hname, hcontrol⟩
      obtain rfl | hbefore := hlast.eq_or_mem hh hname
      · exact hcontrol hw
      · exact hcontrol ((hcovers before g hlast h hbefore hname).2 hw)
    rw [Option.not_isSome_iff_eq_none.mp hnone]

theorem mem_required_of_covers (hlast : f.IsLast before g) :
    g.name ∈ f.required ↔ g.required = true := by
  rw [mem_required_iff]
  constructor
  · rintro ⟨h, hh, hname, hrequired⟩
    obtain rfl | hbefore := hlast.eq_or_mem hh hname
    · exact hrequired
    · rw [(hcovers before g hlast h hbefore hname).1] at hrequired
      cases hrequired
  · exact fun hrequired => ⟨g, hlast.mem, rfl, hrequired⟩

theorem nodup_required_of_covers : f.required.Nodup := by
  -- Of every end of the list: a required field has no other of its name behind it.
  have hend : ∀ later earlier, f.fields = earlier ++ later →
      ((later.filter (·.required)).map FormField.name).Nodup := by
    intro later
    induction later with
    | nil => exact fun _ _ => List.nodup_nil
    | cons h rest ih =>
      intro earlier hfields
      have hrest := ih (earlier ++ [h]) (by simpa using hfields)
      cases hrequired : h.required with
      | false => simpa [hrequired] using hrest
      | true =>
        rw [List.filter_cons_of_pos hrequired, List.map_cons, List.nodup_cons]
        refine ⟨?_, hrest⟩
        intro hmem
        obtain ⟨k, hk, hname⟩ := List.mem_map.mp hmem
        obtain ⟨before, g, hlast, hbefore, hsame⟩ :=
          exists_isLast hfields (List.mem_filter.mp hk).1 hname
        rw [(hcovers before g hlast h hbefore hsame).1] at hrequired
        cases hrequired
  exact hend f.fields [] rfl

end Covered

theorem covers_of_exportsAgree (hagree : f.ExportsAgree draft) (hlast : f.IsLast before g) :
    Covers before g := by
  obtain ⟨names, hnames, hnodup, hmem⟩ := hagree.required
  have hrequired : f.required = names := Json.texts_injective (Option.some.inj hnames)
  subst hrequired
  intro h hh hname
  obtain ⟨after, hfields, _⟩ := id hlast
  constructor
  · cases hh' : h.required with
    | false => rfl
    | true =>
      -- the earlier field has the name listed, so the last field lists it again
      have hg : g.required = true := by
        rw [← hmem before g hlast, mem_required_iff]
        exact ⟨h, by simp [hfields, hh], hname, hh'⟩
      rw [required, hfields, List.filter_append, List.filter_cons_of_pos hg, List.map_append,
        List.map_cons] at hnodup
      have hlisted : g.name ∈ (before.filter (·.required)).map FormField.name :=
        hname ▸ List.mem_map_of_mem (List.mem_filter.mpr ⟨hh, hh'⟩)
      exact absurd rfl ((List.nodup_append.mp hnodup).2.2 g.name hlisted g.name List.mem_cons_self)
  · intro hnone
    cases hcontrol : h.widget? with
    | none => rfl
    | some w =>
      have hsome : (f.widgets.get? g.name).isSome = true :=
        get?_widgets_isSome.mpr ⟨h, by simp [hfields, hh], hname, by simp [hcontrol]⟩
      obtain ⟨v, hv⟩ := Option.isSome_iff_exists.mp hsome
      have hexported := hagree.control before g hlast
      rw [at?_uiSchema, hv, hnone] at hexported
      cases hexported

theorem exportsAgree_iff (draft : Json) (f : Form) :
    f.ExportsAgree draft ↔ ∀ before g, f.IsLast before g → Covers before g := by
  constructor
  · exact fun hagree before g hlast => covers_of_exportsAgree hagree hlast
  · intro hcovers
    refine ⟨fun before g => at?_properties draft, fun before g => control_of_covers hcovers, ?_⟩
    exact ⟨f.required, rfl, nodup_required_of_covers hcovers,
      fun before g => mem_required_of_covers hcovers⟩

/-- Where no name is repeated, nothing stands before a last field that it would have to cover. -/
theorem covers_of_nodup (h : (f.fields.map FormField.name).Nodup) (hlast : f.IsLast before g) :
    Covers before g := by
  obtain ⟨after, hfields, _⟩ := hlast
  intro k hk hname
  rw [hfields, List.map_append, List.map_cons] at h
  exact absurd hname
    ((List.nodup_append.mp h).2.2 k.name (List.mem_map_of_mem hk) g.name List.mem_cons_self)

/-- **The exports agree exactly where the last field of each name covers the earlier ones.** The property of
a name is always that of its last field. A form without repeated names, such as one that is read from a map
of specifications, exports every field as it is. -/
theorem agreement_of_exports (draft : Json) (f : Form) :
    (∀ before g, f.IsLast before g →
      ((f.jsonSchema draft).at? "properties").bind (·.at? g.name) = some g.property) ∧
    (f.ExportsAgree draft ↔ ∀ before g, f.IsLast before g → Covers before g) ∧
    ((f.fields.map FormField.name).Nodup → f.ExportsAgree draft) := by
  have hiff := exportsAgree_iff draft f
  refine ⟨fun before g => at?_properties draft, hiff, ?_⟩
  intro hnodup
  exact hiff.mpr fun before g => covers_of_nodup hnodup

/-- Two required fields and a last one that is not required and names no control: the name is listed as
required twice, and a control is exported that the last field does not have. -/
theorem exports_disagree : ∃ f, Check.form [("form_id", .str "f"), ("title", .str "F"), ("fields", .arr [
      .obj [("name", .str "a"), ("type", .str "string"), ("title", .str "A"), ("required", .bool true),
        ("ui_widget", .str "text")],
      .obj [("name", .str "a"), ("type", .str "string"), ("title", .str "B"), ("required", .bool true)],
      .obj [("name", .str "a"), ("type", .str "boolean"), ("title", .str "C")]])] = .valid f ∧
    ¬ f.ExportsAgree (.str "https://json-schema.org/draft/2020-12/schema") ∧
    (f.jsonSchema .null).at? "properties" =
      some (.obj [("a", .obj [("type", .str "boolean"), ("title", .str "C")])]) ∧
    (f.jsonSchema .null).at? "required" = some (.texts ["a", "a"]) ∧
    f.uiSchema = .obj [("a", .obj [("ui:widget", .str "text")])] := by
  refine ⟨_, rfl, ?_, rfl, rfl, rfl⟩
  intro hagree
  obtain ⟨names, hnames, hnodup, _⟩ := hagree.required
  have hlisted : ["a", "a"] = names := Json.texts_injective (Option.some.inj hnames)
  subst hlisted
  revert hnodup
  decide

end Form

end FormLine
