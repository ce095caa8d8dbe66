import FormLine.Check.Field
import FormLine.Field.Report
/-!
# Metadata read back from its export

The export of a record is an object, and reading the object gives the record again, whatever the record
is. The reader takes more than the export writes: it reads a yes or no from numbers and words. None of
that is done to what the export writes, since a yes or no and a text are taken as they are where a
default may be either. So checking a record twice is checking it once (`export_readsBack`).

The export is used through one statement, what it holds under each name (`member?_members`), and the
readers through another, that each gives back what is written of its kind of value (`Check.Inverts`).
-/

namespace FormLine

open Json

/-! ## Readers -/

namespace Check

variable {α : Type} {read : Json → Checked (Option α)} {write : α → Json}

/-- The reader gives back what is written, and nothing for null. -/
structure Inverts (read : Json → Checked (Option α)) (write : α → Json) : Prop where
  null : read .null = .valid none
  written : ∀ a, read (write a) = .valid (some a)

theorem itemsFrom_texts (i : Nat) (items : List String) :
    itemsFrom string i (items.map .str) = .valid items := by
  induction items generalizing i with
  | nil => rfl
  | cons s rest ih =>
    rw [List.map_cons, itemsFrom, ih]
    rfl

theorem inverts_component : Inverts (optional component) fun c => .str c.name where
  null := rfl
  written c := by
    show (component (.str c.name)).map some = _
    rw [component, Component.ofName?_name]
    rfl

theorem inverts_string : Inverts (optional string) .str where
  null := rfl
  written _ := rfl

theorem inverts_fixedList : Inverts (optional (fixedList string)) .texts where
  null := rfl
  written items := by
    show (itemsFrom string 0 (items.map .str)).map some = _
    rw [itemsFrom_texts]
    rfl

/-- A text is no yes or no here, whatever its words are. -/
theorem inverts_initial : Inverts initial DefaultValue.toJson where
  null := rfl
  written d := by cases d <;> rfl

/-- What is not set may be left out or written as null. -/
theorem Inverts.fieldOr_eq (h : Inverts read write) {members : List (String × Json)} {name : String}
    {value : Option α}
    (hmember : member? name members = value.map write ∨
      value = none ∧ member? name members = some .null) :
    fieldOr members name none read = .valid value := by
  rw [fieldOr]
  obtain hmember | ⟨rfl, hmember⟩ := hmember
  · cases value with
    | none => rw [hmember, Option.map_none]
    | some a =>
      rw [hmember, Option.map_some]
      simp only [h.written]
      rfl
  · rw [hmember]
    simp only [h.null]
    rfl

end Check

/-! ## The export -/

namespace Metadata

/-- The names of the fields, in the order of their declaration. -/
def fieldNames : List String :=
  ["component", "arguments", "label", "description", "required", "default"]

/-- Whether the field of this name has no value. -/
def isUnset (m : Metadata) : String → Bool
  | "component" => m.component.isNone
  | "arguments" => m.arguments.isNone
  | "label" => m.label.isNone
  | "description" => m.description.isNone
  | "default" => m.initial.isNone
  | _ => false

/-- The names of the members of the export, in order. -/
def keys (m : Metadata) : List String := m.members.map Prod.fst

theorem member?_setMember (name field : String) (value : Option Json) :
    member? name (setMember field value) = if field = name then value else none := by
  cases value with
  | none => simp [setMember, member?]
  | some v => rfl

theorem member?_null (name field : String) (unset : Bool) :
    member? name (if unset then [(field, .null)] else []) =
      if unset ∧ field = name then some .null else none := by
  cases unset with
  | false => simp [member?]
  | true => simp [member?]

/-- What the export holds under each name. -/
theorem member?_members (m : Metadata) (name : String) :
    member? name m.members =
      if name = "component" then some m.componentJson
      else if name = "arguments" then some (.ofTexts? m.arguments)
      else if name = "label" then m.label.map .str
      else if name = "description" then m.description.map .str
      else if name = "required" then some (.bool m.required)
      else if name = "default" then m.initial.map DefaultValue.toJson
      else none := by
  simp only [members, member?_append, member?_setMember, member?_null]
  by_cases hcomponent : name = "component"
  · subst hcomponent
    cases hc : m.component <;> simp [componentJson, hc, ofText?, member?]
  by_cases harguments : name = "arguments"
  · subst harguments
    cases ha : m.arguments <;> simp [ofTexts?, member?]
  by_cases hlabel : name = "label"
  · subst hlabel
    simp [member?]
  by_cases hdescription : name = "description"
  · subst hdescription
    simp [member?]
  by_cases hrequired : name = "required"
  · subst hrequired
    simp [member?]
  by_cases hdefault : name = "default"
  · subst hdefault
    simp [member?]
  simp [member?, Ne.symm hcomponent, Ne.symm harguments, Ne.symm hlabel, Ne.symm hdescription,
    Ne.symm hrequired, Ne.symm hdefault, hcomponent, harguments, hlabel, hdescription, hrequired,
    hdefault]

theorem map_fst_setMember (field : String) (value : Option Json) :
    (setMember field value).map Prod.fst = if value.isSome then [field] else [] := by
  cases value with
  | none => rfl
  | some v => rfl

theorem map_fst_null (field : String) (unset : Bool) :
    (if unset then [(field, Json.null)] else []).map Prod.fst = if unset then [field] else [] := by
  cases unset with
  | false => rfl
  | true => rfl

theorem filter_cons_append {α : Type} (p : α → Bool) (a : α) (l : List α) :
    (a :: l).filter p = (if p a then [a] else []) ++ l.filter p := by
  rw [List.filter_cons]
  split
  · rfl
  · rfl

/-- The names of the members are those of the set fields, and then those of the two that are never left
out where they are unset. -/
theorem keys_eq (m : Metadata) :
    m.keys = fieldNames.filter (fun name => !m.isUnset name) ++
      ["component", "arguments"].filter m.isUnset := by
  simp only [keys, members, List.map_append, map_fst_setMember, map_fst_null, Option.isSome_map]
  simp [fieldNames, filter_cons_append, isUnset]

/-- No name comes twice: a field is set or unset. -/
theorem keys_nodup (m : Metadata) : m.keys.Nodup := by
  have hset : (fieldNames.filter fun name => !m.isUnset name).Nodup :=
    List.filter_sublist.nodup (by decide)
  have hunset : (["component", "arguments"].filter m.isUnset).Nodup :=
    List.filter_sublist.nodup (by decide)
  rw [keys_eq, List.nodup_append]
  refine ⟨hset, hunset, ?_⟩
  rintro name hname _ hother rfl
  have hno : (!m.isUnset name) = true := (List.mem_filter.mp hname).2
  rw [(List.mem_filter.mp hother).2] at hno
  cases hno

theorem mem_of_member? {name : String} {v : Json} {members : List (String × Json)}
    (h : member? name members = some v) : name ∈ members.map Prod.fst := by
  induction members with
  | nil => cases h
  | cons e rest ih =>
    obtain ⟨k, w⟩ := e
    rw [member?] at h
    split at h
    · rename_i hk
      exact hk ▸ List.mem_cons_self
    · exact List.mem_cons_of_mem k (ih h)

/-- Two fields are never left out, and whether the field is required is always known. -/
theorem mem_keys {m : Metadata} {name : String} (h : name ∈ ["component", "arguments", "required"]) :
    name ∈ m.keys := by
  simp only [List.mem_cons, List.not_mem_nil, or_false] at h
  obtain rfl | rfl | rfl := h
  · exact mem_of_member? (m.member?_members "component")
  · exact mem_of_member? (m.member?_members "arguments")
  · exact mem_of_member? (m.member?_members "required")

/-! ## Reading the export -/

/-- **Reading the export of a record gives the record.** -/
theorem metadata_members (m : Metadata) : Check.metadata m.members = .valid m := by
  have hcomponent : Check.fieldOr m.members "component" none (Check.optional Check.component) =
      .valid m.component := by
    refine Check.inverts_component.fieldOr_eq ?_
    rw [member?_members]
    cases hc : m.component with
    | none => exact .inr ⟨rfl, by simp [componentJson, hc, ofText?]⟩
    | some c => exact .inl (by simp [componentJson, hc, ofText?])
  have harguments : Check.fieldOr m.members "arguments" none
      (Check.optional (Check.fixedList Check.string)) = .valid m.arguments := by
    refine Check.inverts_fixedList.fieldOr_eq ?_
    rw [member?_members]
    cases m.arguments with
    | none => exact .inr ⟨rfl, rfl⟩
    | some items => exact .inl rfl
  have hlabel : Check.fieldOr m.members "label" none (Check.optional Check.string) = .valid m.label :=
    Check.inverts_string.fieldOr_eq (.inl (m.member?_members "label"))
  have hdescription : Check.fieldOr m.members "description" none (Check.optional Check.string) =
      .valid m.description :=
    Check.inverts_string.fieldOr_eq (.inl (m.member?_members "description"))
  have hrequired : Check.fieldOr m.members "required" false Check.boolean = .valid m.required := by
    rw [Check.fieldOr, member?_members]
    rfl
  have hdefault : Check.fieldOr m.members "default" none Check.initial = .valid m.initial :=
    Check.inverts_initial.fieldOr_eq (.inl (m.member?_members "default"))
  rw [Check.metadata, hcomponent, harguments, hlabel, hdescription, hrequired, hdefault]
  rfl

theorem member?_default (m : Metadata) :
    member? "default" m.members = m.initial.map DefaultValue.toJson := m.member?_members "default"

theorem member?_arguments (m : Metadata) :
    member? "arguments" m.members = some (.ofTexts? m.arguments) := m.member?_members "arguments"

/-- The export of the record reads back as the record, and this is what it holds. -/
structure ReadsBack (m : Metadata) : Prop where
  read : Check.metadata m.members = .valid m
  /-- The set fields in the order of their declaration, then the component and the arguments where they
  are unset. -/
  keys : m.keys = fieldNames.filter (fun name => !m.isUnset name) ++
    ["component", "arguments"].filter m.isUnset
  keys_nodup : m.keys.Nodup
  always : ∀ name ∈ ["component", "arguments", "required"], name ∈ m.keys
  default_flag : ∀ b, m.initial = some (.flag b) ↔ member? "default" m.members = some (.bool b)
  default_text : ∀ s, m.initial = some (.text s) ↔ member? "default" m.members = some (.str s)
  arguments_null : m.arguments = none ↔ member? "arguments" m.members = some .null
  arguments_list : ∀ items, m.arguments = some items ↔
    member? "arguments" m.members = some (.arr (items.map .str))

theorem readsBack (m : Metadata) : m.ReadsBack where
  read := m.metadata_members
  keys := m.keys_eq
  keys_nodup := m.keys_nodup
  always _ h := mem_keys h
  default_flag b := by
    rw [member?_default]
    obtain _ | ⟨_ | _⟩ := m.initial <;> simp [DefaultValue.toJson]
  default_text s := by
    rw [member?_default]
    obtain _ | ⟨_ | _⟩ := m.initial <;> simp [DefaultValue.toJson]
  arguments_null := by
    rw [member?_arguments]
    cases m.arguments <;> simp [ofTexts?, texts]
  arguments_list items := by
    rw [member?_arguments]
    cases m.arguments with
    | none => simp [ofTexts?]
    | some args =>
      have hmap : args.map Json.str = items.map .str ↔ args = items :=
        List.map_inj_right fun _ _ => Json.str.inj
      simp [ofTexts?, texts, hmap]

end Metadata

/-- The record that is read from the export of what was read. -/
def Check.metadataTwice (members : List (String × Json)) : Checked Metadata :=
  match metadata members with
  | .valid m => metadata m.members
  | .invalid ps => .invalid ps

/-- **Every record reads back from its export, and checking twice is checking once.** A record is what a
check accepts and what a specification is read as. -/
theorem export_readsBack :
    (∀ m : Metadata, m.ReadsBack) ∧ ∀ members, Check.metadataTwice members = Check.metadata members := by
  refine ⟨Metadata.readsBack, ?_⟩
  intro members
  rw [Check.metadataTwice]
  cases Check.metadata members with
  | valid m => exact m.metadata_members
  | invalid ps => rfl

/-- As a default a word for yes stays a text, while a number is read as a yes. -/
example : Check.metadata [("default", .str "true")] = .valid { initial := some (.text "true") } ∧
    Check.metadata [("default", .int 1)] = .valid { initial := some (.flag true) } := ⟨rfl, rfl⟩

end FormLine
