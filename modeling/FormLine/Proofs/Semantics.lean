import FormLine.Field.Report
import FormLine.Proofs.Lookup
import FormLine.Proofs.Trim
/-!
# What a specification means

The meaning of a list of tokens, stated as a relation (`Describes`) by where tokens stand in the list:
the component is named by the first token that names one, every other word counts where it stands last.
Nothing is said of maps, of the order in which the fields are computed, or of trimming and unquoting as
functions. `reading_iff` says that reading a specification gives exactly what its tokens describe: a
record and a list of findings are the outcome if and only if the tokens describe them, so every
specification has one meaning and reading finds it.
-/

namespace FormLine

/-! ## The relations -/

/-- `c` is the component that the first token naming one names; nothing where no token names one. -/
def FirstComponent (tokens : List Token) (c : Option Component) : Prop :=
  (∃ t k, Token.FirstNamed ["text", "textarea", "select", "checkbox"] tokens t ∧
    t.name = Component.name k ∧ c = some k) ∨
  (∀ t ∈ tokens, t.name ∉ ["text", "textarea", "select", "checkbox"]) ∧ c = none

/-- `a` is what the last token of the component's name carries; nothing without a component. -/
def ComponentArgs (tokens : List Token) (c : Option Component) (a : Option (List String)) : Prop :=
  match c with
  | some k => Token.LastArgs k.name tokens a
  | none => a = none

/-- `v` is the first argument, trimmed and without one layer of quotes; nothing where there is none. -/
def Normal (a : Option (List String)) (v : Option String) : Prop :=
  match a with
  | some (s :: _) => ∃ t r, Text.Trimmed s.toList t ∧ Arguments.Unquoted t r ∧ v = some (String.ofList r)
  | _ => v = none

/-- `v` is the text that the last token of the name gives. -/
def LastText (name : String) (tokens : List Token) (v : Option String) : Prop :=
  ∃ a, Token.LastArgs name tokens a ∧ Normal a v

/-- `d` is the default that the text of the default stands for. -/
def DefaultMeans (c : Option Component) (v : Option String) (d : Option DefaultValue) : Prop :=
  match v with
  | none => d = none
  | some s =>
    (c = some .checkbox ∧ ∃ b, (boolean? s = some b ∨ boolean? s = none ∧ b = false) ∧ d = some (.flag b)) ∨
      (c ≠ some .checkbox ∧ d = some (.text s))

/-- What is to be reported of a component, its arguments and the text of the default. -/
def findings (c : Option Component) (a : Option (List String)) (v : Option String) : List Diagnostic :=
  (if c = some .select ∧ a = none then [⟨"select", "Requires arguments"⟩] else []) ++
  (v.toList.filter fun s => c = some .checkbox ∧ boolean? s = none).map fun s =>
    ⟨"checkbox", "Default value '" ++ s ++ "' is not a boolean"⟩

/-- The tokens say this of the field and these are the findings about them. -/
structure Describes (tokens : List Token) (m : Metadata) (ds : List Diagnostic) : Prop where
  component : FirstComponent tokens m.component
  arguments : ComponentArgs tokens m.component m.arguments
  label : LastText "label" tokens m.label
  description : LastText "description" tokens m.description
  required : m.required = true ↔
    (∃ t ∈ tokens, t.name = "required") ∧ (∀ t ∈ tokens, t.name ≠ "not-required") ∧
      m.component ≠ some .checkbox
  initial : ∃ v, LastText "default" tokens v ∧ DefaultMeans m.component v m.initial ∧
    ds = findings m.component m.arguments v

/-! ## Each relation is a function -/

theorem firstComponent_iff {tokens : List Token} {c : Option Component} :
    FirstComponent tokens c ↔ c = Metadata.componentOf tokens := by
  have hnames : (["text", "textarea", "select", "checkbox"] : List String) = Component.names := rfl
  unfold FirstComponent Metadata.componentOf
  simp only [hnames, Token.firstNamed_iff, ← Token.first?_eq_none]
  cases hfirst : Token.first? Component.names tokens with
  | none => simp
  | some t =>
    have hname : t.name ∈ Component.names := by
      have := List.find?_some hfirst
      simpa using this
    obtain ⟨k, _, hk⟩ := List.mem_map.mp hname
    have hof : Component.ofName? t.name = some k := by rw [← hk, Component.ofName?_name]
    simp only [Option.bind_some, hof]
    refine ⟨?_, ?_⟩
    · intro h
      rcases h with ⟨u, k', hu, hk', rfl⟩ | ⟨hnone, _⟩
      · -- two kinds of one name are the same
        cases hu
        rw [hk', Component.ofName?_name] at hof
        exact hof
      · simp at hnone
    · intro h
      subst h
      exact .inl ⟨t, k, rfl, hk.symm, rfl⟩

theorem componentArgs_iff {tokens : List Token} {a : Option (List String)} :
    ComponentArgs tokens (Metadata.componentOf tokens) a ↔ a = Metadata.argumentsOf tokens := by
  unfold ComponentArgs Metadata.argumentsOf
  cases Metadata.componentOf tokens with
  | none => rfl
  | some k => exact Token.lastArgs_iff

theorem normal_iff {a : Option (List String)} {v : Option String} :
    Normal a v ↔ v = firstText? a := by
  match a with
  | none => rfl
  | some [] => rfl
  | some (s :: _) =>
    simp only [Normal, Text.trimmed_iff, Arguments.unquoted_iff, firstText?, Arguments.unquote,
      Text.trim, String.toList_ofList]
    refine ⟨?_, fun h => ⟨_, _, rfl, rfl, h⟩⟩
    intro h
    obtain ⟨t, r, rfl, rfl, rfl⟩ := h
    rfl

theorem lastText_iff {name : String} {tokens : List Token} {v : Option String} :
    LastText name tokens v ↔ v = firstText? (Token.argsOf name tokens) := by
  simp [LastText, Token.lastArgs_iff, normal_iff]

theorem defaultMeans_iff {c : Option Component} {v : Option String} {d : Option DefaultValue} :
    DefaultMeans c v d ↔ d = v.map fun s =>
      if c = some .checkbox then .flag ((boolean? s).getD false) else .text s := by
  cases v with
  | none => rfl
  | some s =>
    by_cases hc : c = some .checkbox
    · cases hb : boolean? s with
      | none => simp [DefaultMeans, hc, hb]
      | some b => simp [DefaultMeans, hc, hb]
    · simp [DefaultMeans, hc]

theorem requiredOf_iff {tokens : List Token} :
    Metadata.requiredOf tokens = true ↔
      (∃ t ∈ tokens, t.name = "required") ∧ (∀ t ∈ tokens, t.name ≠ "not-required") ∧
        Metadata.componentOf tokens ≠ some .checkbox := by
  have hnot : Token.has "not-required" tokens = false ↔ ∀ t ∈ tokens, t.name ≠ "not-required" := by
    rw [Bool.eq_false_iff, ne_eq, Token.has_iff]
    simp
  simp only [Metadata.requiredOf, Bool.and_eq_true, Bool.not_eq_true', bne_iff_ne, hnot, Token.has_iff,
    and_assoc]

theorem findings_eq (tokens : List Token) :
    findings (Metadata.componentOf tokens) (Metadata.argumentsOf tokens)
      (Metadata.defaultText? tokens) = Diagnostic.ofTokens tokens := by
  unfold findings Diagnostic.ofTokens
  cases hc : Metadata.componentOf tokens with
  | none => simp
  | some k =>
    cases k with
    | text => simp
    | textarea => simp
    | select =>
      cases ha : Metadata.argumentsOf tokens with
      | none => simp; rfl
      | some a => simp
    | checkbox =>
      cases hv : Metadata.defaultText? tokens with
      | none => simp
      | some s =>
        cases hb : boolean? s with
        | none => simp [hb]; rfl
        | some b => simp [hb]

/-- Tokens describe one record and one list of findings: those that reading computes. -/
theorem describes_iff {tokens : List Token} {m : Metadata} {ds : List Diagnostic} :
    Describes tokens m ds ↔ m = Metadata.ofTokens tokens ∧ ds = Diagnostic.ofTokens tokens := by
  refine ⟨?_, ?_⟩
  · intro h
    obtain ⟨hcomponent, harguments, hlabel, hdescription, hrequired, v, hv, hinitial, hds⟩ := h
    obtain ⟨component, arguments, label, description, required, initial⟩ := m
    simp only at hcomponent harguments hlabel hdescription hrequired hinitial hds
    -- The component comes first: what the other fields and the findings mean depends on it.
    obtain rfl := firstComponent_iff.mp hcomponent
    obtain rfl := componentArgs_iff.mp harguments
    obtain rfl := lastText_iff.mp hlabel
    obtain rfl := lastText_iff.mp hdescription
    obtain rfl := lastText_iff.mp hv
    obtain rfl := defaultMeans_iff.mp hinitial
    have hrequired : required = Metadata.requiredOf tokens := by
      rw [Bool.eq_iff_iff, hrequired, requiredOf_iff]
    exact ⟨by rw [hrequired]; rfl, hds.trans (findings_eq tokens)⟩
  · intro h
    obtain ⟨rfl, rfl⟩ := h
    exact {
      component := firstComponent_iff.mpr rfl
      arguments := componentArgs_iff.mpr rfl
      label := lastText_iff.mpr rfl
      description := lastText_iff.mpr rfl
      required := requiredOf_iff
      initial := ⟨_, lastText_iff.mpr rfl, defaultMeans_iff.mpr rfl, (findings_eq tokens).symm⟩ }

/-- **Reading a specification gives exactly what its tokens describe.** -/
theorem reading_iff (spec : String) (m : Metadata) (ds : List Diagnostic) :
    Report.ofSpec spec = ⟨spec, m, ds⟩ ↔ Describes (Token.ofText spec) m ds := by
  rw [describes_iff, Report.ofSpec, Report.mk.injEq]
  refine ⟨?_, ?_⟩
  · intro h
    obtain ⟨_, rfl, rfl⟩ := h
    exact ⟨rfl, rfl⟩
  · intro h
    obtain ⟨rfl, rfl⟩ := h
    exact ⟨rfl, rfl, rfl⟩

end FormLine
