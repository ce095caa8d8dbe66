import FormLine.Form
import FormLine.Settings
import FormLine.Proofs.Export
import Mathlib.Data.List.Basic
import Mathlib.Data.List.Induction
/-!
# Settings over their history

What the settings are after any requests is said by the requests alone: each setting holds the value of
the last request that gives it one, and its default where none does (`Holds`). A request gives a setting
a value by installing settings that an environment builds or by a change under exactly its key (`Gives`);
building settings without installing them, reading, changing under another key and failing give nothing.

Building fails over the text of a variable that is no integer, and over the port before the indentation
(`Refuses`); what no variable sets keeps its default (`ofEnvironment_unset`). `step_eq` is the step,
`holds_after` the run, and `settings_of_history` puts all of it together.
-/

namespace FormLine

/-- The variable of an environment that sets the setting. None sets the schema draft. -/
def Setting.variable? : Setting → Option String
  | logLevel => some "FIELDSPEC_LOG_LEVEL"
  | transport => some "MCP_TRANSPORT"
  | host => some "MCP_HOST"
  | port => some "MCP_PORT"
  | schemaDraft => none
  | indent => some "FIELDSPEC_INDENT_JSON"
  | verbose => some "FIELDSPEC_VERBOSE_OUTPUT"

theorem Setting.key_eq_iff {k : String} {x y : Setting} (h : ofKey? k = some y) : k = x.key ↔ y = x := by
  have hy : y.key = k := by
    have hfound := List.find?_some h
    simpa using hfound
  constructor
  · rintro rfl
    rw [ofKey?_key] at h
    exact (Option.some.inj h).symm
  · rintro rfl
    exact hy.symm

theorem Setting.ne_key {k : String} (h : ofKey? k = none) (x : Setting) : k ≠ x.key := by
  rintro rfl
  rw [ofKey?_key] at h
  cases h

namespace Settings

/-! ## The statement -/

/-- No settings are built from the environment, because of this text. -/
inductive Refuses (env : Environment) : String → Prop
  | port {text : String} (hset : env.lookup "MCP_PORT" = some text)
    (hbad : Text.integer? text = none) : Refuses env text
  | indent {text : String}
    (hport : ∀ t, env.lookup "MCP_PORT" = some t → Text.integer? t ≠ none)
    (hset : env.lookup "FIELDSPEC_INDENT_JSON" = some text) (hbad : Text.integer? text = none) :
    Refuses env text

/-- The request fails over the text. -/
inductive Fails : Request → String → Prop
  | preview {env : Environment} {text : String} (h : Refuses env text) : Fails (.preview env) text
  | load {env : Environment} {text : String} (h : Refuses env text) : Fails (.load env) text

/-- The request gives the setting the value. -/
inductive Gives : Request → Setting → Json → Prop
  | load {env : Environment} {built : Settings} (h : ofEnvironment env = .ok built) (x : Setting) :
    Gives (.load env) x (built x)
  | update {changes : List (String × Json)} {x : Setting} {v : Json}
    (h : OrderedMap.LastValue changes x.key v) : Gives (.update changes) x v

/-- After the requests the setting holds the value: that of the last request that gives it one, or its
default where none does. -/
def Holds (requests : List Request) (x : Setting) (v : Json) : Prop :=
  (∃ before r after, requests = before ++ r :: after ∧ Gives r x v ∧ ∀ q ∈ after, ∀ w, ¬ Gives q x w) ∨
    (∀ q ∈ requests, ∀ w, ¬ Gives q x w) ∧ v = defaults x

/-- The settings after requests. -/
def after (s : Settings) (requests : List Request) : Settings :=
  requests.foldl (fun s r => (s.step r).1) s

/-! ## Building -/

theorem integerOf_eq_error {env : Environment} {name text : String} {absent : Int} :
    integerOf env name absent = .error ⟨text⟩ ↔
      env.lookup name = some text ∧ Text.integer? text = none := by
  rw [integerOf]
  cases env.lookup name with
  | none => simp
  | some t =>
    simp only [Option.some.injEq]
    cases hread : Text.integer? t with
    | none =>
      simp only [Except.error.injEq, NotInteger.mk.injEq]
      constructor
      · rintro rfl
        exact ⟨rfl, hread⟩
      · exact fun h => h.1
    | some n =>
      simp only [reduceCtorEq, false_iff, not_and]
      rintro rfl
      simp [hread]

theorem integerOf_unset {env : Environment} {name : String} (h : env.lookup name = none) (absent : Int) :
    integerOf env name absent = .ok absent := by
  rw [integerOf, h]

/-- A variable that is read as an integer is not refused. -/
theorem readable_of_integerOf {env : Environment} {name : String} {absent n : Int}
    (h : integerOf env name absent = .ok n) :
    ∀ text, env.lookup name = some text → Text.integer? text ≠ none := by
  intro text hset hbad
  rw [integerOf_eq_error.mpr ⟨hset, hbad⟩] at h
  cases h

theorem ofEnvironment_eq_error {env : Environment} {text : String} :
    ofEnvironment env = .error ⟨text⟩ ↔ Refuses env text := by
  rw [ofEnvironment]
  constructor
  · intro h
    cases hport : integerOf env "MCP_PORT" 8080 with
    | error e =>
      rw [hport] at h
      cases h
      obtain ⟨hset, hbad⟩ := integerOf_eq_error.mp hport
      exact .port hset hbad
    | ok port =>
      cases hindent : integerOf env "FIELDSPEC_INDENT_JSON" 2 with
      | error e =>
        rw [hport, hindent] at h
        cases h
        obtain ⟨hset, hbad⟩ := integerOf_eq_error.mp hindent
        exact .indent (readable_of_integerOf hport) hset hbad
      | ok indent =>
        rw [hport, hindent] at h
        cases h
  · intro h
    cases h with
    | port hset hbad =>
      rw [integerOf_eq_error.mpr ⟨hset, hbad⟩]
      rfl
    | indent hgood hset hbad =>
      cases hport : integerOf env "MCP_PORT" 8080 with
      | error e =>
        obtain ⟨hset', hbad'⟩ := integerOf_eq_error.mp hport
        exact absurd hbad' (hgood _ hset')
      | ok port =>
        rw [integerOf_eq_error.mpr ⟨hset, hbad⟩]
        rfl

/-- Settings that are built are those of the variables, with two integers that were read. -/
theorem ofEnvironment_eq_ok {env : Environment} {built : Settings} (h : ofEnvironment env = .ok built) :
    ∃ port indent, integerOf env "MCP_PORT" 8080 = .ok port ∧
      integerOf env "FIELDSPEC_INDENT_JSON" 2 = .ok indent ∧ built = ofVariables env port indent := by
  rw [ofEnvironment] at h
  cases hport : integerOf env "MCP_PORT" 8080 with
  | error e => rw [hport] at h; cases h
  | ok port =>
    cases hindent : integerOf env "FIELDSPEC_INDENT_JSON" 2 with
    | error e => rw [hport, hindent] at h; cases h
    | ok indent =>
      rw [hport, hindent] at h
      cases h
      exact ⟨port, indent, rfl, rfl, rfl⟩

/-- What no variable of the environment sets keeps its default. -/
theorem ofEnvironment_unset {env : Environment} {built : Settings} (h : ofEnvironment env = .ok built)
    {x : Setting} (hunset : ∀ name, x.variable? = some name → env.lookup name = none) :
    built x = defaults x := by
  obtain ⟨port, indent, hport, hindent, rfl⟩ := ofEnvironment_eq_ok h
  cases x with
  | logLevel =>
    have hupper : Text.upper "INFO" = "INFO" := by decide
    rw [ofVariables, textOf, hunset _ rfl, Option.getD_none, hupper]
    rfl
  | transport => rw [ofVariables, textOf, hunset _ rfl]; rfl
  | host => rw [ofVariables, textOf, hunset _ rfl]; rfl
  | port =>
    rw [integerOf_unset (hunset _ rfl)] at hport
    cases hport
    rfl
  | schemaDraft => rfl
  | indent =>
    rw [integerOf_unset (hunset _ rfl)] at hindent
    cases hindent
    rfl
  | verbose => rw [ofVariables, saysTrue, hunset _ rfl]; rfl

/-! ## One request -/

/-- The value that a request gives a setting. -/
def given? (r : Request) (x : Setting) : Option Json :=
  match r with
  | .load env => (ofEnvironment env).toOption.map fun built => built x
  | .update changes => (OrderedMap.ofEntries changes).get? x.key
  | _ => none

theorem gives_iff {r : Request} {x : Setting} {v : Json} : Gives r x v ↔ given? r x = some v := by
  constructor
  · intro h
    cases h with
    | load h => rw [given?, h]; rfl
    | update h => exact OrderedMap.lastValue_iff.mp h
  · intro h
    cases r with
    | load env =>
      rw [given?] at h
      cases hbuilt : ofEnvironment env with
      | error e => rw [hbuilt] at h; cases h
      | ok built =>
        rw [hbuilt] at h
        cases h
        exact .load hbuilt x
    | update changes => exact .update (OrderedMap.lastValue_iff.mpr h)
    | _ => cases h

/-- Changes give each setting the last value under its key. -/
theorem update_eq (s : Settings) (changes : List (String × Json)) (x : Setting) :
    s.update changes x = ((OrderedMap.ofEntries changes).get? x.key).getD (s x) := by
  rw [OrderedMap.get?_ofEntries]
  induction changes generalizing s with
  | nil => rfl
  | cons e rest ih =>
    obtain ⟨k, v⟩ := e
    rw [List.reverse_cons, List.find?_append]
    cases hk : Setting.ofKey? k with
    | none =>
      have hne := Setting.ne_key hk x
      simp only [update, hk, ih]
      simp [hne]
    | some y =>
      have hkey := Setting.key_eq_iff (x := x) hk
      simp only [update, hk, ih]
      cases rest.reverse.find? (fun e => e.1 == x.key) with
      | some e => rfl
      | none =>
        by_cases hy : y = x
        · subst hy
          simp [set, hkey]
        · have hne : ¬ k = x.key := fun h => hy (hkey.mp h)
          simp [set, hne, Ne.symm hy]

theorem step_eq (s : Settings) (r : Request) (x : Setting) :
    (s.step r).1 x = (given? r x).getD (s x) := by
  cases r with
  | preview env => cases h : ofEnvironment env <;> simp [step, h, given?]
  | load env => cases h : ofEnvironment env <;> simp [step, h, given?, Except.toOption]
  | update changes => exact update_eq s changes x
  | get => rfl
  | draft => rfl

/-- A request fails where it builds settings from an environment that is refused. -/
theorem step_eq_notInteger {s : Settings} {r : Request} {text : String} :
    (s.step r).2 = .notInteger ⟨text⟩ ↔ Fails r text := by
  constructor
  · intro h
    cases r with
    | preview env =>
      cases hbuilt : ofEnvironment env with
      | error e =>
        simp only [step, hbuilt, Answer.notInteger.injEq] at h
        exact .preview (ofEnvironment_eq_error.mp (h ▸ hbuilt))
      | ok built => simp [step, hbuilt] at h
    | load env =>
      cases hbuilt : ofEnvironment env with
      | error e =>
        simp only [step, hbuilt, Answer.notInteger.injEq] at h
        exact .load (ofEnvironment_eq_error.mp (h ▸ hbuilt))
      | ok built => simp [step, hbuilt] at h
    | update changes => cases h
    | get => cases h
    | draft => cases h
  · intro h
    cases h with
    | preview h => simp only [step, ofEnvironment_eq_error.mpr h]
    | load h => simp only [step, ofEnvironment_eq_error.mpr h]

theorem given?_of_fails {r : Request} {text : String} (h : Fails r text) (x : Setting) :
    given? r x = none := by
  cases h with
  | preview h => rfl
  | load h => rw [given?, ofEnvironment_eq_error.mpr h]; rfl

/-! ## All requests -/

theorem after_concat (s : Settings) (requests : List Request) (r : Request) :
    s.after (requests ++ [r]) = ((s.after requests).step r).1 := by
  rw [after, List.foldl_append]
  rfl

theorem run_append (s : Settings) (requests more : List Request) :
    s.run (requests ++ more) = s.run requests ++ (s.after requests).run more := by
  induction requests generalizing s with
  | nil => rfl
  | cons r rest ih => rw [List.cons_append, run, run, ih]; rfl

/-- A request settles what it gives and leaves the rest as it was. -/
theorem holds_concat {requests : List Request} {r : Request} {x : Setting} {v : Json} :
    Holds (requests ++ [r]) x v ↔ Gives r x v ∨ (∀ w, ¬ Gives r x w) ∧ Holds requests x v := by
  constructor
  · rintro (⟨before, q, after, hsplit, hgives, hafter⟩ | ⟨hnone, hv⟩)
    · -- the last giving request is the last of all, or stands before it
      obtain rfl | ⟨rest, last, rfl⟩ := List.eq_nil_or_concat' after
      · obtain ⟨_, hlast⟩ := List.append_inj' hsplit rfl
        cases hlast
        exact .inl hgives
      · have hassoc : before ++ q :: (rest ++ [last]) = (before ++ q :: rest) ++ [last] := by simp
        rw [hassoc] at hsplit
        obtain ⟨hbefore, hlast⟩ := List.append_inj' hsplit rfl
        cases hlast
        refine .inr ⟨hafter r (by simp), .inl ⟨before, q, rest, hbefore, hgives, ?_⟩⟩
        exact fun p hp => hafter p (List.mem_append_left _ hp)
    · exact .inr ⟨hnone r (by simp), .inr ⟨fun q hq => hnone q (List.mem_append_left _ hq), hv⟩⟩
  · rintro (hgives | ⟨hsilent, ⟨before, q, after, hsplit, hgives, hafter⟩ | ⟨hnone, hv⟩⟩)
    · exact .inl ⟨requests, r, [], rfl, hgives, by simp⟩
    · refine .inl ⟨before, q, after ++ [r], by simp [hsplit], hgives, ?_⟩
      intro p hp
      obtain hp | hp := List.mem_append.mp hp
      · exact hafter p hp
      · rw [List.mem_singleton.mp hp]
        exact hsilent
    · refine .inr ⟨?_, hv⟩
      intro p hp
      obtain hp | hp := List.mem_append.mp hp
      · exact hnone p hp
      · rw [List.mem_singleton.mp hp]
        exact hsilent

/-- **A setting holds what was given to it last.** -/
theorem holds_after (requests : List Request) (x : Setting) (v : Json) :
    Holds requests x v ↔ defaults.after requests x = v := by
  induction requests using List.reverseRecOn generalizing v with
  | nil => simp [Holds, after, eq_comm]
  | append_singleton before r ih =>
    rw [holds_concat, after_concat, step_eq, ih]
    simp only [gives_iff]
    cases given? r x with
    | none => simp
    | some w => simp

/-- **What the settings are is said by their history.** At every point of a run each setting holds what was
given to it last; a request fails exactly over a variable that should be an integer and is none, and then
changes nothing; what no variable sets, such as the schema draft, is built as its default; and what is read
is what is held, also as the draft that an exported form names. -/
theorem settings_of_history (requests : List Request) :
    (∀ x v, defaults.after requests x = v ↔ Holds requests x v) ∧
      (∀ r text, ((defaults.after requests).step r).2 = .notInteger ⟨text⟩ ↔ Fails r text) ∧
      (∀ r text, Fails r text → defaults.after (requests ++ [r]) = defaults.after requests) ∧
      (∀ env built, ofEnvironment env = .ok built → built .schemaDraft = defaults .schemaDraft ∧
        ∀ x : Setting, (∀ name, x.variable? = some name → env.lookup name = none) →
          built x = defaults x) ∧
      defaults.run (requests ++ [.get, .draft]) = defaults.run requests ++
        [.settings (defaults.after requests), .draft (defaults.after requests .schemaDraft)] ∧
      ∀ f : Form, (f.jsonSchema (defaults.after requests .schemaDraft)).at? "$schema" =
        some (defaults.after requests .schemaDraft) := by
  refine ⟨fun x v => (holds_after requests x v).symm, fun r text => step_eq_notInteger, ?_, ?_, ?_,
    fun f => rfl⟩
  · intro r text hfails
    funext x
    rw [after_concat, step_eq, given?_of_fails hfails]
    rfl
  · intro env built hbuilt
    exact ⟨ofEnvironment_unset hbuilt nofun, fun x hunset => ofEnvironment_unset hbuilt hunset⟩
  · exact run_append defaults requests [.get, .draft]

/-- A change under a key of no setting gives nothing, and neither does settings that cannot be built. -/
example : defaults.after [.load [("FIELDSPEC_INDENT_JSON", " 4_0 ")],
    .update [("from_env", .int 1), ("mcp_port", .null)], .load [("MCP_PORT", "x")]] .indent = .int 40 := by
  rfl

end Settings

end FormLine
