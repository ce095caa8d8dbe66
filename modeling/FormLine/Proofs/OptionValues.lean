import FormLine.Proofs.OptionWords
/-!
# The values that options hold

A command line may write its options in any way that the command understands: in full or by a beginning of
their names, with values behind an equals sign or in the next word, several letters in one word, among
operands and more than once. Whatever it is, an option then holds what an option of its name takes
(`Flag.Takes`), or its default (`value_of_invocation`). The default is the one value that the choices of
an option need not allow.

The words of a command line name options of the command only (`isOf_words`), each use of one keeps what is
held a value that was taken (`taken_perform`), and so does the reading of all words (`taken_take`).
-/

namespace FormLine.CommandLine

/-- What the option may hold once it is used: yes for a switch, and for an option with a value one that is
read and chosen, or nothing where the value is two hyphens. -/
inductive Flag.Takes (f : Flag) : Json → Prop
  | switch (h : f.effect = .switch) : f.Takes (.bool true)
  | dashes {reader : ValueReader} {choices : List String} (h : f.effect = .value reader choices) :
    f.Takes (.arr [])
  | read {reader : ValueReader} {choices : List String} (h : f.effect = .value reader choices)
    {s : String} {v : Json} (hread : (f.read reader s).bind (f.choose choices) = .ok v) : f.Takes v

/-- What an option with a value takes. -/
theorem Flag.takes_value {f : Flag} {reader : ValueReader} {choices : List String}
    (h : f.effect = .value reader choices) {v : Json} :
    f.Takes v ↔ v = .arr [] ∨ ∃ s, (f.read reader s).bind (f.choose choices) = .ok v := by
  constructor
  · intro htakes
    cases htakes with
    | switch hswitch => rw [h] at hswitch; cases hswitch
    | dashes _ => exact .inl rfl
    | read heffect hread =>
      rw [h] at heffect
      cases heffect
      exact .inr ⟨_, hread⟩
  · rintro (rfl | ⟨s, hread⟩)
    · exact .dashes h
    · exact .read h hread

/-- What was computed in two steps. -/
theorem of_bind_ok {ε α β : Type} {x : Except ε α} {f : α → Except ε β} {b : β}
    (h : x.bind f = .ok b) : ∃ a, x = .ok a ∧ f a = .ok b := by
  cases x with
  | error e => cases h
  | ok a => exact ⟨a, rfl, h⟩

namespace Command

variable {c : Command}

/-! ## The options that words name -/

/-- The word names no option that the command does not have. -/
def IsOf (c : Command) : Word → Prop
  | .option f _ _ => f ∈ c.flags
  | _ => True

theorem mem_flags_of_mem_names {e : String × Flag} (h : e ∈ c.names) : e.2 ∈ c.flags := by
  obtain ⟨f, hf, he⟩ := List.mem_flatMap.mp h
  obtain ⟨n, _, rfl⟩ := List.mem_map.mp he
  exact hf

theorem mem_flags_of_flag? {name : String} {f : Flag} (h : c.flag? name = some f) : f ∈ c.flags := by
  obtain ⟨_, _, hnames, _⟩ := List.lookup_eq_some_iff.mp h
  have hmem : (name, f) ∈ c.names := by
    rw [hnames]
    exact List.mem_append_right _ List.mem_cons_self
  exact mem_flags_of_mem_names hmem

theorem mem_flags_of_candidates {word : List Char} {e : String × Flag × Option (List Char)}
    (h : e ∈ c.candidates word) : e.2.1 ∈ c.flags := by
  rw [candidates] at h
  split at h
  · obtain ⟨⟨n, f⟩, hname, he⟩ := List.mem_filterMap.mp h
    obtain ⟨_, hsome⟩ := Option.ite_none_right_eq_some.mp he
    cases hsome
    exact mem_flags_of_mem_names hname
  · obtain ⟨⟨n, f⟩, hname, he⟩ := List.mem_filterMap.mp h
    dsimp only at he
    split at he
    · cases he
      exact mem_flags_of_mem_names hname
    · obtain ⟨_, hsome⟩ := Option.ite_none_right_eq_some.mp he
      cases hsome
      exact mem_flags_of_mem_names hname

theorem isOf_classifyOption {s : String} {w : Word} (h : c.classifyOption s = .ok w) : c.IsOf w := by
  rw [classifyOption] at h
  split at h
  · rename_i n f attached hone
    cases h
    exact mem_flags_of_candidates (by rw [hone]; exact List.mem_cons_self)
  · split at h
    · cases h; trivial
    · cases h; trivial
  · cases h

theorem isOf_classify {s : String} {w : Word} (h : c.classify s = .ok w) : c.IsOf w := by
  rw [classify] at h
  split at h
  · split at h
    · rename_i hname
      cases h
      exact mem_flags_of_flag? hname
    · dsimp only at h
      split at h
      · cases h; trivial
      · split at h
        · rename_i hname
          cases h
          exact mem_flags_of_flag? hname
        · exact isOf_classifyOption h
  · cases h; trivial

theorem isOf_words {arguments : List String} {ws : List Word} (h : c.words arguments = .ok ws) :
    ∀ w ∈ ws, c.IsOf w := by
  induction arguments generalizing ws with
  | nil =>
    cases h
    exact nofun
  | cons s rest ih =>
    rw [words] at h
    split at h
    · cases h
      refine List.forall_mem_cons.mpr ⟨trivial, ?_⟩
      intro w hw
      obtain ⟨_, _, rfl⟩ := List.mem_map.mp hw
      trivial
    · obtain ⟨w, hword, h⟩ := of_bind_ok h
      obtain ⟨others, hrest, h⟩ := of_bind_ok h
      cases h
      exact List.forall_mem_cons.mpr ⟨isOf_classify hword, ih hrest⟩

theorem mem_flags_of_bundle {f : Flag} {short : Bool} {text : List Char} {us : List Use}
    (hf : f ∈ c.flags) (h : c.bundle f short text = .ok us) : ∀ u ∈ us, u.flag ∈ c.flags := by
  fun_induction bundle c f short text generalizing us with
  | case1 f short htakes => cases h; simpa using hf
  | case2 => cases h
  | case3 f short x rest htakes => cases h; simpa using hf
  | case4 => cases h
  | case5 => cases h
  | case6 f short x htakes hshort g hname =>
    cases h
    simpa using ⟨hf, mem_flags_of_flag? hname⟩
  | case7 f short x htakes hshort g hname y rest ih =>
    cases hothers : c.bundle g true (y :: rest) with
    | error m => rw [hothers] at h; cases h
    | ok others =>
      rw [hothers] at h
      cases h
      exact List.forall_mem_cons.mpr ⟨hf, ih (mem_flags_of_flag? hname) hothers⟩

theorem mem_flags_of_uses {f : Flag} {name : String} {attached : Option (List Char)} {us : List Use}
    (hf : f ∈ c.flags) (h : c.uses f name attached = .ok us) : ∀ u ∈ us, u.flag ∈ c.flags := by
  cases attached with
  | none =>
    cases h
    simpa using hf
  | some text => exact mem_flags_of_bundle hf h

/-! ## The values that words set -/

/-- Every value was taken by an option of its name. -/
def Taken (c : Command) (values : OrderedMap Json) : Prop :=
  ∀ target v, values.get? target = some v → ∃ f ∈ c.flags, f.target = target ∧ f.Takes v

theorem taken_put {values : OrderedMap Json} (h : c.Taken values) {f : Flag} (hf : f ∈ c.flags)
    {v : Json} (hv : f.Takes v) : c.Taken (values.put f.target v) := by
  intro target w hw
  rw [OrderedMap.get?_put] at hw
  split at hw
  · rename_i htarget
    cases hw
    exact ⟨f, hf, htarget, hv⟩
  · exact h target w hw

/-- An option that takes effect sets a value that it takes. -/
theorem taken_perform {u : Use} {following : Option String} {p q : Progress} (hu : u.flag ∈ c.flags)
    (h : u.perform following p = .ok q) (hp : c.Taken p.values) : c.Taken q.values := by
  rw [Use.perform] at h
  cases heffect : u.flag.effect with
  | help => rw [heffect] at h; cases h
  | switch =>
    rw [heffect] at h
    cases h
    exact taken_put hp hu (.switch heffect)
  | value reader choices =>
    simp only [heffect] at h
    split at h
    · cases h
      exact taken_put hp hu (.dashes heffect)
    · split at h
      · cases h
      · split at h
        · rename_i hread
          cases h
          exact taken_put hp hu (.read heffect hread)
        · cases h

theorem taken_performAll {us : List Use} {following : Option String} {p q : Progress}
    (hus : ∀ u ∈ us, u.flag ∈ c.flags) (h : performAll following us p = .ok q) (hp : c.Taken p.values) :
    c.Taken q.values := by
  induction us generalizing p with
  | nil =>
    cases h
    exact hp
  | cons u rest ih =>
    obtain ⟨hu, hrest⟩ := List.forall_mem_cons.mp hus
    obtain ⟨next, hfirst, h⟩ := of_bind_ok h
    exact ih hrest h (taken_perform hu hfirst hp)

/-- An option is used, with the operand behind it where it needs one, and what is left is taken. -/
theorem take_option_cases {f : Flag} {name : String} {attached : Option (List Char)} {rest : List Word}
    {p q : Progress} (h : c.take (.option f name attached :: rest) p = .ok q) :
    ∃ us following left next, c.uses f name attached = .ok us ∧
      (left = rest ∨ ∃ s, rest = .operand s :: left) ∧
      performAll following us p.closeSlot = .ok next ∧ c.take left next = .ok q := by
  rw [take] at h
  cases huses : c.uses f name attached with
  | error m => rw [huses] at h; cases h
  | ok us =>
    simp only [huses] at h
    split at h
    · split at h
      · rename_i s left
        obtain ⟨next, hnext, h⟩ := of_bind_ok h
        exact ⟨us, some s, left, next, rfl, .inr ⟨s, rfl⟩, hnext, h⟩
      · cases h
    · obtain ⟨next, hnext, h⟩ := of_bind_ok h
      exact ⟨us, none, rest, next, rfl, .inl rfl, hnext, h⟩

theorem values_closeSlot (p : Progress) : p.closeSlot.values = p.values := by
  rw [Progress.closeSlot]
  split <;> rfl

/-- From the first word to the last, every value that is held was taken. -/
theorem taken_take : ∀ (ws : List Word) {p q : Progress}, (∀ w ∈ ws, c.IsOf w) →
    c.take ws p = .ok q → c.Taken p.values → c.Taken q.values
  | [], p, q, _, h, hp => by
    cases h
    exact hp
  | .operand s :: rest, p, q, hws, h, hp => by
    rw [take] at h
    split at h
    · exact taken_take rest (List.forall_mem_cons.mp hws).2 h hp
    · exact taken_take rest (List.forall_mem_cons.mp hws).2 h hp
  | .dashes :: rest, p, q, hws, h, hp => by
    rw [take] at h
    split at h
    · exact taken_take rest (List.forall_mem_cons.mp hws).2 h hp
    · exact taken_take rest (List.forall_mem_cons.mp hws).2 h hp
  | .unknown s :: rest, p, q, hws, h, hp => by
    rw [take] at h
    refine taken_take rest (List.forall_mem_cons.mp hws).2 h ?_
    rwa [Progress.leave, values_closeSlot]
  | .option f name attached :: rest, p, q, hws, h, hp => by
    obtain ⟨hf, hrest⟩ := List.forall_mem_cons.mp hws
    obtain ⟨us, following, left, next, huses, hleft, hnext, hq⟩ := take_option_cases h
    have hus := mem_flags_of_uses hf huses
    have hheld : c.Taken next.values := taken_performAll hus hnext (by rwa [values_closeSlot])
    -- the operand that an option may take as its value names no option
    obtain rfl | ⟨s, rfl⟩ := hleft
    · exact taken_take left hrest hq hheld
    · exact taken_take left (List.forall_mem_cons.mp hrest).2 hq hheld
  termination_by ws => ws.length

/-! ## A whole command line -/

/-- A command line that is understood: its words are taken, the defaults are given, and no word is left
over. -/
theorem invocation_cases {arguments : List String} {i : Invocation}
    (h : c.invocation arguments = .ok i) : ∃ ws p, c.words arguments = .ok ws ∧
      c.take ws { slot := if c.operands.isSome then .awaited else .over } = .ok p ∧
      defaults c.flags p.values = .ok i.values ∧ i.operands = p.operands ∧ p.leftOver = [] := by
  rw [invocation] at h
  cases hwords : c.words arguments with
  | error m => rw [hwords] at h; cases h
  | ok ws =>
    simp only [hwords] at h
    obtain ⟨p, hp, h⟩ := of_bind_ok h
    cases hfilled : defaults c.flags p.values with
    | error m => rw [hfilled] at h; cases h
    | ok filled =>
      simp only [hfilled] at h
      split at h
      · rename_i hleft
        cases h
        exact ⟨ws, p, rfl, hp, hfilled, rfl, List.isEmpty_iff.mp hleft⟩
      · cases h

/-- **An option holds what an option of its name takes, or its default.** -/
theorem value_of_invocation {arguments : List String} {i : Invocation}
    (h : c.invocation arguments = .ok i) (target : String) :
    (∃ f ∈ c.flags, f.target = target ∧ f.Takes (i.value target)) ∨
      i.values.get? target =
        (c.flags.find? fun f => f.target == target).bind fun f => f.absent.toOption := by
  obtain ⟨ws, p, hwords, hp, hfilled, _, _⟩ := invocation_cases h
  have htaken : c.Taken p.values := taken_take ws (isOf_words hwords) hp nofun
  have hget := get?_defaults hfilled target
  cases hset : p.values.get? target with
  | some v =>
    obtain ⟨f, hf, htarget, htakes⟩ := htaken target v hset
    refine .inl ⟨f, hf, htarget, ?_⟩
    rw [Invocation.value, hget, hset]
    exact htakes
  | none =>
    rw [hset] at hget
    exact .inr hget

end Command

end FormLine.CommandLine
