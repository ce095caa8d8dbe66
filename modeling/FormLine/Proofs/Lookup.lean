import FormLine.Token
/-!
# Looking tokens up

The map of a token list is built by putting one token after another. What it holds in the end is said
here without the building: `get?_ofEntries` for maps of any kind, `has_iff` and `lastArgs_iff` for
tokens. The first token of some names is `FirstNamed`, and the last of a name `LastNamed`; they are said
by where the token stands in the list.
-/

namespace FormLine.OrderedMap

variable {α : Type u}

/-- A search from the end finds the last of its kind. -/
theorem find?_reverse_eq_some {p : α → Bool} {xs : List α} {x : α} :
    xs.reverse.find? p = some x ↔
      p x = true ∧ ∃ before after, xs = before ++ x :: after ∧ ∀ y ∈ after, p y = false := by
  rw [List.find?_eq_some_iff_append]
  constructor
  · rintro ⟨hx, after, before, hrev, hafter⟩
    refine ⟨hx, before.reverse, after.reverse, ?_, ?_⟩
    · simpa using congrArg List.reverse hrev
    · intro y hy
      simpa using hafter y (List.mem_reverse.mp hy)
  · rintro ⟨hx, before, after, rfl, hafter⟩
    refine ⟨hx, after.reverse, before.reverse, by simp, ?_⟩
    intro y hy
    simpa using hafter y (List.mem_reverse.mp hy)

theorem get?_put (m : OrderedMap α) (name : String) (value : α) (k : String) :
    (m.put name value).get? k = if name = k then some value else m.get? k := by
  by_cases h : name = k
  · subst h
    rw [get?_put_self, if_pos rfl]
  · rw [get?_put_of_ne m value h, if_neg h]

/-- Putting entries into a map: the last entry of a name counts, and what was there before counts only
where there is none. -/
theorem get?_foldl_put (entries : List (String × α)) (m : OrderedMap α) (k : String) :
    (entries.foldl (fun m e => put m e.1 e.2) m).get? k =
      ((entries.reverse.find? fun e => e.1 == k).map Prod.snd).or (m.get? k) := by
  -- For every map at the start: the first entry is in it when the rest are put.
  induction entries generalizing m with
  | nil => simp
  | cons e rest ih =>
    rw [List.foldl_cons, ih, get?_put, List.reverse_cons, List.find?_append]
    cases rest.reverse.find? (fun e => e.1 == k) with
    | some e' => simp
    | none =>
      by_cases h : e.1 = k
      · simp [h]
      · simp [h]

theorem get?_ofEntries (entries : List (String × α)) (k : String) :
    (ofEntries entries).get? k = (entries.reverse.find? fun e => e.1 == k).map Prod.snd := by
  rw [ofEntries, get?_foldl_put]
  simp [get?]

theorem has_eq_isSome (m : OrderedMap α) (k : String) : m.has k = (m.get? k).isSome := by
  induction m with
  | nil => rfl
  | cons e rest ih =>
    obtain ⟨k', v⟩ := e
    by_cases h : k' = k
    · simp [has, get?, h]
    · have h' : (k' == k) = false := by simpa using h
      simpa [has, get?, h, h'] using ih

end FormLine.OrderedMap

namespace FormLine.Token

/-- `t` is the last token of the name. -/
def LastNamed (name : String) (tokens : List Token) (t : Token) : Prop :=
  ∃ before after, tokens = before ++ t :: after ∧ t.name = name ∧ ∀ u ∈ after, u.name ≠ name

/-- `t` is the first token whose name is one of the names. -/
def FirstNamed (names : List String) (tokens : List Token) (t : Token) : Prop :=
  ∃ before after, tokens = before ++ t :: after ∧ t.name ∈ names ∧ ∀ u ∈ before, u.name ∉ names

/-- `a` is what the last token of the name carries; nothing where no token has the name. -/
def LastArgs (name : String) (tokens : List Token) (a : Option (List String)) : Prop :=
  (∃ t, LastNamed name tokens t ∧ a = t.args) ∨ (∀ t ∈ tokens, t.name ≠ name) ∧ a = none

theorem lastNamed_iff {name : String} {tokens : List Token} {t : Token} :
    LastNamed name tokens t ↔ (tokens.reverse.find? fun t => t.name == name) = some t := by
  rw [OrderedMap.find?_reverse_eq_some]
  constructor
  · rintro ⟨before, after, rfl, hname, hafter⟩
    exact ⟨by simpa using hname, before, after, rfl, by simpa using hafter⟩
  · rintro ⟨hname, before, after, rfl, hafter⟩
    exact ⟨before, after, rfl, by simpa using hname, by simpa using hafter⟩

theorem firstNamed_iff {names : List String} {tokens : List Token} {t : Token} :
    FirstNamed names tokens t ↔ first? names tokens = some t := by
  rw [first?, List.find?_eq_some_iff_append]
  refine ⟨?_, ?_⟩
  · intro h
    obtain ⟨before, after, rfl, hname, hbefore⟩ := h
    refine ⟨by simpa using hname, before, after, rfl, ?_⟩
    intro u hu
    have := hbefore u hu
    simpa using this
  · intro h
    obtain ⟨hname, before, after, rfl, hbefore⟩ := h
    refine ⟨before, after, rfl, by simpa using hname, ?_⟩
    intro u hu
    have := hbefore u hu
    simpa using this

theorem first?_eq_none {names : List String} {tokens : List Token} :
    first? names tokens = none ↔ ∀ t ∈ tokens, t.name ∉ names := by
  simp [first?]

/-- The map holds, under each name, the arguments of the last token of the name. -/
theorem get?_argumentMap (name : String) (tokens : List Token) :
    (argumentMap tokens).get? name =
      (tokens.reverse.find? fun t => t.name == name).map args := by
  rw [argumentMap, OrderedMap.get?_ofEntries, ← List.map_reverse, List.find?_map, Option.map_map]
  rfl

/-- **The map has the names that tokens carry.** -/
theorem has_iff {name : String} {tokens : List Token} :
    has name tokens = true ↔ ∃ t ∈ tokens, t.name = name := by
  rw [has, OrderedMap.has_eq_isSome, get?_argumentMap, Option.isSome_map, List.find?_isSome]
  simp

theorem argsOf_eq (name : String) (tokens : List Token) :
    argsOf name tokens = (tokens.reverse.find? fun t => t.name == name).bind args := by
  rw [argsOf, get?_argumentMap]
  cases tokens.reverse.find? (fun t => t.name == name) with
  | none => rfl
  | some t => rfl

theorem find?_reverse_eq_none {name : String} {tokens : List Token} :
    (tokens.reverse.find? fun t => t.name == name) = none ↔ ∀ t ∈ tokens, t.name ≠ name := by
  simp

/-- **Arguments are those of the last token of the name.** -/
theorem lastArgs_iff {name : String} {tokens : List Token} {a : Option (List String)} :
    LastArgs name tokens a ↔ a = argsOf name tokens := by
  simp only [LastArgs, lastNamed_iff, ← find?_reverse_eq_none, argsOf_eq]
  cases tokens.reverse.find? (fun t => t.name == name) with
  | none => simp
  | some t => simp

/-! ## Lists put together -/

theorem has_append (name : String) (tokens more : List Token) :
    has name (tokens ++ more) = (has name tokens || has name more) := by
  rw [Bool.eq_iff_iff, Bool.or_eq_true, has_iff, has_iff, has_iff]
  simp [or_and_right, exists_or]

/-- The first list counts in the search for the first token. -/
theorem first?_append (names : List String) (tokens more : List Token) :
    first? names (tokens ++ more) = (first? names tokens).or (first? names more) :=
  List.find?_append

/-- The second list counts in the search for arguments, also where it takes them away. -/
theorem argsOf_append (name : String) (tokens more : List Token) :
    argsOf name (tokens ++ more) =
      if has name more then argsOf name more else argsOf name tokens := by
  have hhas : has name more = (more.reverse.find? fun t => t.name == name).isSome := by
    rw [has, OrderedMap.has_eq_isSome, get?_argumentMap, Option.isSome_map]
  rw [argsOf_eq, argsOf_eq, argsOf_eq, hhas, List.reverse_append, List.find?_append]
  cases more.reverse.find? (fun t => t.name == name) with
  | none => rfl
  | some t => rfl

end FormLine.Token
