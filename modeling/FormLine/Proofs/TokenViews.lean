import FormLine.Session
import FormLine.Proofs.Gathering
/-!
# The two views of a token list

Tokens are looked up in the list itself, where the first of some names counts, and in the map of names to
arguments, where the last of a name counts. `Views` says what both show by where tokens stand in the list,
and `views_faithful` proves it of every list.

The biases are opposite, and so are the laws for lists put together: the first list answers the search for a
token wherever it can (`first?_append`), the second list the search for arguments (`argsOf_append`). The map
keeps a name without arguments apart from a name that no token has (`get?_argumentMap_append`), so a bare
token takes away the arguments that an earlier token of its name gave.
-/

namespace FormLine.Token

/-! ## The statement -/

/-- The map has each name of the tokens once, in the order in which the names first occur, with what the last
token of the name carries. -/
structure Maps (tokens : List Token) (m : OrderedMap (Option (List String))) : Prop where
  names : m.keys = (tokens.map name).eraseDups
  value : ∀ name a, m.get? name = some a ↔ ∃ t, LastNamed name tokens t ∧ a = t.args

/-- What the views of the tokens show. -/
structure Views (tokens : List Token) : Prop where
  /-- A session shows its tokens as they are, and the map of them. -/
  ordered : ∀ s : Session, s.tokens = tokens → s.step .tokens = (s, .tokens tokens)
  mapped : ∀ s : Session, s.tokens = tokens → s.step .argumentMap = (s, .argumentMap (argumentMap tokens))
  /-- There is one such map. -/
  maps : ∀ m, Maps tokens m ↔ m = argumentMap tokens
  has : ∀ name, has name tokens = true ↔ ∃ t ∈ tokens, t.name = name
  args : ∀ name a, LastArgs name tokens a ↔ a = argsOf name tokens
  /-- There are no arguments where the last token of the name is bare, and where there is none. -/
  args_none : ∀ name, argsOf name tokens = none ↔ ∀ t, LastNamed name tokens t → t.args = none
  first : ∀ names t, FirstNamed names tokens t ↔ first? names tokens = some t
  first_none : ∀ names, first? names tokens = none ↔ ∀ t ∈ tokens, t.name ∉ names

/-! ## The map -/

theorem lastValue_iff_lastNamed {name : String} {tokens : List Token} {a : Option (List String)} :
    OrderedMap.LastValue (tokens.map fun t => (t.name, t.args)) name a ↔
      ∃ t, LastNamed name tokens t ∧ a = t.args := by
  rw [OrderedMap.lastValue_iff]
  show (argumentMap tokens).get? name = some a ↔ _
  rw [get?_argumentMap, Option.map_eq_some_iff]
  simp only [lastNamed_iff, eq_comm]

theorem maps_iff {tokens : List Token} {m : OrderedMap (Option (List String))} :
    Maps tokens m ↔ m = argumentMap tokens := by
  have hnames : (tokens.map fun t => (t.name, t.args)).map Prod.fst = tokens.map name := List.map_map
  rw [argumentMap, ← OrderedMap.gathers_iff]
  constructor
  · rintro ⟨names, value⟩
    exact ⟨by rw [names, hnames], fun name a => (value name a).trans lastValue_iff_lastNamed.symm⟩
  · rintro ⟨names, value⟩
    exact ⟨by rw [names, hnames], fun name a => (value name a).trans lastValue_iff_lastNamed⟩

theorem argsOf_eq_none {name : String} {tokens : List Token} :
    argsOf name tokens = none ↔ ∀ t, LastNamed name tokens t → t.args = none := by
  simp only [argsOf_eq, lastNamed_iff, Option.bind_eq_none_iff]

/-- The second list counts wherever it has the name, with arguments or without. -/
theorem get?_argumentMap_append (name : String) (tokens more : List Token) :
    (argumentMap (tokens ++ more)).get? name =
      ((argumentMap more).get? name).or ((argumentMap tokens).get? name) := by
  rw [get?_argumentMap, get?_argumentMap, get?_argumentMap, List.reverse_append, List.find?_append]
  cases more.reverse.find? (fun t => t.name == name) with
  | none => rfl
  | some t => rfl

/-! ## Both views -/

/-- **The views show the tokens that they are made of.** Of two lists put together, the first decides the
search for a token and the second the search for arguments. -/
theorem views_faithful (tokens : List Token) :
    Views tokens ∧ ∀ more : List Token,
      (∀ name, (argumentMap (tokens ++ more)).get? name =
        ((argumentMap more).get? name).or ((argumentMap tokens).get? name)) ∧
      (∀ name, has name (tokens ++ more) = (has name tokens || has name more)) ∧
      (∀ name, argsOf name (tokens ++ more) =
        if has name more then argsOf name more else argsOf name tokens) ∧
      ∀ names, first? names (tokens ++ more) = (first? names tokens).or (first? names more) := by
  have hviews : Views tokens := {
    ordered := by rintro s rfl; rfl
    mapped := by rintro s rfl; rfl
    maps := fun m => maps_iff
    has := fun name => has_iff
    args := fun name a => lastArgs_iff
    args_none := fun name => argsOf_eq_none
    first := fun names t => firstNamed_iff
    first_none := fun names => first?_eq_none }
  refine ⟨hviews, fun more => ⟨?_, ?_, ?_, ?_⟩⟩
  · exact fun name => get?_argumentMap_append name tokens more
  · exact fun name => has_append name tokens more
  · exact fun name => argsOf_append name tokens more
  · exact fun names => first?_append names tokens more

/-- A bare token takes away the arguments of an earlier one, and the name keeps its place. -/
example : argumentMap [⟨"a", some ["x"]⟩, ⟨"b", none⟩, ⟨"a", none⟩] = [("a", none), ("b", none)] := by decide

end FormLine.Token
