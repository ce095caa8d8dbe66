/-!
# Maps that keep the order of insertion

A map from names is held as its list of entries. `put` gives a name its value: a new name goes to the
end, a known one keeps its place and takes the new value. `get?_put_self`, `get?_put_of_ne` and `keys_put` say so.
-/

namespace FormLine

/-- Entries of a map from names, in the order in which the names were first put. -/
abbrev OrderedMap (α : Type u) := List (String × α)

namespace OrderedMap

variable {α : Type u}

/-- Gives the name the value. -/
def put : OrderedMap α → String → α → OrderedMap α
  | [], name, value => [(name, value)]
  | (k, v) :: rest, name, value =>
    if k = name then (k, value) :: rest else (k, v) :: put rest name value

/-- The map of a list of entries, put one after another. -/
def ofEntries (entries : List (String × α)) : OrderedMap α :=
  entries.foldl (fun m e => put m e.1 e.2) []

/-- The names in order. -/
def keys (m : OrderedMap α) : List String := m.map Prod.fst

/-- The value of the name. -/
def get? : OrderedMap α → String → Option α
  | [], _ => none
  | (k, v) :: rest, name => if k = name then some v else get? rest name

/-- Whether the map has the name. -/
def has (m : OrderedMap α) (name : String) : Bool := m.any (·.1 == name)

theorem get?_put_self (m : OrderedMap α) (name : String) (value : α) :
    (m.put name value).get? name = some value := by
  induction m with
  | nil => simp [put, get?]
  | cons e rest ih =>
    obtain ⟨k, v⟩ := e
    by_cases h : k = name <;> simp [put, get?, h, ih]

theorem get?_put_of_ne (m : OrderedMap α) {name other : String} (value : α) (hne : name ≠ other) :
    (m.put name value).get? other = m.get? other := by
  induction m with
  | nil => simp [put, get?, hne]
  | cons e rest ih =>
    obtain ⟨k, v⟩ := e
    by_cases h : k = name
    · subst h; simp [put, get?, hne]
    · simp only [put, h, if_false, get?, ih]

/-- A known name keeps its place and a new one goes to the end. -/
theorem keys_put (m : OrderedMap α) (name : String) (value : α) :
    (m.put name value).keys = if name ∈ m.keys then m.keys else m.keys ++ [name] := by
  induction m with
  | nil => simp [put, keys]
  | cons e rest ih =>
    obtain ⟨k, v⟩ := e
    simp only [keys] at ih
    by_cases h : k = name
    · subst h; simp [put, keys]
    · have h' : ¬ name = k := fun e => h e.symm
      by_cases hm : name ∈ rest.map Prod.fst
      · simp [put, keys, h, ih, hm]
      · simp [put, keys, h, h', ih, hm]

end OrderedMap

end FormLine
