/-!
# JSON values

The values that the library reads and writes. An object keeps its members in order. Integers are
unbounded; any other number is kept as it is written, so that it is written again in the same way.
-/

namespace FormLine

/-- A JSON value. -/
inductive Json where
  | null
  | bool (b : Bool)
  | int (n : Int)
  /-- A number written with a fraction or an exponent. -/
  | real (literal : String)
  | str (s : String)
  | arr (items : List Json)
  | obj (members : List (String × Json))
  deriving Repr, Inhabited

namespace Json

/-- The value of a member of an object. -/
def member? (name : String) : List (String × Json) → Option Json
  | [] => none
  | (k, v) :: rest => if k = name then some v else member? name rest

/-- The first members count. -/
theorem member?_append (name : String) (ms more : List (String × Json)) :
    member? name (ms ++ more) = (member? name ms).or (member? name more) := by
  induction ms with
  | nil => rfl
  | cons m rest ih =>
    obtain ⟨k, v⟩ := m
    by_cases h : k = name
    · simp [member?, h]
    · simp [member?, h, ih]

/-- A list of texts as a value. -/
def texts (items : List String) : Json := .arr (items.map .str)

/-- The text or null. -/
def ofText? : Option String → Json
  | none => .null
  | some s => .str s

/-- The array of texts or null. -/
def ofTexts? : Option (List String) → Json
  | none => .null
  | some items => texts items

/-- Whether the value counts as set when only a yes or no is asked of it: null, false, zero and
whatever is empty do not. -/
def isSet : Json → Bool
  | .null => false
  | .bool b => b
  | .int n => n != 0
  | .real literal => (literal.toList.takeWhile fun c => c != 'e' && c != 'E').any fun c =>
      '1' ≤ c && c ≤ '9'
  | .str s => s != ""
  | .arr items => !items.isEmpty
  | .obj members => !members.isEmpty

end Json

end FormLine
