/-!
# Components

A component is the kind of control that a field is shown as. There are four.

Correspondence (program ↔ library):
  `Component`, `Component.from_name` ↔ `Component`, `Component.ofName?`
  `COMPONENT_NAMES`                  ↔ `Component.names`
-/

namespace FormLine

/-- The kind of control of a field. -/
inductive Component where
  | text
  | textarea
  | select
  | checkbox
  deriving DecidableEq, Repr, Inhabited

namespace Component

/-- The word that a specification selects the component by. -/
def name : Component → String
  | text => "text"
  | textarea => "textarea"
  | select => "select"
  | checkbox => "checkbox"

/-- Every component. -/
def all : List Component := [text, textarea, select, checkbox]

/-- The names of the components. -/
def names : List String := all.map name

/-- The component of a name. -/
def ofName? (s : String) : Option Component := all.find? fun c => c.name == s

theorem mem_all (c : Component) : c ∈ all := by cases c <;> decide

/-- A component is found by its name. -/
theorem ofName?_name (c : Component) : ofName? c.name = some c := by cases c <;> decide

end Component

end FormLine
