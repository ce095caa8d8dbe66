import FormLine.Json.Basic
/-!
# Problems of a value

A record that is read from a value may have several problems. Each is a place in the value and what
was expected there, and all of them are reported, in the order in which the record declares its
fields. `Checked` is either a record or its problems; in a sequence of readings the problems add up.
-/

namespace FormLine

/-- One step into a value. -/
inductive Place where
  | key (name : String)
  | index (i : Nat)
  deriving DecidableEq, Repr

/-- The step as a text. -/
def Place.text : Place → String
  | .key name => name
  | .index i => String.ofList (Nat.toDigits 10 i)

/-- What was expected of a value. -/
inductive Expected where
  /-- There should be a value. -/
  | present
  | string
  | boolean
  /-- A text or number that is read as yes or no. -/
  | readableBoolean
  | fixedList
  | list
  | dictionary
  /-- An object that is read as a record of this name. -/
  | record (name : String)
  | component
  deriving DecidableEq, Repr

/-- What a report says. -/
def Expected.message : Expected → String
  | present => "Field required"
  | string => "Input should be a valid string"
  | boolean => "Input should be a valid boolean"
  | readableBoolean => "Input should be a valid boolean, unable to interpret input"
  | fixedList => "Input should be a valid tuple"
  | list => "Input should be a valid list"
  | dictionary => "Input should be a valid dictionary"
  | record name => "Input should be a valid dictionary or instance of " ++ name
  | component => "Input should be 'text', 'textarea', 'select' or 'checkbox'"

/-- Something in a value that is not as expected. -/
structure Problem where
  path : List Place := []
  expected : Expected
  deriving DecidableEq, Repr

/-- The place and what was expected there. -/
def Problem.message (p : Problem) : String :=
  ".".intercalate (p.path.map Place.text) ++ ": " ++ p.expected.message

/-- All problems in one text. -/
def problemsMessage (ps : List Problem) : String :=
  "; ".intercalate (ps.map Problem.message)

/-- A record or its problems. -/
inductive Checked (α : Type) where
  | valid (a : α)
  | invalid (problems : List Problem)
  deriving Repr

namespace Checked

/-- Applies a function to the record. -/
def map (f : α → β) : Checked α → Checked β
  | valid a => valid (f a)
  | invalid ps => invalid ps

/-- Two readings; the problems of the first come first. -/
def seq (f : Checked (α → β)) (x : Checked α) : Checked β :=
  match f, x with
  | valid f, valid a => valid (f a)
  | valid _, invalid ps => invalid ps
  | invalid ps, valid _ => invalid ps
  | invalid ps, invalid qs => invalid (ps ++ qs)

instance : Applicative Checked where
  pure := valid
  seq f x := seq f (x ())

/-- A value that is not as expected. -/
def fail (e : Expected) : Checked α := invalid [⟨[], e⟩]

/-- The problems as they are seen from one step further out. -/
def within (place : Place) : Checked α → Checked α
  | valid a => valid a
  | invalid ps => invalid (ps.map fun p => { p with path := place :: p.path })

/-- The problems, none of a valid record. -/
def problems : Checked α → List Problem
  | valid _ => []
  | invalid ps => ps

/-- The record or its problems, the first reading that fails ending the whole. -/
def toExcept : Checked α → Except (List Problem) α
  | valid a => .ok a
  | invalid ps => .error ps

end Checked

end FormLine
