import FormLine.Check.Problem
import FormLine.Json.Number
/-!
# Reading values

How a text, a yes or no, a list or an object is read from a JSON value. A text is read from a string
only. A yes or no is also read from the numbers zero and one and from a few words in any case.
-/

namespace FormLine.Check

/-- Reads a text. -/
def string : Json → Checked String
  | .str s => .valid s
  | _ => .fail .string

/-- Reads null as nothing. -/
def optional (read : Json → Checked α) : Json → Checked (Option α)
  | .null => .valid none
  | v => (read v).map some

/-- The words that are read as a yes. -/
def trueWords : List String := ["1", "on", "t", "true", "y", "yes"]

/-- The words that are read as a no. -/
def falseWords : List String := ["0", "off", "f", "false", "n", "no"]

/-- Reads a yes or no from a text. -/
def booleanWord (s : String) : Checked Bool :=
  let word := String.ofList (s.toList.map Char.toLower)
  if trueWords.contains word then .valid true
  else if falseWords.contains word then .valid false
  else .fail .readableBoolean

/-- Reads a yes or no from a number: zero is a no and one a yes. Another machine word cannot be read as
either, and a number that is no machine word is no yes or no at all. -/
def booleanNumber (v : Json) : Checked Bool :=
  match v.word? with
  | some 0 => .valid false
  | some 1 => .valid true
  | some _ => .fail .readableBoolean
  | none => .fail .boolean

/-- Reads a yes or no. -/
def boolean : Json → Checked Bool
  | .bool b => .valid b
  | .int n => booleanNumber (.int n)
  | .real literal => booleanNumber (.real literal)
  | .str s => booleanWord s
  | _ => .fail .boolean

/-- Reads the items of a list from the position on. -/
def itemsFrom (read : Json → Checked α) (i : Nat) : List Json → Checked (List α)
  | [] => .valid []
  | v :: vs => List.cons <$> (read v).within (.index i) <*> itemsFrom read (i + 1) vs

/-- Reads a list, or something that is expected to be one under another name. -/
def listAs (e : Expected) (read : Json → Checked α) : Json → Checked (List α)
  | .arr vs => itemsFrom read 0 vs
  | _ => .fail e

/-- Reads a list. -/
def list (read : Json → Checked α) : Json → Checked (List α) := listAs .list read

/-- Reads a list that stays as it is. -/
def fixedList (read : Json → Checked α) : Json → Checked (List α) := listAs .fixedList read

/-- Reads every member of an object. -/
def membersOf (read : Json → Checked α) : List (String × Json) → Checked (List (String × α))
  | [] => .valid []
  | (k, v) :: rest =>
    List.cons <$> ((read v).within (.key k)).map (Prod.mk k) <*> membersOf read rest

/-- Reads an object as a map. -/
def dictionary (read : Json → Checked α) : Json → Checked (List (String × α))
  | .obj members => membersOf read members
  | _ => .fail .dictionary

/-- Reads an object as a record. -/
def record (name : String) (read : List (String × Json) → Checked α) : Json → Checked α
  | .obj members => read members
  | _ => .fail (.record name)

/-- Reads a field that a record must have. -/
def field (members : List (String × Json)) (name : String) (read : Json → Checked α) : Checked α :=
  match Json.member? name members with
  | some v => (read v).within (.key name)
  | none => .invalid [⟨[.key name], .present⟩]

/-- Reads a field that has a value where the object has none. -/
def fieldOr (members : List (String × Json)) (name : String) (absent : α)
    (read : Json → Checked α) : Checked α :=
  match Json.member? name members with
  | some v => (read v).within (.key name)
  | none => .valid absent

end FormLine.Check
