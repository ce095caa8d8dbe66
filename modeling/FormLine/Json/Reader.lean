import FormLine.Json.Lexeme
/-!
# Reading JSON

A value is put together from the lexemes of its text by a machine with a stack: each array and object
that has been opened and not yet closed waits on it with the items read so far.
-/

namespace FormLine.Json

/-- An array or object that waits for its next item. Items are kept in reverse. -/
inductive Frame where
  | array (items : List Json)
  /-- The member in progress has this name. -/
  | object (members : List (String × Json)) (name : String)

/-- What may come next. -/
inductive Awaits where
  | value (stack : List Frame)
  /-- The first item of an array, or its end. -/
  | itemOrEnd (stack : List Frame)
  /-- The first member of an object, or its end. -/
  | memberOrEnd (stack : List Frame)
  /-- The name of a further member. -/
  | name (members : List (String × Json)) (stack : List Frame)
  | colon (members : List (String × Json)) (name : String) (stack : List Frame)
  /-- A comma or an end; nothing where the stack is empty. -/
  | more (v : Json) (stack : List Frame)

/-- A lexeme where a value must start. -/
def startValue (stack : List Frame) : Lexeme → Option Awaits
  | .text s => some (.more (.str s) stack)
  | .word v => some (.more v stack)
  | .openArray => some (.itemOrEnd stack)
  | .openObject => some (.memberOrEnd stack)
  | _ => none

/-- One lexeme. -/
def build : Awaits → Lexeme → Option Awaits
  | .value stack, x => startValue stack x
  | .itemOrEnd stack, .closeArray => some (.more (.arr []) stack)
  | .itemOrEnd stack, x => startValue (.array [] :: stack) x
  | .memberOrEnd stack, .closeObject => some (.more (.obj []) stack)
  | .memberOrEnd stack, .text k => some (.colon [] k stack)
  | .name members stack, .text k => some (.colon members k stack)
  | .colon members k stack, .colon => some (.value (.object members k :: stack))
  | .more v (.array items :: stack), .comma => some (.value (.array (v :: items) :: stack))
  | .more v (.array items :: stack), .closeArray => some (.more (.arr (v :: items).reverse) stack)
  | .more v (.object members k :: stack), .comma => some (.name ((k, v) :: members) stack)
  | .more v (.object members k :: stack), .closeObject =>
    some (.more (.obj ((k, v) :: members).reverse) stack)
  | _, _ => none

/-- The value that the lexemes are. -/
def ofLexemes? (xs : List Lexeme) : Option Json :=
  match xs.foldlM build (.value []) with
  | some (.more v []) => some v
  | _ => none

/-- The value that a text is. -/
def read? (s : String) : Option Json := (lexemes? s.toList).bind ofLexemes?

end FormLine.Json
