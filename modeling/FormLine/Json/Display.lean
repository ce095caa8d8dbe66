import FormLine.Json.Basic
import FormLine.Text.Integer
/-!
# Values inside messages

A message names the type of a value or shows the value itself. Shown, a string stands between quotes,
the constants are `None`, `True` and `False`, and lists and objects stand between their brackets.
-/

namespace FormLine.Json

/-- The name of the type of a value. -/
def typeName : Json → String
  | .null => "NoneType"
  | .bool _ => "bool"
  | .int _ => "int"
  | .real _ => "float"
  | .str _ => "str"
  | .arr _ => "list"
  | .obj _ => "dict"

mutual
/-- The value as a message shows it. -/
def shown : Json → String
  | .null => "None"
  | .bool true => "True"
  | .bool false => "False"
  | .int n => String.ofList (Text.integerChars n)
  | .real literal => literal
  | .str s => Text.quoted s
  | .arr [] => "[]"
  | .arr (v :: vs) => "[" ++ shown v ++ shownItems vs ++ "]"
  | .obj [] => "\x7b\x7d"
  | .obj ((k, v) :: ms) => "\x7b" ++ Text.quoted k ++ ": " ++ shown v ++ shownMembers ms ++ "\x7d"

/-- The items after the first. -/
def shownItems : List Json → String
  | [] => ""
  | v :: vs => ", " ++ shown v ++ shownItems vs

/-- The members after the first. -/
def shownMembers : List (String × Json) → String
  | [] => ""
  | (k, v) :: ms => ", " ++ Text.quoted k ++ ": " ++ shown v ++ shownMembers ms
end

/-- The value as it stands in running text: a string without quotes. -/
def plain : Json → String
  | .str s => s
  | v => v.shown

end FormLine.Json
