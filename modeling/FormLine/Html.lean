/-!
# HTML

A fragment of HTML is a tree of elements and texts, printed in one place. The five characters that
mean something in HTML are printed as references, in texts and in attribute values alike, so no text
can end an attribute or start an element.
-/

namespace FormLine

/-- An attribute of an element. -/
inductive Attribute where
  | value (name value : String)
  /-- An attribute that says something by being there. -/
  | mark (name : String)
  deriving DecidableEq, Repr

/-- A node of a fragment. -/
inductive Html where
  | text (s : String)
  | element (tag : String) (attributes : List Attribute) (children : List Html)
  /-- An element that has no content and no closing tag. -/
  | void (tag : String) (attributes : List Attribute)
  deriving Repr, Inhabited

namespace Html

/-- The printed form of a character. -/
def escapeChar : Char → List Char
  | '&' => ['&', 'a', 'm', 'p', ';']
  | '<' => ['&', 'l', 't', ';']
  | '>' => ['&', 'g', 't', ';']
  | '"' => ['&', 'q', 'u', 'o', 't', ';']
  | '\'' => ['&', '#', 'x', '2', '7', ';']
  | c => [c]

/-- The printed form of a text. -/
def escape (s : String) : List Char := s.toList.flatMap escapeChar

/-- The printed form of an attribute, with the space before it. -/
def attributeChars : Attribute → List Char
  | .value name value => ' ' :: name.toList ++ '=' :: '"' :: escape value ++ ['"']
  | .mark name => ' ' :: name.toList

/-- An opening tag. -/
def openTag (tag : String) (attributes : List Attribute) : List Char :=
  '<' :: tag.toList ++ attributes.flatMap attributeChars ++ ['>']

/-- A closing tag. -/
def closeTag (tag : String) : List Char := '<' :: '/' :: tag.toList ++ ['>']

mutual
/-- The printed form of a node. -/
def chars : Html → List Char
  | .text s => escape s
  | .element tag attributes children => openTag tag attributes ++ listChars children ++ closeTag tag
  | .void tag attributes => openTag tag attributes

/-- The printed form of nodes one after another. -/
def listChars : List Html → List Char
  | [] => []
  | node :: rest => chars node ++ listChars rest
end

/-- The printed form of a node. -/
def print (node : Html) : String := String.ofList (chars node)

/-- A text node, or nothing where the text is empty. -/
def textOf (s : String) : List Html := if s = "" then [] else [.text s]

end Html

end FormLine
