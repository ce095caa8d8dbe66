import FormLine.Token.Chunk
import FormLine.Token.Arguments
import FormLine.OrderedMap
/-!
# Tokens

A token is a chunk whose group has been read as arguments. A list of tokens is looked up in two ways:
by the first token whose name is one of some names, and by the map of names to arguments, in which a
later token replaces an earlier one of the same name.

Correspondence (program ↔ library):
  `tokenize`                           ↔ `Token.ofText`
  `TokenViews.ordered`                 ↔ the list itself
  `TokenViews.mapping`                 ↔ `Token.argumentMap`
  `TokenViews.first`, `.has`, `.args`  ↔ `Token.first?`, `Token.has`, `Token.argsOf`
-/

namespace FormLine

/-- A name with its arguments. -/
structure Token where
  name : String
  /-- `none` for a name without parentheses, the empty list for empty parentheses. -/
  args : Option (List String) := none
  deriving DecidableEq, Repr

namespace Token

/-- The token of a chunk. -/
def ofChunk (c : Chunk) : Token where
  name := String.ofList c.name
  args := c.group.map Arguments.ofGroup

/-- The tokens of a text. -/
def ofText (source : String) : List Token :=
  (Chunk.ofChars source.toList).map ofChunk

/-- The first token whose name is one of the names. -/
def first? (names : List String) (tokens : List Token) : Option Token :=
  tokens.find? fun t => names.contains t.name

/-- The arguments of each name, later tokens replacing earlier ones. -/
def argumentMap (tokens : List Token) : OrderedMap (Option (List String)) :=
  OrderedMap.ofEntries (tokens.map fun t => (t.name, t.args))

/-- Whether some token has the name. -/
def has (name : String) (tokens : List Token) : Bool :=
  (argumentMap tokens).has name

/-- The arguments of the last token of the name; `none` also where it has none. -/
def argsOf (name : String) (tokens : List Token) : Option (List String) :=
  ((argumentMap tokens).get? name).join

end Token

end FormLine
