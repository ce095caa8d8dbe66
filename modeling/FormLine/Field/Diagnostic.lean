import FormLine.Json.Basic
import FormLine.OrderedMap
/-!
# Diagnostics

A diagnostic is a finding about a specification: it has a title, which says what it is about, and a
message. Grouping puts the messages of a list of diagnostics under their titles, in the order in
which the titles first occur.

Correspondence (program ↔ library):
  `Diagnostic`                  ↔ `Diagnostic`
  `ParseResult.get_diagnostics` ↔ `Diagnostic.titled`
  `ParseResult.to_error_dict`   ↔ `Diagnostic.grouped`
-/

namespace FormLine

/-- A finding about a specification. -/
structure Diagnostic where
  title : String
  message : String
  deriving DecidableEq, Repr, Inhabited

namespace Diagnostic

/-- The diagnostic as JSON. -/
def toJson (d : Diagnostic) : Json := .obj [("title", .str d.title), ("message", .str d.message)]

/-- The diagnostics of a title. -/
def titled (title : String) (ds : List Diagnostic) : List Diagnostic :=
  ds.filter fun d => d.title == title

/-- A message put under its title after those that are there. -/
def addTo (groups : OrderedMap (List String)) (d : Diagnostic) : OrderedMap (List String) :=
  groups.put d.title ((groups.get? d.title).getD [] ++ [d.message])

/-- The messages under their titles. -/
def grouped (ds : List Diagnostic) : OrderedMap (List String) :=
  ds.foldl addTo []

end Diagnostic

end FormLine
