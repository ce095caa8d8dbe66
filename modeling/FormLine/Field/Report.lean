import FormLine.Field.Reading
import FormLine.Json.Display
/-!
# Reports

A report is the outcome of reading one specification: its text, what it says of the field, and the
findings. `Report.ofSpec` reads a text; a value that is no text is refused.

Correspondence (program ↔ library):
  `ParseResult`                    ↔ `Report`
  `is_valid`, `error_count`        ↔ `Report.isValid`, `Report.errorCount`
  `to_dict`                        ↔ `Report.toJson`
  `parse_field_spec`, `parse_form` ↔ `Report.ofSpec`, `readFields`
-/

namespace FormLine

/-- A specification with its metadata and the findings about it. -/
structure Report where
  spec : String
  metadata : Metadata
  diagnostics : List Diagnostic := []
  deriving DecidableEq, Repr, Inhabited

/-- A specification that is not a text. -/
structure SpecError where
  value : Json
  deriving Repr

/-- What is said of a specification that is not a text. -/
def SpecError.message (e : SpecError) : String :=
  "Field specification must be a string, got " ++ e.value.typeName

namespace Report

/-- Reads a specification. -/
def ofSpec (spec : String) : Report where
  spec := spec
  metadata := .ofTokens (Token.ofText spec)
  diagnostics := Diagnostic.ofTokens (Token.ofText spec)

/-- Whether nothing was found. -/
def isValid (r : Report) : Bool := r.diagnostics.isEmpty

/-- The number of findings. -/
def errorCount (r : Report) : Nat := r.diagnostics.length

/-- The findings of a title. -/
def titled (r : Report) (title : String) : List Diagnostic := Diagnostic.titled title r.diagnostics

/-- The messages of the findings under their titles. -/
def grouped (r : Report) : OrderedMap (List String) := Diagnostic.grouped r.diagnostics

/-- The members of the export. -/
def members (r : Report) : List (String × Json) :=
  [("spec", .str r.spec), ("metadata", r.metadata.toJson),
    ("diagnostics", .arr (r.diagnostics.map Diagnostic.toJson))]

/-- The export of the report. -/
def toJson (r : Report) : Json := .obj r.members

end Report

/-- The text of a specification that is given as a value. -/
def specText : Json → Except SpecError String
  | .str s => .ok s
  | v => .error ⟨v⟩

/-- Reads the specifications of a form, in order. The first one that is not a text is refused. -/
def readFields : List (String × Json) → Except SpecError (List (String × Report))
  | [] => .ok []
  | (name, v) :: rest => do
    let spec ← specText v
    let reports ← readFields rest
    pure ((name, .ofSpec spec) :: reports)

end FormLine
