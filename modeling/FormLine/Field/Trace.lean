import FormLine.Field.Report
import FormLine.Log
/-!
# The log of a reading

Reading a specification logs its tokens and its findings for debugging; reading a form also tells which
of its fields have findings.

Correspondence (program ↔ library):
  what opening a `FieldSpecParser` logs  ↔ `tokensLine`
  what `add_error` logs                  ↔ `findingLine`
  what `parse_form` logs                 ↔ `formLog`
-/

namespace FormLine

/-- The logger of the readings. -/
def readingLogger : String := "fieldspec"

/-- A line about the tokens of a specification. -/
def tokensLine (spec : String) (tokens : List Token) : LogLine where
  level := .debug
  logger := readingLogger
  message := "Tokenized " ++ Text.quoted spec ++ " into " ++ shownTexts (tokens.map (·.name))

/-- A line about a finding. -/
def findingLine (spec : String) (d : Diagnostic) : LogLine where
  level := .debug
  logger := readingLogger
  message := "Diagnostic for " ++ Text.quoted spec ++ ": " ++ d.title ++ ": " ++ d.message

/-- What reading a specification logs. -/
def Report.log (r : Report) : List LogLine :=
  tokensLine r.spec (Token.ofText r.spec) :: r.diagnostics.map (findingLine r.spec)

/-- What reading the fields of a form logs. -/
def formLog (reports : List (String × Report)) : List LogLine :=
  let withFindings := (reports.filter fun (_, r) => !r.isValid).map (·.1)
  reports.flatMap (·.2.log) ++
    if withFindings.isEmpty then []
    else [⟨.info, readingLogger, "Form has diagnostics for fields: " ++ shownTexts withFindings⟩]

end FormLine
