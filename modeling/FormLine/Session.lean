import FormLine.Field.Report
import FormLine.Check.Field
/-!
# Sessions

A session is opened on one specification and asked about it any number of times. Its log of
diagnostics starts empty and only grows: notes are appended as they are made, and the findings of the
reading are appended once, when the metadata is first asked for. The metadata never changes.

Correspondence (program ↔ library):
  `FieldSpecParser`                   ↔ `Session`, opened by `Session.ofValue?`
  `tokens`, `token_map`, `errors`     ↔ the requests `tokens`, `argumentMap`, `log`
  `add_error`                         ↔ the request `note`
  `component_name`, `component_args`  ↔ the requests `componentName`, `componentArguments`
  `get_data`, `parse`                 ↔ `Session.read`, `Session.report` and their requests
-/

namespace FormLine

/-- A specification being asked about. -/
structure Session where
  spec : String
  tokens : List Token
  /-- The diagnostics so far. -/
  log : List Diagnostic := []
  /-- The metadata, once it has been asked for. -/
  metadata : Option Metadata := none

namespace Session

/-- What a session may be asked. -/
inductive Request where
  | tokens
  | argumentMap
  | log
  /-- Clears the list that an answer holds, which is a copy. -/
  | clearCopy
  /-- Notes a diagnostic; its title and message must be texts. The values are JSON values: bytes, which a
  diagnostic would also take and decode to a text, are left out. -/
  | note (title message : Json)
  | componentName
  | componentArguments
  | metadata
  | report
  /-- The diagnostics of a title, after reading. -/
  | titled (title : Json)
  /-- Assigns to the metadata, which is never allowed. -/
  | assign (fieldName : String)

/-- What a session answers. -/
inductive Answer where
  | tokens (ts : List Token)
  | argumentMap (m : OrderedMap (Option (List String)))
  | diagnostics (ds : List Diagnostic)
  | component (c : Option Component)
  | arguments (args : Option (List String))
  | metadata (m : Metadata)
  | report (r : Report)
  | problems (ps : List Problem)
  /-- The record cannot be changed. -/
  | frozen (fieldName : String)

/-- A session on a specification. -/
def ofSpec (spec : String) : Session where
  spec := spec
  tokens := Token.ofText spec

/-- A session on a value, which must be a text. -/
def ofValue? (v : Json) : Except SpecError Session := (specText v).map ofSpec

/-- Reads the specification, at most once, and answers with the metadata. -/
def read (s : Session) : Session × Metadata :=
  match s.metadata with
  | some m => (s, m)
  | none =>
    let m := Metadata.ofTokens s.tokens
    ({ s with metadata := some m, log := s.log ++ Diagnostic.ofTokens s.tokens }, m)

/-- Reads the specification and answers with a report that has the log of this moment. -/
def report (s : Session) : Session × Report :=
  let (s, m) := s.read
  (s, { spec := s.spec, metadata := m, diagnostics := s.log })

/-- Appends a diagnostic to the log. -/
def note (s : Session) (d : Diagnostic) : Session := { s with log := s.log ++ [d] }

/-- One request. -/
def step (s : Session) : Request → Session × Answer
  | .tokens => (s, .tokens s.tokens)
  | .argumentMap => (s, .argumentMap (Token.argumentMap s.tokens))
  | .log => (s, .diagnostics s.log)
  | .clearCopy => (s, .diagnostics s.log)
  | .note title message =>
    match Check.diagnostic [("title", title), ("message", message)] with
    | .valid d =>
      let s := s.note d
      (s, .diagnostics s.log)
    | .invalid ps => (s, .problems ps)
  | .componentName => (s, .component (Metadata.componentOf s.tokens))
  | .componentArguments => (s, .arguments (Metadata.argumentsOf s.tokens))
  | .metadata =>
    let (s, m) := s.read
    (s, .metadata m)
  | .report =>
    let (s, r) := s.report
    (s, .report r)
  | .titled title =>
    let (s, r) := s.report
    match title with
    | .str t => (s, .diagnostics (r.titled t))
    | _ => (s, .diagnostics [])
  | .assign fieldName => (s.read.1, .frozen fieldName)

/-- The answers to a sequence of requests. -/
def run (s : Session) : List Request → List Answer
  | [] => []
  | r :: rest => (s.step r).2 :: run (s.step r).1 rest

/-- What is said of an assignment. -/
def frozenMessage (fieldName : String) : String := fieldName ++ ": Instance is frozen"

end Session

end FormLine
