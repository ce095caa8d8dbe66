import FormLine.Json.Display
/-!
# Input schemas

A tool declares its arguments by an object schema: some named properties, each a string or an object
of strings, and the names that must be there. Arguments are held against the schema before the tool is
called; of several mismatches the one nearest to the root is reported, and of those at one depth the
one whose path is the last in alphabetical order.
-/

namespace FormLine.Server

/-- What the value of a property must be. -/
inductive ValueType where
  | string
  /-- An object whose values are all strings. -/
  | stringObject
  deriving DecidableEq, Repr

/-- A property of the arguments. -/
structure Property where
  name : String
  type : ValueType
  description : String
  /-- The value that a tool takes where there is none. -/
  absent : Option String := none
  deriving DecidableEq, Repr

/-- The schema of the arguments of a tool. -/
structure InputSchema where
  properties : List Property
  required : List String
  deriving DecidableEq, Repr

/-- The keywords of a property. -/
def Property.toJson (p : Property) : Json :=
  match p.type with
  | .string =>
    .obj ([("type", .str "string"), ("description", .str p.description)] ++
      (p.absent.map fun s => ("default", Json.str s)).toList)
  | .stringObject =>
    .obj [("type", .str "object"), ("additionalProperties", .obj [("type", .str "string")]),
      ("description", .str p.description)]

/-- The schema as JSON. -/
def InputSchema.toJson (s : InputSchema) : Json :=
  .obj [("type", .str "object"),
    ("properties", .obj (s.properties.map fun p => (p.name, p.toJson))),
    ("required", .texts s.required)]

/-- Arguments that do not fit a schema. -/
structure Mismatch where
  path : List String
  text : String
  deriving DecidableEq, Repr

/-- A value that is not of a type. -/
def notOfType (path : List String) (v : Json) (type : String) : Mismatch where
  path := path
  text := v.shown ++ " is not of type '" ++ type ++ "'"

/-- The members of an object that are not strings. -/
def nonStrings (path : List String) : List (String × Json) → List Mismatch
  | [] => []
  | (_, .str _) :: rest => nonStrings path rest
  | (k, v) :: rest => notOfType (path ++ [k]) v "string" :: nonStrings path rest

/-- The mismatches of the value of a property. -/
def Property.mismatches (p : Property) (v : Json) : List Mismatch :=
  match p.type, v with
  | .string, .str _ => []
  | .string, v => [notOfType [p.name] v "string"]
  | .stringObject, .obj members => nonStrings [p.name] members
  | .stringObject, v => [notOfType [p.name] v "object"]

/-- All mismatches of some arguments. -/
def InputSchema.mismatches (s : InputSchema) (arguments : List (String × Json)) : List Mismatch :=
  (s.properties.flatMap fun p =>
    match Json.member? p.name arguments with
    | none => []
    | some v => p.mismatches v) ++
  (s.required.filter fun k => (Json.member? k arguments).isNone).map fun k =>
    ⟨[], Text.quoted k ++ " is a required property"⟩

/-- Whether a mismatch is reported before another: it is nearer to the root, or as near and later in
the order of paths. -/
def Mismatch.precedes (a b : Mismatch) : Bool :=
  a.path.length < b.path.length || (a.path.length == b.path.length && b.path < a.path)

/-- The mismatch that is reported. -/
def reported? : List Mismatch → Option Mismatch
  | [] => none
  | m :: rest =>
    match reported? rest with
    | none => some m
    | some n => if n.precedes m then some n else some m

/-- Whether the arguments fit the schema. -/
def InputSchema.accepts (s : InputSchema) (arguments : List (String × Json)) : Bool :=
  (s.mismatches arguments).isEmpty

end FormLine.Server
