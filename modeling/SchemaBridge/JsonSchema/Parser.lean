import SchemaBridge.Json.Parser
import SchemaBridge.Notice
import SchemaBridge.SchemaError

/-!
This module contains the reading of JSON Schema documents. Unknown keywords, and keywords of types
that `type` does not name, are ignored; a keyword whose value is `null` is absent, except for
`default` and `const`. Main definition: `JsonSchema.ofJson`.
-/

namespace SchemaBridge

namespace JsonSchema

variable {m : Type → Type} [Monad m] [MonadExceptOf SchemaError m] [MonadNotice m]

/--
A schema object and where it stands in its document.
-/
structure Node where
  path : Json.Pointer
  members : Members Json

namespace Node

def malformed (n : Node) (keyword : String) (expected : Expectation) : m α :=
  throw (.malformed n.path keyword expected)

/--
The value of a keyword that is present and not `null`.
-/
def keyword? (n : Node) (keyword : String) : Option Json :=
  (n.members.get? keyword).filter fun value => !value.isNull

/--
The value of a keyword in the form that `read?` understands.
-/
def read (n : Node) (read? : Json → Option α) (expected : Expectation) (keyword : String)
    : m (Option α) :=
  match n.keyword? keyword with
  | none => pure none
  | some value =>
    match read? value with
    | none => n.malformed keyword expected
    | some result => pure (some result)

def string (n : Node) (keyword : String) : m (Option String) :=
  n.read Json.toString? .string keyword

def boolean (n : Node) (keyword : String) : m (Option Bool) :=
  n.read Json.toBool? .boolean keyword

def number (n : Node) (keyword : String) : m (Option Json.Number) :=
  n.read Json.toNumber? .number keyword

def count (n : Node) (keyword : String) : m (Option UInt64) :=
  n.read Json.toCount? .count keyword

def values (n : Node) (keyword : String) : m (Option (List Json)) :=
  n.read Json.toArray? .array keyword

def strings (n : Node) (keyword : String) : m (Option (List String)) :=
  n.read Json.toStrings? .strings keyword

/--
An object whose values are arrays of strings.
-/
def stringLists? (value : Json) : Option (Members (List String)) :=
  value.toObject?.bind fun members =>
    members.mapM fun (name, value) => value.toStrings?.map (name, ·)

def stringLists (n : Node) (keyword : String) : m (Option (Members (List String))) :=
  n.read stringLists? .stringLists keyword

section Subschemas

variable (child : Json.Pointer → Json → m JsonSchema)

/--
Read a subschema, which has to be an object, at the given steps below the node.
-/
def subschema (n : Node) (keyword : String) (expected : Expectation) (steps : List String)
    (value : Json) : m JsonSchema :=
  match value with
  | .object _ => child (n.path ++ steps) value
  | _ => n.malformed keyword expected

def schema (n : Node) (keyword : String) : m (Option JsonSchema) :=
  match n.keyword? keyword with
  | none => pure none
  | some value => some <$> n.subschema child keyword .schema [keyword] value

def boolOrSchema (n : Node) (keyword : String) : m (Option (BoolOr JsonSchema)) :=
  match n.keyword? keyword with
  | none => pure none
  | some (.bool b) => pure (some (.bool b))
  | some value =>
    (some <| .schema ·) <$> n.subschema child keyword .boolOrSchema [keyword] value

def schemasFrom (n : Node) (keyword : String) (index : Nat) : List Json → m (List JsonSchema)
  | [] => pure []
  | value :: rest => do
    let schema ← n.subschema child keyword .schemas [keyword, toString index] value
    return schema :: (← schemasFrom n keyword (index + 1) rest)

def schemas (n : Node) (keyword : String) : m (Option (List JsonSchema)) :=
  match n.keyword? keyword with
  | none => pure none
  | some (.array items) => some <$> n.schemasFrom child keyword 0 items
  | some _ => n.malformed keyword .schemas

def namedSchemas (n : Node) (keyword : String)
    : List (String × Json) → m (List (String × JsonSchema))
  | [] => pure []
  | (name, value) :: rest => do
    let schema ← n.subschema child keyword .schemaMap [keyword, name] value
    return (name, schema) :: (← namedSchemas n keyword rest)

def schemaMap (n : Node) (keyword : String) : m (Option (List (String × JsonSchema))) :=
  match n.keyword? keyword with
  | none => pure none
  | some (.object members) => some <$> n.namedSchemas child keyword members
  | some _ => n.malformed keyword .schemaMap

end Subschemas

def annotations (n : Node) : m Annotations := do
  return {
    id := ← n.string "$id"
    dialect := ← n.string "$schema"
    comment := ← n.string "$comment"
    title := ← n.string "title"
    description := ← n.string "description"
    default := n.members.get? "default"
    examples := ← n.values "examples"
    readOnly := ← n.boolean "readOnly"
    writeOnly := ← n.boolean "writeOnly"
    deprecated := ← n.boolean "deprecated"
    enum := ← n.values "enum"
    const := n.members.get? "const"
  }

def numericKeywords (n : Node) : m NumericKeywords := do
  return {
    minimum := ← n.number "minimum"
    maximum := ← n.number "maximum"
    exclusiveMinimum := ← n.boolean "exclusiveMinimum"
    exclusiveMaximum := ← n.boolean "exclusiveMaximum"
    multipleOf := ← n.number "multipleOf"
  }

def format (n : Node) : m (Option Format) := do
  match ← n.string "format" with
  | none => return none
  | some name =>
    let format := Format.ofName name
    if let .custom name := format then notice (.unregisteredFormat n.path name)
    return some format

def stringKeywords (n : Node) : m StringKeywords := do
  return {
    format := ← n.format
    minLength := ← n.count "minLength"
    maxLength := ← n.count "maxLength"
    pattern := ← n.string "pattern"
  }

section Bodies

variable (child : Json.Pointer → Json → m JsonSchema)

def arrayKeywords (n : Node) : m (ArrayKeywords JsonSchema) := do
  return {
    prefixItems := ← n.schemas child "prefixItems"
    additionalItems := ← n.boolOrSchema child "additionalItems"
    unevaluatedItems := ← n.boolOrSchema child "unevaluatedItems"
    contains := ← n.schema child "contains"
    minContains := ← n.count "minContains"
    maxContains := ← n.count "maxContains"
    minItems := ← n.count "minItems"
    maxItems := ← n.count "maxItems"
    uniqueItems := ← n.boolean "uniqueItems"
  }

def objectKeywords (n : Node) : m (ObjectKeywords JsonSchema) := do
  return {
    additionalProperties := ← n.boolOrSchema child "additionalProperties"
    patternProperties := ← n.schemaMap child "patternProperties"
    unevaluatedProperties := ← n.boolOrSchema child "unevaluatedProperties"
    minProperties := ← n.count "minProperties"
    maxProperties := ← n.count "maxProperties"
    allOf := ← n.schemas child "allOf"
    anyOf := ← n.schemas child "anyOf"
    oneOf := ← n.schemas child "oneOf"
    negated := ← n.schema child "not"
    condition := ← n.schema child "if"
    consequent := ← n.schema child "then"
    alternative := ← n.schema child "else"
    propertyNames := ← n.schema child "propertyNames"
    dependentRequired := ← n.stringLists "dependentRequired"
    dependentSchemas := ← n.schemaMap child "dependentSchemas"
  }

/--
The body that one type name selects. Only the keywords of that type are read.
-/
def bodyOfKind (n : Node) : Kind → m (Body JsonSchema)
  | .null => pure .null
  | .boolean => pure .boolean
  | .integer => .integer <$> n.numericKeywords
  | .number => .number <$> n.numericKeywords
  | .string => .string <$> n.stringKeywords
  | .array => do
    let items ← n.boolOrSchema child "items"
    return .array items (← n.arrayKeywords child)
  | .object => do
    let required ← n.strings "required"
    let properties ← n.schemaMap child "properties"
    return .object properties (required.map dedup) (← n.objectKeywords child)
where
  /-- Keep the first occurrence of every name. -/
  dedup (names : List String) : List String :=
    names.foldl (fun kept name => if kept.contains name then kept else kept ++ [name]) []

/--
Read the names of a `type` array, which are known and differ from each other and from `kinds`.
-/
def kindsFrom (n : Node) (kinds : List Kind) : List Json → m (List Kind)
  | [] => pure kinds
  | value :: rest =>
    match value with
    | .string name =>
      match Kind.ofName? name with
      | none => n.malformed "type" .knownType
      | some kind =>
        if kinds.contains kind then
          n.malformed "type" .uniqueTypeNames
        else
          kindsFrom n (kinds ++ [kind]) rest
    | _ => n.malformed "type" .typeNames

def unionMembers (n : Node) : List Kind → m (List JsonSchema)
  | [] => pure []
  | kind :: rest => do
    let body ← n.bodyOfKind child kind
    return ⟨{}, body⟩ :: (← unionMembers n rest)

def body (n : Node) : m (Body JsonSchema) :=
  match n.keyword? "type" with
  | none => pure .untyped
  | some (.string name) =>
    match Kind.ofName? name with
    | none => n.malformed "type" .knownType
    | some kind => n.bodyOfKind child kind
  | some (.array names) => do
    let kinds ← n.kindsFrom [] names
    notice (.unionSchema n.path kinds)
    let members ← n.unionMembers child kinds
    match TwoOrMore.ofList? members with
    | none => throw (.smallUnion members.length)
    | some members => return .union members
  | some _ => n.malformed "type" .typeNames

/--
Read the schema at a node, with `child` as the reader of its subschemas.
-/
def toSchema (n : Node) : m JsonSchema := do
  let annotations ← n.annotations
  return ⟨annotations, ← n.body child⟩

end Bodies

end Node

/--
Read the schema that stands at `path` in a document. Its nesting depth is at most `depth`, so that a
value at depth `0` is a scalar and no schema.
-/
def read (depth : Nat) (path : Json.Pointer) (value : Json) : m JsonSchema :=
  match depth, value with
  | depth + 1, .object members => (Node.mk path members).toSchema (read depth)
  | _, _ => throw (.malformed path "(schema)" .object)

/--
Read the schema that stands at `path` in a document.
-/
def readAt (path : Json.Pointer) (value : Json) : m JsonSchema :=
  read value.depth path value

/--
Read a document and give notice of what is found.
-/
def ofJsonM (document : Json) : m JsonSchema :=
  readAt [] document

def ofJson (document : Json) : Except SchemaError JsonSchema :=
  ofJsonM document

/--
Read the text of a document.
-/
def parse (text : String) : Except SchemaError JsonSchema :=
  match Json.parse text with
  | .error error => .error (.json error)
  | .ok document => ofJson document

end JsonSchema

end SchemaBridge
