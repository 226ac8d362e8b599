import SchemaBridge.Arrow.Display
import SchemaBridge.Json.Fault
import SchemaBridge.Json.Pointer
import SchemaBridge.JsonSchema.Basic

/-!
This module contains the causes for which schemas are refused, and their messages.
-/

namespace SchemaBridge

/--
What a keyword, or a schema as a whole, has to be.
-/
inductive Expectation where
  | string
  | boolean
  | number
  | count
  | array
  | strings
  | stringLists
  | schema
  | boolOrSchema
  | schemas
  | schemaMap
  | knownType
  | typeNames
  | uniqueTypeNames
  | object
  deriving DecidableEq, Repr

def Expectation.text : Expectation → String
  | .string => "a string"
  | .boolean => "a boolean"
  | .number => "a number"
  | .count => "a non-negative integer"
  | .array => "an array"
  | .strings => "an array of strings"
  | .stringLists => "a mapping of names to arrays of strings"
  | .schema => "a schema object"
  | .boolOrSchema => "a boolean or a schema object"
  | .schemas => "an array of schema objects"
  | .schemaMap => "a mapping of names to schema objects"
  | .knownType => "one of: " ++ ", ".intercalate (JsonSchema.Kind.all.map JsonSchema.Kind.name)
  | .typeNames => "a type name or an array of type names"
  | .uniqueTypeNames => "an array of unique type names"
  | .object => "a JSON object"

/--
What has no counterpart on the other side of a conversion.
-/
inductive Unsupported where
  | untyped
  | arrayWithoutItems
  | largeUnion (members : Nat)
  | arrowType (type : Arrow.DataType)

def Unsupported.text : Unsupported → String
  | .untyped => "untyped schema (no `type` keyword)"
  | .arrayWithoutItems => "array without an `items` schema"
  | .largeUnion members => "union with " ++ toString members ++ " members"
  | .arrowType type => "arrow type " ++ type.display

inductive SchemaError where
  /-- A keyword of the schema at `path` does not have the expected shape. -/
  | malformed (path : Json.Pointer) (keyword : String) (expected : Expectation)
  | smallUnion (members : Nat)
  | duplicateField (name : String)
  | unsupported (what : Unsupported)
  | keyCollision (key : String)
  | json (error : Json.ParseError)

namespace SchemaError

/--
The text of a path in messages; the whole document is `/`.
-/
def pathText (path : Json.Pointer) : String :=
  if path.isEmpty then "/" else path.text

def message : SchemaError → String
  | .malformed path keyword expected =>
    "malformed schema at `" ++ pathText path ++ "`: `" ++ keyword ++ "` must be " ++ expected.text
  | .smallUnion members =>
    "invalid schema: a union needs at least two member types, got " ++ toString members
  | .duplicateField name => "invalid schema: duplicate field name `" ++ name ++ "`"
  | .unsupported what => "unsupported type: " ++ what.text
  | .keyCollision key => "flattened key `" ++ key ++ "` is produced by more than one property"
  | .json error => "invalid JSON: " ++ error.message

end SchemaError

end SchemaBridge
