import SchemaBridge.JsonSchema.Basic

/-!
This module contains the writing of schema trees as JSON Schema documents: first `type`, then the
annotations, then the keywords of the type. The members of a union are written into the one object
of the union; their own annotations have no place there. Main definition: `JsonSchema.toJson`.
-/

namespace SchemaBridge

namespace JsonSchema

/--
The entry for a keyword, if it is present.
-/
def entry (keyword : String) (value : Option Json) : List (String × Json) :=
  match value with
  | none => []
  | some value => [(keyword, value)]

def stringsToJson (names : List String) : Json :=
  .array (names.map Json.string)

def Annotations.entries (a : Annotations) : List (String × Json) :=
  entry "$id" (a.id.map .string) ++
  entry "$schema" (a.dialect.map .string) ++
  entry "$comment" (a.comment.map .string) ++
  entry "title" (a.title.map .string) ++
  entry "description" (a.description.map .string) ++
  entry "default" a.default ++
  entry "examples" (a.examples.map .array) ++
  entry "readOnly" (a.readOnly.map .bool) ++
  entry "writeOnly" (a.writeOnly.map .bool) ++
  entry "deprecated" (a.deprecated.map .bool) ++
  entry "enum" (a.enum.map .array) ++
  entry "const" a.const

def NumericKeywords.entries (k : NumericKeywords) : List (String × Json) :=
  entry "minimum" (k.minimum.map .number) ++
  entry "maximum" (k.maximum.map .number) ++
  entry "exclusiveMinimum" (k.exclusiveMinimum.map .bool) ++
  entry "exclusiveMaximum" (k.exclusiveMaximum.map .bool) ++
  entry "multipleOf" (k.multipleOf.map .number)

def StringKeywords.entries (k : StringKeywords) : List (String × Json) :=
  entry "format" (k.format.map fun format => .string format.name) ++
  entry "minLength" (k.minLength.map .ofCount) ++
  entry "maxLength" (k.maxLength.map .ofCount) ++
  entry "pattern" (k.pattern.map .string)

/-!
The subschemas of the following keywords are given as the documents written for them.
-/

def BoolOr.toJson : BoolOr Json → Json
  | .bool b => .bool b
  | .schema document => document

def arrayEntries (items : Option (BoolOr Json)) (k : ArrayKeywords Json) : List (String × Json) :=
  entry "items" (items.map BoolOr.toJson) ++
  entry "prefixItems" (k.prefixItems.map .array) ++
  entry "additionalItems" (k.additionalItems.map BoolOr.toJson) ++
  entry "unevaluatedItems" (k.unevaluatedItems.map BoolOr.toJson) ++
  entry "contains" k.contains ++
  entry "minContains" (k.minContains.map .ofCount) ++
  entry "maxContains" (k.maxContains.map .ofCount) ++
  entry "minItems" (k.minItems.map .ofCount) ++
  entry "maxItems" (k.maxItems.map .ofCount) ++
  entry "uniqueItems" (k.uniqueItems.map .bool)

def objectEntries (properties : Option (List (String × Json))) (required : Option (List String))
    (k : ObjectKeywords Json) : List (String × Json) :=
  entry "properties" (properties.map .object) ++
  entry "additionalProperties" (k.additionalProperties.map BoolOr.toJson) ++
  entry "patternProperties" (k.patternProperties.map .object) ++
  entry "unevaluatedProperties" (k.unevaluatedProperties.map BoolOr.toJson) ++
  entry "required" (required.map stringsToJson) ++
  entry "minProperties" (k.minProperties.map .ofCount) ++
  entry "maxProperties" (k.maxProperties.map .ofCount) ++
  entry "allOf" (k.allOf.map .array) ++
  entry "anyOf" (k.anyOf.map .array) ++
  entry "oneOf" (k.oneOf.map .array) ++
  entry "not" k.negated ++
  entry "if" k.condition ++
  entry "then" k.consequent ++
  entry "else" k.alternative ++
  entry "propertyNames" k.propertyNames ++
  entry "dependentRequired"
    (k.dependentRequired.map fun lists => .object (lists.mapValues stringsToJson)) ++
  entry "dependentSchemas" (k.dependentSchemas.map .object)

/--
A schema in its written form: what it is as a document, and what it contributes to a union.
-/
structure Printed where
  typeName : String
  keywords : List (String × Json)
  document : Json

namespace Printed

/--
The value of the `type` keyword.
-/
def typeEntry : Body Printed → List (String × Json)
  | .untyped => []
  | .union members => [("type", stringsToJson (members.toList.map typeName))]
  | body => [("type", .string body.typeName)]

/--
The keywords of a body; a union has those of all its members.
-/
def bodyEntries : Body Printed → List (String × Json)
  | .untyped | .null | .boolean => []
  | .integer k => k.entries
  | .number k => k.entries
  | .string k => k.entries
  | .array items k => arrayEntries (items.map (BoolOr.map document)) (k.map document)
  | .object properties required k =>
    objectEntries (properties.map (Members.mapValues document)) required (k.map document)
  | .union members => members.toList.flatMap keywords

/--
Write a schema whose subschemas have been written. Of two union members that set the same keyword
the later one wins.
-/
def ofBody (annotations : Annotations) (body : Body Printed) : Printed where
  typeName := body.typeName
  keywords := bodyEntries body
  document := .object (Members.ofList (typeEntry body ++ annotations.entries ++ bodyEntries body))

end Printed

def printed : JsonSchema → Printed :=
  fold Printed.ofBody

def toJson (s : JsonSchema) : Json :=
  s.printed.document

theorem printed_eq (s : JsonSchema)
    : s.printed = Printed.ofBody s.annotations (s.body.map printed) := by
  unfold printed
  exact fold_eq Printed.ofBody s

end JsonSchema

end SchemaBridge
