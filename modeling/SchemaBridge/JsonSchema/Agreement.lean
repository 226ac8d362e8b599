import SchemaBridge.JsonSchema.Basic

/-!
This module contains the comparison of schema trees. Property maps and required names compare
without order, lists with order, and JSON values by value. Main definition: `JsonSchema.agrees`.
-/

namespace SchemaBridge

namespace JsonSchema

/--
Both absent, or both present and related.
-/
def bothOr (related : α → β → Bool) : Option α → Option β → Bool
  | none, none => true
  | some x, some y => related x y
  | _, _ => false

def Annotations.agrees (a b : Annotations) : Bool :=
  a.id == b.id && a.dialect == b.dialect && a.comment == b.comment && a.title == b.title &&
    a.description == b.description && bothOr Json.agrees a.default b.default &&
    bothOr Json.itemsAgree a.examples b.examples && a.readOnly == b.readOnly &&
    a.writeOnly == b.writeOnly && a.deprecated == b.deprecated &&
    bothOr Json.itemsAgree a.enum b.enum && bothOr Json.agrees a.const b.const

def NumericKeywords.agrees (k l : NumericKeywords) : Bool :=
  bothOr Json.Number.agrees k.minimum l.minimum && bothOr Json.Number.agrees k.maximum l.maximum &&
    k.exclusiveMinimum == l.exclusiveMinimum && k.exclusiveMaximum == l.exclusiveMaximum &&
    bothOr Json.Number.agrees k.multipleOf l.multipleOf

/--
Equality of two lists of names as sets; neither repeats a name.
-/
def sameNames (xs ys : List String) : Bool :=
  xs.length == ys.length && xs.all ys.contains

/-!
In what follows each subschema on the left is given as the test for the subschemas it agrees with.
-/

variable {σ : Type}

def BoolOr.agreeWith : BoolOr (σ → Bool) → BoolOr σ → Bool
  | .bool b, .bool c => b == c
  | .schema test, .schema s => test s
  | _, _ => false

def listAgreesWith : List (σ → Bool) → List σ → Bool
  | [], [] => true
  | test :: tests, s :: rest => test s && listAgreesWith tests rest
  | _, _ => false

def applyTest (test : σ → Bool) (s : σ) : Bool := test s

def ArrayKeywords.agreeWith (k : ArrayKeywords (σ → Bool)) (l : ArrayKeywords σ) : Bool :=
  bothOr listAgreesWith k.prefixItems l.prefixItems &&
    bothOr BoolOr.agreeWith k.additionalItems l.additionalItems &&
    bothOr BoolOr.agreeWith k.unevaluatedItems l.unevaluatedItems &&
    bothOr applyTest k.contains l.contains &&
    k.minContains == l.minContains && k.maxContains == l.maxContains &&
    k.minItems == l.minItems && k.maxItems == l.maxItems && k.uniqueItems == l.uniqueItems

def ObjectKeywords.agreeWith (k : ObjectKeywords (σ → Bool)) (l : ObjectKeywords σ) : Bool :=
  bothOr BoolOr.agreeWith k.additionalProperties l.additionalProperties &&
    bothOr Members.agreeWith k.patternProperties l.patternProperties &&
    bothOr BoolOr.agreeWith k.unevaluatedProperties l.unevaluatedProperties &&
    k.minProperties == l.minProperties && k.maxProperties == l.maxProperties &&
    bothOr listAgreesWith k.allOf l.allOf && bothOr listAgreesWith k.anyOf l.anyOf &&
    bothOr listAgreesWith k.oneOf l.oneOf && bothOr applyTest k.negated l.negated &&
    bothOr applyTest k.condition l.condition && bothOr applyTest k.consequent l.consequent &&
    bothOr applyTest k.alternative l.alternative &&
    bothOr applyTest k.propertyNames l.propertyNames &&
    bothOr (fun lists others => (lists.mapValues (· == ·)).agreeWith others)
      k.dependentRequired l.dependentRequired &&
    bothOr Members.agreeWith k.dependentSchemas l.dependentSchemas

def Body.agreeWith : Body (σ → Bool) → Body σ → Bool
  | .untyped, .untyped => true
  | .null, .null => true
  | .boolean, .boolean => true
  | .integer k, .integer l => k.agrees l
  | .number k, .number l => k.agrees l
  | .string k, .string l => k == l
  | .array items k, .array others l => bothOr BoolOr.agreeWith items others && k.agreeWith l
  | .object properties required k, .object others names l =>
    bothOr Members.agreeWith properties others && bothOr sameNames required names && k.agreeWith l
  | .union members, .union others => listAgreesWith members.toList others.toList
  | _, _ => false

def agrees : JsonSchema → JsonSchema → Bool :=
  fold fun annotations body other =>
    annotations.agrees other.annotations && body.agreeWith other.body

end JsonSchema

end SchemaBridge
