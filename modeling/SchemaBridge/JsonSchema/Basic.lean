import SchemaBridge.JsonSchema.Annotations
import SchemaBridge.JsonSchema.Format

/-!
This module contains the tree that a JSON Schema document describes. A schema has annotations and a
body; the body depends on the `type` keyword and holds the keywords of that type. Main definitions:
`JsonSchema`, its bodies `JsonSchema.Body` over an arbitrary type of subschemas, and `fold`, the
recursion over all subschemas.
-/

namespace SchemaBridge

namespace JsonSchema

/--
The names that the `type` keyword knows.
-/
inductive Kind where
  | null
  | boolean
  | integer
  | number
  | string
  | array
  | object
  deriving DecidableEq, Repr

namespace Kind

def name : Kind → String
  | .null => "null"
  | .boolean => "boolean"
  | .integer => "integer"
  | .number => "number"
  | .string => "string"
  | .array => "array"
  | .object => "object"

def all : List Kind :=
  [.null, .boolean, .integer, .number, .string, .array, .object]

def ofName? (name : String) : Option Kind :=
  all.find? fun kind => kind.name == name

theorem ofName?_name (kind : Kind) : ofName? kind.name = some kind := by
  cases kind <;> decide

theorem name_eq_of_ofName? {name : String} {kind : Kind} (h : ofName? name = some kind)
    : kind.name = name := by
  simpa using List.find?_some h

end Kind

/--
The value of a keyword that takes a boolean or a schema.
-/
inductive BoolOr (σ : Type) where
  | bool (value : Bool)
  | schema (schema : σ)
  deriving Repr

/--
A list of at least two.
-/
structure TwoOrMore (σ : Type) where
  first : σ
  second : σ
  others : List σ
  deriving Repr

/--
The keywords of integers and numbers.
-/
structure NumericKeywords where
  minimum : Option Json.Number := none
  maximum : Option Json.Number := none
  exclusiveMinimum : Option Bool := none
  exclusiveMaximum : Option Bool := none
  multipleOf : Option Json.Number := none
  deriving DecidableEq, Repr

structure StringKeywords where
  format : Option Format := none
  minLength : Option UInt64 := none
  maxLength : Option UInt64 := none
  pattern : Option String := none
  deriving DecidableEq, Repr

/--
The keywords of arrays other than `items`.
-/
structure ArrayKeywords (σ : Type) where
  prefixItems : Option (List σ) := none
  additionalItems : Option (BoolOr σ) := none
  unevaluatedItems : Option (BoolOr σ) := none
  contains : Option σ := none
  minContains : Option UInt64 := none
  maxContains : Option UInt64 := none
  minItems : Option UInt64 := none
  maxItems : Option UInt64 := none
  uniqueItems : Option Bool := none

/--
The keywords of objects other than `properties` and `required`.
-/
structure ObjectKeywords (σ : Type) where
  additionalProperties : Option (BoolOr σ) := none
  patternProperties : Option (List (String × σ)) := none
  unevaluatedProperties : Option (BoolOr σ) := none
  minProperties : Option UInt64 := none
  maxProperties : Option UInt64 := none
  allOf : Option (List σ) := none
  anyOf : Option (List σ) := none
  oneOf : Option (List σ) := none
  negated : Option σ := none
  condition : Option σ := none
  consequent : Option σ := none
  alternative : Option σ := none
  propertyNames : Option σ := none
  dependentRequired : Option (Members (List String)) := none
  dependentSchemas : Option (List (String × σ)) := none

/--
What the `type` keyword makes of a schema, with subschemas of type `σ`. An object with
`properties = some []` declares that it has none, one with `properties = none` declares nothing.
-/
inductive Body (σ : Type) where
  | untyped
  | null
  | boolean
  | integer (keywords : NumericKeywords)
  | number (keywords : NumericKeywords)
  | string (keywords : StringKeywords)
  | array (items : Option (BoolOr σ)) (keywords : ArrayKeywords σ)
  | object (properties : Option (List (String × σ))) (required : Option (List String))
      (keywords : ObjectKeywords σ)
  | union (members : TwoOrMore σ)

end JsonSchema

/--
A JSON Schema document as a tree.
-/
structure JsonSchema where
  annotations : JsonSchema.Annotations
  body : JsonSchema.Body JsonSchema

namespace JsonSchema

variable {σ τ : Type}

namespace BoolOr

def map (f : σ → τ) : BoolOr σ → BoolOr τ
  | .bool b => .bool b
  | .schema s => .schema (f s)

def schema? : BoolOr σ → Option σ
  | .bool _ => none
  | .schema s => some s

end BoolOr

namespace TwoOrMore

def toList (xs : TwoOrMore σ) : List σ :=
  xs.first :: xs.second :: xs.others

def ofList? : List σ → Option (TwoOrMore σ)
  | first :: second :: others => some ⟨first, second, others⟩
  | _ => none

def map (f : σ → τ) (xs : TwoOrMore σ) : TwoOrMore τ :=
  ⟨f xs.first, f xs.second, xs.others.map f⟩

def push (xs : TwoOrMore σ) (x : σ) : TwoOrMore σ :=
  ⟨xs.first, xs.second, xs.others ++ [x]⟩

@[simp]
theorem ofList?_toList (xs : TwoOrMore σ) : ofList? xs.toList = some xs := rfl

@[simp]
theorem toList_map (f : σ → τ) (xs : TwoOrMore σ) : (xs.map f).toList = xs.toList.map f := rfl

@[simp]
theorem toList_push (xs : TwoOrMore σ) (x : σ) : (xs.push x).toList = xs.toList ++ [x] := rfl

theorem ofList?_eq_some_iff {xs : List σ} {ys : TwoOrMore σ}
    : ofList? xs = some ys ↔ xs = ys.toList := by
  match xs with
  | [] => simp [ofList?, toList]
  | [_] => simp [ofList?, toList]
  | first :: second :: others =>
    obtain ⟨_, _, _⟩ := ys
    simp [ofList?, toList]

theorem ofList?_eq_none_iff {xs : List σ} : ofList? xs = none ↔ xs.length < 2 := by
  match xs with
  | [] => simp [ofList?]
  | [_] => simp [ofList?]
  | _ :: _ :: _ => simp [ofList?]

end TwoOrMore

def ArrayKeywords.map (f : σ → τ) (k : ArrayKeywords σ) : ArrayKeywords τ where
  prefixItems := k.prefixItems.map (List.map f)
  additionalItems := k.additionalItems.map (BoolOr.map f)
  unevaluatedItems := k.unevaluatedItems.map (BoolOr.map f)
  contains := k.contains.map f
  minContains := k.minContains
  maxContains := k.maxContains
  minItems := k.minItems
  maxItems := k.maxItems
  uniqueItems := k.uniqueItems

def ObjectKeywords.map (f : σ → τ) (k : ObjectKeywords σ) : ObjectKeywords τ where
  additionalProperties := k.additionalProperties.map (BoolOr.map f)
  patternProperties := k.patternProperties.map (Members.mapValues f)
  unevaluatedProperties := k.unevaluatedProperties.map (BoolOr.map f)
  minProperties := k.minProperties
  maxProperties := k.maxProperties
  allOf := k.allOf.map (List.map f)
  anyOf := k.anyOf.map (List.map f)
  oneOf := k.oneOf.map (List.map f)
  negated := k.negated.map f
  condition := k.condition.map f
  consequent := k.consequent.map f
  alternative := k.alternative.map f
  propertyNames := k.propertyNames.map f
  dependentRequired := k.dependentRequired
  dependentSchemas := k.dependentSchemas.map (Members.mapValues f)

namespace Body

/--
Apply `f` to every subschema.
-/
def map (f : σ → τ) : Body σ → Body τ
  | .untyped => .untyped
  | .null => .null
  | .boolean => .boolean
  | .integer k => .integer k
  | .number k => .number k
  | .string k => .string k
  | .array items k => .array (items.map (BoolOr.map f)) (k.map f)
  | .object properties required k =>
    .object (properties.map (Members.mapValues f)) required (k.map f)
  | .union members => .union (members.map f)

/--
The name of the body as the `type` keyword spells it, or `untyped` or `union`.
-/
def typeName : Body σ → String
  | .untyped => "untyped"
  | .null => "null"
  | .boolean => "boolean"
  | .integer _ => "integer"
  | .number _ => "number"
  | .string _ => "string"
  | .array _ _ => "array"
  | .object _ _ _ => "object"
  | .union _ => "union"

def isNull : Body σ → Bool
  | .null => true
  | _ => false

@[simp]
theorem typeName_map (f : σ → τ) (b : Body σ) : (b.map f).typeName = b.typeName := by
  cases b <;> rfl

end Body

section Fold

variable {α : Type} (f : Annotations → Body α → α)

mutual

/--
Compute a value of every schema of a tree from its annotations and the values of its subschemas.
-/
def fold : JsonSchema → α
  | ⟨annotations, body⟩ => f annotations (foldBody body)

def foldBody : Body JsonSchema → Body α
  | .untyped => .untyped
  | .null => .null
  | .boolean => .boolean
  | .integer k => .integer k
  | .number k => .number k
  | .string k => .string k
  | .array items k => .array (foldSlot items) (foldArray k)
  | .object properties required k => .object (foldMembers? properties) required (foldObject k)
  | .union members => .union (foldTwoOrMore members)

def foldTwoOrMore : TwoOrMore JsonSchema → TwoOrMore α
  | ⟨first, second, others⟩ => ⟨fold first, fold second, foldList others⟩

def foldArray : ArrayKeywords JsonSchema → ArrayKeywords α
  | ⟨prefixItems, additionalItems, unevaluatedItems, contains, minContains, maxContains, minItems,
      maxItems, uniqueItems⟩ =>
    ⟨foldList? prefixItems, foldSlot additionalItems, foldSlot unevaluatedItems, fold? contains,
      minContains, maxContains, minItems, maxItems, uniqueItems⟩

def foldObject : ObjectKeywords JsonSchema → ObjectKeywords α
  | ⟨additionalProperties, patternProperties, unevaluatedProperties, minProperties, maxProperties,
      allOf, anyOf, oneOf, negated, condition, consequent, alternative, propertyNames,
      dependentRequired, dependentSchemas⟩ =>
    ⟨foldSlot additionalProperties, foldMembers? patternProperties, foldSlot unevaluatedProperties,
      minProperties, maxProperties, foldList? allOf, foldList? anyOf, foldList? oneOf,
      fold? negated, fold? condition, fold? consequent, fold? alternative, fold? propertyNames,
      dependentRequired, foldMembers? dependentSchemas⟩

def fold? : Option JsonSchema → Option α
  | none => none
  | some s => some (fold s)

def foldSlot : Option (BoolOr JsonSchema) → Option (BoolOr α)
  | none => none
  | some (.bool b) => some (.bool b)
  | some (.schema s) => some (.schema (fold s))

def foldList? : Option (List JsonSchema) → Option (List α)
  | none => none
  | some list => some (foldList list)

def foldList : List JsonSchema → List α
  | [] => []
  | s :: rest => fold s :: foldList rest

def foldMembers? : Option (List (String × JsonSchema)) → Option (List (String × α))
  | none => none
  | some members => some (foldMembers members)

def foldMembers : List (String × JsonSchema) → List (String × α)
  | [] => []
  | (name, s) :: rest => (name, fold s) :: foldMembers rest

end

theorem foldList_eq (list : List JsonSchema) : foldList f list = list.map (fold f) := by
  induction list with
  | nil => simp [foldList]
  | cons s rest ih => simp [foldList, ih]

theorem foldMembers_eq (members : List (String × JsonSchema))
    : foldMembers f members = Members.mapValues (fold f) members := by
  induction members with
  | nil => simp [foldMembers, Members.mapValues]
  | cons s rest ih => simp_all [foldMembers, Members.mapValues]

theorem fold?_eq (s : Option JsonSchema) : fold? f s = s.map (fold f) := by
  cases s <;> simp [fold?]

theorem foldSlot_eq (slot : Option (BoolOr JsonSchema))
    : foldSlot f slot = slot.map (BoolOr.map (fold f)) := by
  match slot with
  | none => simp [foldSlot]
  | some (.bool _) => simp [foldSlot, BoolOr.map]
  | some (.schema _) => simp [foldSlot, BoolOr.map]

theorem foldList?_eq (list : Option (List JsonSchema))
    : foldList? f list = list.map (List.map (fold f)) := by
  cases list <;> simp [foldList?, foldList_eq]

theorem foldMembers?_eq (members : Option (List (String × JsonSchema)))
    : foldMembers? f members = members.map (Members.mapValues (fold f)) := by
  cases members <;> simp [foldMembers?, foldMembers_eq]

theorem foldArray_eq (k : ArrayKeywords JsonSchema) : foldArray f k = k.map (fold f) := by
  cases k
  simp [foldArray, ArrayKeywords.map, foldList?_eq, foldSlot_eq, fold?_eq]

theorem foldObject_eq (k : ObjectKeywords JsonSchema) : foldObject f k = k.map (fold f) := by
  cases k
  simp [foldObject, ObjectKeywords.map, foldList?_eq, foldSlot_eq, fold?_eq, foldMembers?_eq]

theorem foldBody_eq (b : Body JsonSchema) : foldBody f b = b.map (fold f) := by
  cases b with
  | array items k => simp [foldBody, Body.map, foldSlot_eq, foldArray_eq]
  | object properties required k => simp [foldBody, Body.map, foldMembers?_eq, foldObject_eq]
  | union members =>
    cases members
    simp [foldBody, foldTwoOrMore, Body.map, TwoOrMore.map, foldList_eq]
  | _ => simp [foldBody, Body.map]

/--
A fold applies its step to the folded subschemas.
-/
theorem fold_eq (s : JsonSchema) : fold f s = f s.annotations (s.body.map (fold f)) := by
  cases s
  simp [fold, foldBody_eq]

end Fold

end JsonSchema

end SchemaBridge
