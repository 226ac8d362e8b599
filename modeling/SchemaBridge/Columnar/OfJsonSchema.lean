import SchemaBridge.JsonSchema.Construct
import SchemaBridge.Notice

/-!
This module contains the conversion of JSON Schema trees to Arrow. A field is nullable if its type
is nullable, or if it is a property that is not required; all keywords that do not shape the data
are dropped. Main definitions: `JsonSchema.toDataType`, `JsonSchema.toColumnar`.
-/

namespace SchemaBridge

namespace JsonSchema

open Arrow (DataType FieldOf Field rootField itemField)

variable {m : Type → Type} [Monad m] [MonadExceptOf SchemaError m] [MonadNotice m]

/--
How many members the 8-bit type identifiers of a union can tell apart.
-/
def unionLimit : Nat := 128

mutual

def toDataTypeM : JsonSchema → m DataType
  | ⟨_, .untyped⟩ => throw (.unsupported .untyped)
  | ⟨_, .null⟩ => pure .null
  | ⟨_, .boolean⟩ => pure .boolean
  | ⟨_, .integer _⟩ => pure (.integer .int64)
  | ⟨_, .number _⟩ => pure (.float .float64)
  | ⟨_, .string _⟩ => pure (.text .utf8)
  | ⟨_, .array (some (.schema item)) _⟩ => do
    let type ← toDataTypeM item
    return .list ⟨itemField, type, item.isNullable, {}⟩
  | ⟨_, .array _ _⟩ => throw (.unsupported .arrayWithoutItems)
  | ⟨_, .object none _ _⟩ => pure (.struct [])
  | ⟨_, .object (some properties) required _⟩ => .struct <$> propertyFields required properties
  | ⟨_, .union ⟨first, second, others⟩⟩ =>
    match TwoOrMore.nullableSide? ⟨first, second, others⟩ with
    | some .first => toDataTypeM first
    | some .second => toDataTypeM second
    | none => do
      let total := others.length + 2
      let field ← toDataTypeM first
      let next ← toDataTypeM second
      let rest ← memberFields total 2 others
      return .union
        ((0, ⟨first.typeName, field, first.isNullable, {}⟩) ::
          (1, ⟨second.typeName, next, second.isNullable, {}⟩) :: rest)
        .dense

/--
The fields of the properties of an object whose `required` keyword is `required`.
-/
def propertyFields (required : Option (List String))
    : List (String × JsonSchema) → m (List (FieldOf DataType))
  | [] => pure []
  | (name, value) :: rest => do
    let type ← toDataTypeM value
    let field := ⟨name, type, !requires required name || value.isNullable, {}⟩
    return field :: (← propertyFields required rest)

/--
The fields of union members from the place `ordinal` on, in a union of `total` members.
-/
def memberFields (total ordinal : Nat) : List JsonSchema → m (List (Int8 × FieldOf DataType))
  | [] => pure []
  | member :: rest => do
    if unionLimit ≤ ordinal then throw (.unsupported (.largeUnion total))
    let type ← toDataTypeM member
    let field := ⟨member.typeName, type, member.isNullable, {}⟩
    return (Int8.ofNat ordinal, field) :: (← memberFields total (ordinal + 1) rest)

end

def toDataType (s : JsonSchema) : Except SchemaError DataType :=
  s.toDataTypeM

/--
Whether the fields of an object could be mistaken for a wrapped schema.
-/
def looksWrapped (properties : List (String × JsonSchema)) : Bool :=
  match properties with
  | [(name, _)] => name == rootField
  | _ => false

/--
The properties of an object become the fields of the schema. Any other schema is wrapped in a field
of its own, and so is an object whose only property has the name of that field.
-/
def toColumnarM (s : JsonSchema) : m Arrow.Schema := do
  notice (.toColumnar s.typeName)
  match s.body with
  | .object (some properties) required _ =>
    if looksWrapped properties then wrapped s else return ⟨← propertyFields required properties, []⟩
  | _ => wrapped s
where
  wrapped (s : JsonSchema) : m Arrow.Schema := do
    return ⟨[⟨rootField, ← s.toDataTypeM, s.isNullable, {}⟩], []⟩

def toColumnar (s : JsonSchema) : Except SchemaError Arrow.Schema :=
  s.toColumnarM

end JsonSchema

end SchemaBridge
