import SchemaBridge.JsonSchema.Construct
import SchemaBridge.Notice

/-!
This module contains the conversion of Arrow schemas to JSON Schema trees. All widths of a kind of
type become that kind. The nullability of a column becomes a `null` member of its type, and columns
that are not nullable are required. Main definitions: `Arrow.DataType.toJsonSchema`,
`Arrow.Schema.toJsonSchema`.
-/

namespace SchemaBridge

namespace Arrow

variable {m : Type → Type} [Monad m] [MonadExceptOf SchemaError m] [MonadNotice m]

/--
Sort by type identifier; entries with the same one keep their order.
-/
def sortById {α : Type} (entries : List (Int8 × α)) : List (Int8 × α) :=
  entries.mergeSort fun entry other => entry.1 ≤ other.1

/--
Let a type include `null`: a union gets another member, any other type becomes a union.
-/
def foldNullable (base : JsonSchema) (nullable : Bool) : m JsonSchema :=
  if !nullable || base.isNullable then
    pure base
  else do
    notice (.foldingNullability base.typeName)
    match base with
    | ⟨annotations, .union members⟩ => return ⟨annotations, .union (members.push .null)⟩
    | base => return .plain (.union ⟨base, .null, []⟩)

/--
The properties and required names read from the columns before the current one.
-/
structure Columns where
  properties : Members JsonSchema := []
  required : List String := []

/--
The object with the given columns. No columns at all leave its properties undeclared.
-/
def Columns.toJsonSchema (columns : Columns) : JsonSchema :=
  let properties := if columns.properties.isEmpty then none else some columns.properties
  let required := if columns.required.isEmpty then none else some columns.required
  .plain (.object properties required {})

def Columns.add (columns : Columns) (name : String) (value : JsonSchema) (nullable : Bool)
    : Columns where
  properties := columns.properties ++ [(name, value)]
  required := if nullable then columns.required else columns.required ++ [name]

mutual

def DataType.toJsonSchemaM : DataType → m JsonSchema
  | .null => pure .null
  | .boolean => pure .boolean
  | .integer _ => pure .integer
  | .float _ => pure .number
  | .text _ => pure .string
  | .list ⟨_, type, _, _⟩ => JsonSchema.array <$> type.toJsonSchemaM
  | .largeList ⟨_, type, _, _⟩ => JsonSchema.array <$> type.toJsonSchemaM
  | .struct fields => Columns.toJsonSchema <$> addColumns {} fields
  | .union members .dense => do
    let converted ← (sortById (memberConversions members)).mapM fun entry => entry.2
    match JsonSchema.TwoOrMore.ofList? converted with
    | none => throw (.smallUnion converted.length)
    | some members => return .plain (.union members)
  | type => throw (.unsupported (.arrowType type))

/--
The columns of the given fields, after those of `columns`. No two may have one name.
-/
def addColumns (columns : Columns) : List (FieldOf DataType) → m Columns
  | [] => pure columns
  | ⟨name, type, nullable, _⟩ :: rest => do
    if columns.properties.contains name then throw (.duplicateField name)
    let value ← foldNullable (← type.toJsonSchemaM) nullable
    addColumns (columns.add name value nullable) rest

/--
The conversions of the members of a union, which are to run in the order of their type identifiers.
-/
def memberConversions : List (Int8 × FieldOf DataType) → List (Int8 × m JsonSchema)
  | [] => []
  | (id, ⟨_, type, _, _⟩) :: rest => (id, type.toJsonSchemaM) :: memberConversions rest

end

def DataType.toJsonSchema (type : DataType) : Except SchemaError JsonSchema :=
  type.toJsonSchemaM

/--
A single field with the name of the wrapping field gives its type, any other fields give an object.
-/
def Schema.toJsonSchemaM (s : Schema) : m JsonSchema := do
  notice (.toDescriptive s.fields.length)
  match s.fields with
  | [⟨name, type, nullable, _⟩] =>
    if name = rootField then
      notice .unwrappingRoot
      foldNullable (← type.toJsonSchemaM) nullable
    else
      Columns.toJsonSchema <$> addColumns {} s.fields
  | fields => Columns.toJsonSchema <$> addColumns {} fields

def Schema.toJsonSchema (s : Schema) : Except SchemaError JsonSchema :=
  s.toJsonSchemaM

end Arrow

end SchemaBridge
