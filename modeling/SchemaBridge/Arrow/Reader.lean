import SchemaBridge.Arrow.Names
import SchemaBridge.Reading.Text
import SchemaBridge.Reading.Value

/-!
This module contains the reading of Arrow schemas and types from their JSON form, out of values and
out of texts.
-/

namespace SchemaBridge

namespace Arrow

open Reading

variable {m : Type → Type} [Source m]

def readTimeUnit : m TimeUnit :=
  Source.choice (unitVariants TimeUnit.name TimeUnit.all)

def readIntervalUnit : m IntervalUnit :=
  Source.choice (unitVariants IntervalUnit.name IntervalUnit.all)

def readUnionMode : m UnionMode :=
  Source.choice (unitVariants UnionMode.name UnionMode.all)

def readInt8 : m Int8 := do
  return Int8.ofInt (← Source.integer .int8)

def readInt32 : m Int32 := do
  return Int32.ofInt (← Source.integer .int32)

def readUInt8 : m UInt8 := do
  return UInt8.ofNat (← Source.integer .uint8).toNat

def readMetadata : m (Members String) :=
  Source.entries Source.string

/--
What has been read of a field.
-/
structure PartialField where
  name : Option String := none
  dataType : Option DataType := none
  nullable : Option Bool := none
  dictId : Option Int64 := none
  dictIsOrdered : Option Bool := none
  metadata : Option (Members String) := none

def PartialField.finish (p : PartialField) : Except Cause Field := do
  return {
    name := ← present "name" p.name
    dataType := ← present "data_type" p.dataType
    nullable := ← present "nullable" p.nullable
    attributes := {
      dictId := ← present "dict_id" p.dictId
      dictIsOrdered := ← present "dict_is_ordered" p.dictIsOrdered
      metadata := ← present "metadata" p.metadata
    }
  }

def fieldForm (type : m DataType) : RecordForm m PartialField Field where
  name := "Field"
  members :=
    [⟨"name", (·.name.isSome), fun p => do return { p with name := some (← Source.string) }⟩,
      ⟨"data_type", (·.dataType.isSome), fun p => do return { p with dataType := some (← type) }⟩,
      ⟨"nullable", (·.nullable.isSome), fun p => do
        return { p with nullable := some (← Source.boolean) }⟩,
      ⟨"dict_id", (·.dictId.isSome), fun p => do
        return { p with dictId := some (Int64.ofInt (← Source.integer .int64)) }⟩,
      ⟨"dict_is_ordered", (·.dictIsOrdered.isSome), fun p => do
        return { p with dictIsOrdered := some (← Source.boolean) }⟩,
      ⟨"metadata", (·.metadata.isSome), fun p => do
        return { p with metadata := some (← readMetadata) }⟩]
  array := .whole
  start := {}
  finish := PartialField.finish

/--
The types under their names. `type` and `field` read the types and fields inside a type.
-/
def typeVariants (type : m DataType) (field : m Field) : List (String × Variant m DataType) :=
  let pair (name : String) {β γ : Type} (first : m β) (second : m γ) (combine : β → γ → DataType)
      : String × Variant m DataType :=
    (name, .pair do
      let (x, y) ← Source.pair (.variant ("DataType::" ++ name)) first second
      return combine x y)
  [("Null", .unit .null), ("Boolean", .unit .boolean)] ++
  unitVariants (fun type => type.name) (IntegerType.all.map DataType.integer) ++
  unitVariants (fun type => type.name) (FloatType.all.map DataType.float) ++
  [pair "Timestamp" readTimeUnit (Source.optional Source.string) .timestamp,
    ("Date32", .unit .date32),
    ("Date64", .unit .date64),
    ("Time32", .single (.time32 <$> readTimeUnit)),
    ("Time64", .single (.time64 <$> readTimeUnit)),
    ("Duration", .single (.duration <$> readTimeUnit)),
    ("Interval", .single (.interval <$> readIntervalUnit)),
    ("Binary", .unit .binary),
    ("FixedSizeBinary", .single (.fixedSizeBinary <$> readInt32)),
    ("LargeBinary", .unit .largeBinary),
    ("BinaryView", .unit .binaryView),
    ("Utf8", .unit (.text .utf8)),
    ("LargeUtf8", .unit (.text .largeUtf8)),
    ("Utf8View", .unit (.text .utf8View)),
    ("List", .single (.list <$> field)),
    ("ListView", .single (.listView <$> field)),
    pair "FixedSizeList" field readInt32 .fixedSizeList,
    ("LargeList", .single (.largeList <$> field)),
    ("LargeListView", .single (.largeListView <$> field)),
    ("Struct", .single (.struct <$> Source.sequence field)),
    pair "Union" (Source.sequence (Source.pair .tuple readInt8 field)) readUnionMode .union,
    pair "Dictionary" type type .dictionary,
    pair "Decimal128" readUInt8 readInt8 .decimal128,
    pair "Decimal256" readUInt8 readInt8 .decimal256,
    pair "Map" field Source.boolean .map,
    pair "RunEndEncoded" field field .runEndEncoded]

/--
Read a type in which types enclose each other at most `nesting` deep.
-/
def readDataType (nesting : Nat) : m DataType :=
  match nesting with
  | 0 => Source.tooDeep
  | nesting + 1 =>
    let type := readDataType nesting
    Source.choice (typeVariants type (Source.record (fieldForm type)))

/--
What has been read of a schema.
-/
structure PartialSchema where
  fields : Option (List Field) := none
  metadata : Option (Members String) := none

def schemaForm (nesting : Nat) : RecordForm m PartialSchema Schema where
  name := "Schema"
  members :=
    [⟨"fields", (·.fields.isSome), fun p => do
        let field := Source.record (fieldForm (readDataType nesting))
        return { p with fields := some (← Source.sequence field) }⟩,
      ⟨"metadata", (·.metadata.isSome), fun p => do
        return { p with metadata := some (← readMetadata) }⟩]
  array := .whole
  start := {}
  finish p := do
    return {
      fields := ← present "fields" p.fields
      metadata := ← present "metadata" p.metadata
    }

def DataType.ofJson (value : Json) : Except Error DataType :=
  readDataType (m := ValueReader) (value.depth + 1) value

def Schema.ofJson (value : Json) : Except Error Schema :=
  Source.record (m := ValueReader) (schemaForm value.depth) value

/--
Read the schema at the front of a text.
-/
def Schema.parse (text : String) : Except Error Schema :=
  TextReader.run (Source.record (schemaForm Json.nestingLimit)) text

end Arrow

end SchemaBridge
