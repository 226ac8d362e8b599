import SchemaBridge.Members

/-!
This module contains the Arrow data types, fields and schemas, and their comparison.
-/

namespace SchemaBridge

namespace Arrow

inductive TimeUnit where
  | second
  | millisecond
  | microsecond
  | nanosecond
  deriving DecidableEq, Repr

inductive IntervalUnit where
  | yearMonth
  | dayTime
  | monthDayNano
  deriving DecidableEq, Repr

inductive UnionMode where
  | sparse
  | dense
  deriving DecidableEq, Repr

inductive IntegerType where
  | int8
  | int16
  | int32
  | int64
  | uint8
  | uint16
  | uint32
  | uint64
  deriving DecidableEq, Repr

inductive FloatType where
  | float16
  | float32
  | float64
  deriving DecidableEq, Repr

inductive TextType where
  | utf8
  | largeUtf8
  | utf8View
  deriving DecidableEq, Repr

/--
What a field carries besides its name, type and nullability.
-/
structure FieldAttributes where
  dictId : Int64 := 0
  dictIsOrdered : Bool := false
  metadata : Members String := []
  deriving DecidableEq, Repr

/--
A field whose type is given as a `τ`.
-/
structure FieldOf (τ : Type) where
  name : String
  dataType : τ
  nullable : Bool
  attributes : FieldAttributes := {}

inductive DataType where
  | null
  | boolean
  | integer (type : IntegerType)
  | float (type : FloatType)
  | text (type : TextType)
  | timestamp (unit : TimeUnit) (zone : Option String)
  | date32
  | date64
  | time32 (unit : TimeUnit)
  | time64 (unit : TimeUnit)
  | duration (unit : TimeUnit)
  | interval (unit : IntervalUnit)
  | binary
  | fixedSizeBinary (size : Int32)
  | largeBinary
  | binaryView
  | list (item : FieldOf DataType)
  | listView (item : FieldOf DataType)
  | fixedSizeList (item : FieldOf DataType) (size : Int32)
  | largeList (item : FieldOf DataType)
  | largeListView (item : FieldOf DataType)
  | struct (fields : List (FieldOf DataType))
  | union (members : List (Int8 × FieldOf DataType)) (mode : UnionMode)
  | dictionary (key value : DataType)
  | decimal128 (precision : UInt8) (scale : Int8)
  | decimal256 (precision : UInt8) (scale : Int8)
  | map (entries : FieldOf DataType) (sorted : Bool)
  | runEndEncoded (runEnds values : FieldOf DataType)

abbrev Field := FieldOf DataType

structure Schema where
  fields : List Field
  metadata : Members String := []

/--
The name of the only field of a schema for values that are not records.
-/
def rootField : String := "root"

/--
The name of the field for the items of a list.
-/
def itemField : String := "item"

mutual

/--
Equality of types up to what a field says about dictionaries and up to the order of metadata.
-/
def DataType.agrees : DataType → DataType → Bool
  | .null, .null => true
  | .boolean, .boolean => true
  | .integer x, .integer y => x == y
  | .float x, .float y => x == y
  | .text x, .text y => x == y
  | .timestamp x z, .timestamp y w => x == y && z == w
  | .date32, .date32 => true
  | .date64, .date64 => true
  | .time32 x, .time32 y => x == y
  | .time64 x, .time64 y => x == y
  | .duration x, .duration y => x == y
  | .interval x, .interval y => x == y
  | .binary, .binary => true
  | .fixedSizeBinary x, .fixedSizeBinary y => x == y
  | .largeBinary, .largeBinary => true
  | .binaryView, .binaryView => true
  | .list x, .list y => fieldAgrees x y
  | .listView x, .listView y => fieldAgrees x y
  | .fixedSizeList x n, .fixedSizeList y k => fieldAgrees x y && n == k
  | .largeList x, .largeList y => fieldAgrees x y
  | .largeListView x, .largeListView y => fieldAgrees x y
  | .struct xs, .struct ys => fieldsAgree xs ys
  | .union xs m, .union ys n => membersAgree xs ys && m == n
  | .dictionary k v, .dictionary l w => k.agrees l && v.agrees w
  | .decimal128 p s, .decimal128 q t => p == q && s == t
  | .decimal256 p s, .decimal256 q t => p == q && s == t
  | .map x s, .map y t => fieldAgrees x y && s == t
  | .runEndEncoded r v, .runEndEncoded s w => fieldAgrees r s && fieldAgrees v w
  | _, _ => false

def fieldAgrees : FieldOf DataType → FieldOf DataType → Bool
  | ⟨name, type, nullable, attributes⟩, other =>
    name == other.name && type.agrees other.dataType && nullable == other.nullable &&
      (attributes.metadata.mapValues (· == ·)).agreeWith other.attributes.metadata

def fieldsAgree : List (FieldOf DataType) → List (FieldOf DataType) → Bool
  | [], [] => true
  | x :: xs, y :: ys => fieldAgrees x y && fieldsAgree xs ys
  | _, _ => false

def membersAgree : List (Int8 × FieldOf DataType) → List (Int8 × FieldOf DataType) → Bool
  | [], [] => true
  | (i, x) :: xs, (j, y) :: ys => i == j && fieldAgrees x y && membersAgree xs ys
  | _, _ => false

end

def Schema.agrees (s t : Schema) : Bool :=
  fieldsAgree s.fields t.fields && (s.metadata.mapValues (· == ·)).agreeWith t.metadata

end Arrow

end SchemaBridge
