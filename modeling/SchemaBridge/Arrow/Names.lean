import SchemaBridge.Arrow.Basic

/-!
This module contains the names under which Arrow types and units are written.
-/

namespace SchemaBridge

namespace Arrow

namespace TimeUnit

def name : TimeUnit → String
  | .second => "Second"
  | .millisecond => "Millisecond"
  | .microsecond => "Microsecond"
  | .nanosecond => "Nanosecond"

def all : List TimeUnit :=
  [.second, .millisecond, .microsecond, .nanosecond]

end TimeUnit

namespace IntervalUnit

def name : IntervalUnit → String
  | .yearMonth => "YearMonth"
  | .dayTime => "DayTime"
  | .monthDayNano => "MonthDayNano"

def all : List IntervalUnit :=
  [.yearMonth, .dayTime, .monthDayNano]

end IntervalUnit

namespace UnionMode

def name : UnionMode → String
  | .sparse => "Sparse"
  | .dense => "Dense"

def all : List UnionMode :=
  [.sparse, .dense]

end UnionMode

namespace IntegerType

def name : IntegerType → String
  | .int8 => "Int8"
  | .int16 => "Int16"
  | .int32 => "Int32"
  | .int64 => "Int64"
  | .uint8 => "UInt8"
  | .uint16 => "UInt16"
  | .uint32 => "UInt32"
  | .uint64 => "UInt64"

def all : List IntegerType :=
  [.int8, .int16, .int32, .int64, .uint8, .uint16, .uint32, .uint64]

end IntegerType

namespace FloatType

def name : FloatType → String
  | .float16 => "Float16"
  | .float32 => "Float32"
  | .float64 => "Float64"

def all : List FloatType :=
  [.float16, .float32, .float64]

end FloatType

namespace TextType

def name : TextType → String
  | .utf8 => "Utf8"
  | .largeUtf8 => "LargeUtf8"
  | .utf8View => "Utf8View"

def all : List TextType :=
  [.utf8, .largeUtf8, .utf8View]

end TextType

/--
The name of the constructor of a type.
-/
def DataType.name : DataType → String
  | .null => "Null"
  | .boolean => "Boolean"
  | .integer type => type.name
  | .float type => type.name
  | .text type => type.name
  | .timestamp _ _ => "Timestamp"
  | .date32 => "Date32"
  | .date64 => "Date64"
  | .time32 _ => "Time32"
  | .time64 _ => "Time64"
  | .duration _ => "Duration"
  | .interval _ => "Interval"
  | .binary => "Binary"
  | .fixedSizeBinary _ => "FixedSizeBinary"
  | .largeBinary => "LargeBinary"
  | .binaryView => "BinaryView"
  | .list _ => "List"
  | .listView _ => "ListView"
  | .fixedSizeList _ _ => "FixedSizeList"
  | .largeList _ => "LargeList"
  | .largeListView _ => "LargeListView"
  | .struct _ => "Struct"
  | .union _ _ => "Union"
  | .dictionary _ _ => "Dictionary"
  | .decimal128 _ _ => "Decimal128"
  | .decimal256 _ _ => "Decimal256"
  | .map _ _ => "Map"
  | .runEndEncoded _ _ => "RunEndEncoded"

end Arrow

end SchemaBridge
