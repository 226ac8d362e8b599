import SchemaBridge.Arrow.Names
import SchemaBridge.Json.Basic

/-!
This module contains the JSON form of Arrow schemas. A type without parts is a string, any other
type is an object with the name of the type as its only member.
-/

namespace SchemaBridge

namespace Arrow

def metadataToJson (metadata : Members String) : Json :=
  .object (metadata.mapValues Json.string)

/--
The form of a type with the parts `parts`.
-/
def tagged (name : String) (parts : Json) : Json :=
  .object [(name, parts)]

def timeUnitToJson (unit : TimeUnit) : Json :=
  .string unit.name

def zoneToJson : Option String → Json
  | none => .null
  | some zone => .string zone

mutual

def DataType.toJson : DataType → Json
  | .null => .string "Null"
  | .boolean => .string "Boolean"
  | .integer type => .string type.name
  | .float type => .string type.name
  | .text type => .string type.name
  | .timestamp unit zone => tagged "Timestamp" (.array [timeUnitToJson unit, zoneToJson zone])
  | .date32 => .string "Date32"
  | .date64 => .string "Date64"
  | .time32 unit => tagged "Time32" (timeUnitToJson unit)
  | .time64 unit => tagged "Time64" (timeUnitToJson unit)
  | .duration unit => tagged "Duration" (timeUnitToJson unit)
  | .interval unit => tagged "Interval" (.string unit.name)
  | .binary => .string "Binary"
  | .fixedSizeBinary size => tagged "FixedSizeBinary" (.ofInt size.toInt)
  | .largeBinary => .string "LargeBinary"
  | .binaryView => .string "BinaryView"
  | .list item => tagged "List" (fieldToJson item)
  | .listView item => tagged "ListView" (fieldToJson item)
  | .fixedSizeList item size =>
    tagged "FixedSizeList" (.array [fieldToJson item, .ofInt size.toInt])
  | .largeList item => tagged "LargeList" (fieldToJson item)
  | .largeListView item => tagged "LargeListView" (fieldToJson item)
  | .struct fields => tagged "Struct" (.array (fieldsToJson fields))
  | .union members mode =>
    tagged "Union" (.array [.array (membersToJson members), .string mode.name])
  | .dictionary key value => tagged "Dictionary" (.array [key.toJson, value.toJson])
  | .decimal128 precision scale =>
    tagged "Decimal128" (.array [.ofNat precision.toNat, .ofInt scale.toInt])
  | .decimal256 precision scale =>
    tagged "Decimal256" (.array [.ofNat precision.toNat, .ofInt scale.toInt])
  | .map entries sorted => tagged "Map" (.array [fieldToJson entries, .bool sorted])
  | .runEndEncoded runEnds values =>
    tagged "RunEndEncoded" (.array [fieldToJson runEnds, fieldToJson values])

def fieldToJson : FieldOf DataType → Json
  | ⟨name, type, nullable, attributes⟩ =>
    .object
      [("name", .string name),
        ("data_type", type.toJson),
        ("nullable", .bool nullable),
        ("dict_id", .ofInt attributes.dictId.toInt),
        ("dict_is_ordered", .bool attributes.dictIsOrdered),
        ("metadata", metadataToJson attributes.metadata)]

def fieldsToJson : List (FieldOf DataType) → List Json
  | [] => []
  | field :: rest => fieldToJson field :: fieldsToJson rest

def membersToJson : List (Int8 × FieldOf DataType) → List Json
  | [] => []
  | (id, field) :: rest => .array [.ofInt id.toInt, fieldToJson field] :: membersToJson rest

end

def Schema.toJson (s : Schema) : Json :=
  .object
    [("fields", .array (fieldsToJson s.fields)),
      ("metadata", metadataToJson s.metadata)]

end Arrow

end SchemaBridge
