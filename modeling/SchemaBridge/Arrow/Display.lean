import SchemaBridge.Arrow.Names
import SchemaBridge.Text.Basic
import SchemaBridge.Text.Quoted

/-!
This module contains the form in which messages name an Arrow type.
-/

namespace SchemaBridge

namespace Arrow

/--
The name of a type followed by its parts in parentheses.
-/
def applied (name : String) (parts : List String) : String :=
  name ++ "(" ++ ", ".intercalate parts ++ ")"

def zoneText : Option String → String
  | none => "None"
  | some zone => applied "Some" [Text.quoted zone]

def metadataText (metadata : Members String) : String :=
  let entries := metadata.map fun (key, value) => Text.quoted key ++ ": " ++ Text.quoted value
  "\x7b" ++ ", ".intercalate entries ++ "\x7d"

mutual

def DataType.display : DataType → String
  | .null => "Null"
  | .boolean => "Boolean"
  | .integer type => type.name
  | .float type => type.name
  | .text type => type.name
  | .timestamp unit zone => applied "Timestamp" [unit.name, zoneText zone]
  | .date32 => "Date32"
  | .date64 => "Date64"
  | .time32 unit => applied "Time32" [unit.name]
  | .time64 unit => applied "Time64" [unit.name]
  | .duration unit => applied "Duration" [unit.name]
  | .interval unit => applied "Interval" [unit.name]
  | .binary => "Binary"
  | .fixedSizeBinary size => applied "FixedSizeBinary" [toString size.toInt]
  | .largeBinary => "LargeBinary"
  | .binaryView => "BinaryView"
  | .list item => applied "List" [fieldDisplay item]
  | .listView item => applied "ListView" [fieldDisplay item]
  | .fixedSizeList item size => applied "FixedSizeList" [fieldDisplay item, toString size.toInt]
  | .largeList item => applied "LargeList" [fieldDisplay item]
  | .largeListView item => applied "LargeListView" [fieldDisplay item]
  | .struct fields => applied "Struct" [Text.bracketed (fieldsDisplay fields)]
  | .union members mode => applied "Union" [Text.bracketed (membersDisplay members), mode.name]
  | .dictionary key value => applied "Dictionary" [key.display, value.display]
  | .decimal128 precision scale =>
    applied "Decimal128" [toString precision.toNat, toString scale.toInt]
  | .decimal256 precision scale =>
    applied "Decimal256" [toString precision.toNat, toString scale.toInt]
  | .map entries sorted => applied "Map" [fieldDisplay entries, Text.ofBool sorted]
  | .runEndEncoded runEnds values =>
    applied "RunEndEncoded" [fieldDisplay runEnds, fieldDisplay values]

def fieldDisplay : FieldOf DataType → String
  | ⟨name, type, nullable, attributes⟩ =>
    let parts :=
      ["name: " ++ Text.quoted name,
        "data_type: " ++ type.display,
        "nullable: " ++ Text.ofBool nullable,
        "dict_id: " ++ toString attributes.dictId.toInt,
        "dict_is_ordered: " ++ Text.ofBool attributes.dictIsOrdered,
        "metadata: " ++ metadataText attributes.metadata]
    "Field \x7b " ++ ", ".intercalate parts ++ " \x7d"

def fieldsDisplay : List (FieldOf DataType) → List String
  | [] => []
  | field :: rest => fieldDisplay field :: fieldsDisplay rest

def membersDisplay : List (Int8 × FieldOf DataType) → List String
  | [] => []
  | (id, field) :: rest =>
    ("(" ++ toString id.toInt ++ ", " ++ fieldDisplay field ++ ")") :: membersDisplay rest

end

end Arrow

end SchemaBridge
