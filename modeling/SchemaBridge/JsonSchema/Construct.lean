import SchemaBridge.SchemaError

/-!
This module contains the construction of plain schemas, without annotations and with no other
keyword than the ones given, and the questions that the conversions ask of a schema.
-/

namespace SchemaBridge

namespace JsonSchema

def plain (body : Body JsonSchema) : JsonSchema :=
  ⟨{}, body⟩

def untyped : JsonSchema := plain .untyped

def null : JsonSchema := plain .null

def boolean : JsonSchema := plain .boolean

def integer : JsonSchema := plain (.integer {})

def number : JsonSchema := plain (.number {})

def string : JsonSchema := plain (.string {})

def formatted (format : StringFormat) : JsonSchema :=
  plain (.string { format := some (.known format) })

def array (items : JsonSchema) : JsonSchema :=
  plain (.array (some (.schema items)) {})

def object (properties : List (String × JsonSchema)) : JsonSchema :=
  plain (.object (some (Members.ofList properties)) none {})

/--
A union of the given members, of which there have to be two at least.
-/
def union (members : List JsonSchema) (annotations : Annotations) : Except SchemaError JsonSchema :=
  match TwoOrMore.ofList? members with
  | none => .error (.smallUnion members.length)
  | some members => .ok ⟨annotations, .union members⟩

def typeName (s : JsonSchema) : String :=
  s.body.typeName

def isNull (s : JsonSchema) : Bool :=
  s.body.isNull

/--
Whether the values of a schema include `null`: it is the null type, or a union with that member.
-/
def isNullable (s : JsonSchema) : Bool :=
  match s.body with
  | .null => true
  | .union members => members.toList.any isNull
  | _ => false

/--
Which member of a union stands for all values other than `null`.
-/
inductive NullableSide where
  | first
  | second
  deriving DecidableEq, Repr

/--
The member beside `null` in a union of exactly two members of which exactly one is null.
-/
def TwoOrMore.nullableSide? (members : TwoOrMore JsonSchema) : Option NullableSide :=
  match members.others with
  | _ :: _ => none
  | [] =>
    match members.first.isNull, members.second.isNull with
    | true, false => some .second
    | false, true => some .first
    | _, _ => none

def TwoOrMore.get (members : TwoOrMore σ) : NullableSide → σ
  | .first => members.first
  | .second => members.second

/--
Whether an object with the `required` keyword `required` requires the property `name`.
-/
def requires (required : Option (List String)) (name : String) : Bool :=
  match required with
  | none => false
  | some names => names.contains name

end JsonSchema

end SchemaBridge
