import SchemaBridge.JsonSchema.FlattenOptions

/-!
This module contains the fixtures: a schema, what its conversion is expected to give, and the form
in which they are written.
-/

namespace SchemaBridge

namespace Fixture

open Reading

/--
A top-level field that a conversion is expected to give.
-/
structure ExpectedField where
  name : String
  nullable : Bool
  deriving DecidableEq, Repr

inductive Expectation where
  | fields (fields : List ExpectedField)
  /-- The conversion fails with a message that contains `part`. -/
  | error (part : String)

namespace ExpectedField

structure Partial where
  name : Option String := none
  nullable : Option Bool := none

def form : RecordForm ValueReader Partial ExpectedField where
  name := "ExpectedField"
  members :=
    [⟨"name", (·.name.isSome), fun p => do return { p with name := some (← Source.string) }⟩,
      ⟨"nullable", (·.nullable.isSome), fun p => do
        return { p with nullable := some (← Source.boolean) }⟩]
  array := .whole
  start := {}
  finish p := return ⟨← present "name" p.name, ← present "nullable" p.nullable⟩

/--
Read a field, of which an array may hold nothing more.
-/
def ofJson (value : Json) : Except Cause ExpectedField :=
  match value with
  | .array items => do
    let field ← read (.array (items.take 2))
    if 2 < items.length then
      throw (.invalidLength items.length "2 elements in sequence")
    return field
  | value => read value
where
  /-- The path inside the field does not matter. -/
  read (value : Json) : Except Cause ExpectedField :=
    (ValueReader.record form value).mapError (·.cause)

end ExpectedField

namespace Expectation

/--
Read an expectation from the member that holds it.
-/
def ofMember (name : String) (value : Json) : Except Cause Expectation :=
  if name = "fields" then
    match value with
    | .array items => .fields <$> items.mapM ExpectedField.ofJson
    | value => .error (.invalidType (ValueReader.found value) "a sequence")
  else
    match value with
    | .string part => .ok (.error part)
    | value => .error (.invalidType (ValueReader.found value) "a string")

/--
The expectation is the first member that has a name for one.
-/
def ofMembers (members : List (String × Json)) : Except Cause Expectation :=
  match members.find? fun (name, _) => name == "fields" || name == "error" with
  | some (name, value) => ofMember name value
  | none => .error (.noneOfMembers "Expect")

end Expectation

end Fixture

structure Fixture where
  description : Option String
  schema : Json
  flattening : Option JsonSchema.FlattenOptions
  expectation : Fixture.Expectation

namespace Fixture

open Reading

/--
What has been read of a fixture, with the members that may hold its expectation.
-/
structure Partial where
  description : Option (Option String) := none
  schema : Option Json := none
  flattening : Option (Option JsonSchema.FlattenOptions) := none
  others : List (String × Json) := []

def form : RecordForm TextReader Partial Fixture where
  name := "Fixture"
  members :=
    [⟨"description", (·.description.isSome), fun p => do
        return { p with description := some (← Source.optional Source.string) }⟩,
      ⟨"schema", (·.schema.isSome), fun p => do
        return { p with schema := some (← Source.json) }⟩,
      ⟨"flatten", (·.flattening.isSome), fun p => do
        let options := Source.record JsonSchema.FlattenOptions.form
        return { p with flattening := some (← Source.optional options) }⟩]
  other := some fun name p => do
    return { p with others := p.others ++ [(name, ← TextReader.json id)] }
  array := .refused
  start := {}
  finish p := do
    let schema ← present "schema" p.schema
    return {
      description := p.description.join
      schema
      flattening := p.flattening.join
      expectation := ← Expectation.ofMembers p.others
    }

/--
Read the fixture at the front of a text.
-/
def parse (text : String) : Except Error Fixture :=
  TextReader.run (Source.record form) text

end Fixture

end SchemaBridge
