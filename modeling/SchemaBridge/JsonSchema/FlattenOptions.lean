import SchemaBridge.JsonSchema.Flatten
import SchemaBridge.Reading.Text
import SchemaBridge.Reading.Value

/-!
This module contains the JSON form of the options for flattening.
-/

namespace SchemaBridge

namespace JsonSchema

namespace FlattenOptions

open Reading

def toJson (o : FlattenOptions) : Json :=
  .object [("max_depth", .ofInt o.maxDepth), ("separator", .string o.separator)]

/--
The options that have been read.
-/
structure Partial where
  maxDepth : Option Int := none
  separator : Option String := none

variable {m : Type → Type} [Source m]

/--
Options that are not given have their default values.
-/
def form : RecordForm m Partial FlattenOptions where
  name := "FlattenOptions"
  members :=
    [⟨"max_depth", (·.maxDepth.isSome), fun p => do
        return { p with maxDepth := some (← Source.integer .int32) }⟩,
      ⟨"separator", (·.separator.isSome), fun p => do
        return { p with separator := some (← Source.string) }⟩]
  array := .shortened
  start := {}
  finish p :=
    let defaults : FlattenOptions := {}
    .ok ⟨p.maxDepth.getD defaults.maxDepth, p.separator.getD defaults.separator⟩

def ofJson (value : Json) : Except Error FlattenOptions :=
  Source.record (m := ValueReader) form value

/--
Read the options at the front of a text.
-/
def parse (text : String) : Except Error FlattenOptions :=
  TextReader.run (Source.record form) text

end FlattenOptions

end JsonSchema

end SchemaBridge
