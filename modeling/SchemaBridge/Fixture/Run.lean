import SchemaBridge.Columnar.OfJsonSchema
import SchemaBridge.Columnar.ToJsonSchema
import SchemaBridge.Fixture.Basic
import SchemaBridge.Glob.Expand
import SchemaBridge.JsonSchema.Parser
import SchemaBridge.Text.Basic

/-!
This module contains the checking of fixtures and the report about it. Main definitions:
`Fixture.check`, `Fixture.run`.
-/

namespace SchemaBridge

namespace Fixture

/--
Convert the schema of a fixture, flattened if it says so.
-/
def convert (f : Fixture) : Except SchemaError Arrow.Schema := do
  let schema ← JsonSchema.ofJson f.schema
  let schema ← match f.flattening with
    | none => pure schema
    | some options => schema.flatten options.maxDepth options.separator
  schema.toColumnar

/--
Whether `part` stands somewhere in a text.
-/
def containsText (text part : List Char) : Bool :=
  part.isPrefixOf text ||
    match text with
    | [] => false
    | _ :: rest => containsText rest part

/--
Fields as pairs of a name and a nullability.
-/
def fieldsText (fields : List ExpectedField) : String :=
  Text.bracketed (fields.map fun f =>
    "(" ++ Text.quoted f.name ++ ", " ++ Text.ofBool f.nullable ++ ")")

/--
Whether a schema stays the same on the way to JSON Schema and back.
-/
def checkStable (schema : Arrow.Schema) : Except String Unit := do
  let back ← schema.toJsonSchema.mapError SchemaError.message
  let again ← back.toColumnar.mapError SchemaError.message
  unless again.agrees schema do
    throw "arrow schema changed after a round trip through JSON Schema"

/--
Compare what the conversion gives with what is expected of it.
-/
def check (f : Fixture) : Except String Unit :=
  match f.expectation, f.convert with
  | .error part, .error e =>
    if containsText e.message.toList part.toList then
      .ok ()
    else
      .error ("expected error containing " ++ Text.quoted part ++ ", got " ++ Text.quoted e.message)
  | .error part, .ok _ =>
    .error ("expected error containing " ++ Text.quoted part ++ ", got success")
  | .fields _, .error e => .error e.message
  | .fields expected, .ok schema => do
    let actual := schema.fields.map fun field => ⟨field.name, field.nullable⟩
    if actual ≠ expected then
      throw <|
        "field mismatch\n  expected: " ++ fieldsText expected ++
          "\n  actual:   " ++ fieldsText actual
    checkStable schema

/--
Read and check the fixture in a text that came from the file `path`.
-/
def checkText (path : String) (text : Except FileError String) : Except String Unit :=
  match text with
  | .error e => .error ("failed to load " ++ path ++ ": " ++ e.message)
  | .ok text =>
    match Fixture.parse text with
    | .error e => .error ("failed to load " ++ path ++ ": " ++ e.message)
    | .ok fixture =>
      fixture.check.mapError fun cause =>
        fixture.description.getD "fixture failed" ++ ": " ++ cause

structure Report where
  exitCode : Nat
  errors : String

def summary (passed failed : Nat) : String :=
  toString passed ++ " passed, " ++ toString failed ++ " failed\n"

variable {m : Type → Type} [Monad m] [MonadFiles m]

/--
Check the fixtures at the given paths. The answer is the lines about them and how many fail.
-/
def checkAll : List String → m (String × Nat)
  | [] => return ("", 0)
  | path :: rest => do
    let result := checkText path (← MonadFiles.readText path)
    let (lines, failed) ← checkAll rest
    match result with
    | .ok () => return ("✅ pass " ++ Path.stem path ++ "\n" ++ lines, failed)
    | .error cause =>
      return ("❌ fail " ++ Path.stem path ++ ": " ++ cause ++ "\n" ++ lines, failed + 1)

/--
The paths that fit any of the patterns.
-/
def findPaths : List String → m (Except Glob.PatternError (List String))
  | [] => return .ok []
  | pattern :: rest => do
    match ← Glob.expand pattern with
    | .error e => return .error e
    | .ok paths =>
      match ← findPaths rest with
      | .error e => return .error e
      | .ok others => return .ok (paths ++ others)

/--
Check the fixtures that fit the patterns, in the order of their paths.
-/
def run (patterns : List String) : m Report := do
  match ← findPaths patterns with
  | .error e => return ⟨1, "error: " ++ e.message ++ "\n"⟩
  | .ok [] =>
    let shown := Text.bracketed (patterns.map Text.quoted)
    return ⟨1, "error: no fixtures matched " ++ shown ++ "\n"⟩
  | .ok paths =>
    let (lines, failed) ← checkAll (paths.mergeSort Path.le)
    return ⟨if failed = 0 then 0 else 1, lines ++ summary (paths.length - failed) failed⟩

end Fixture

end SchemaBridge
