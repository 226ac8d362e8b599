import SchemaBridge.CommandLine.Run
import SchemaBridge.Proofs.JsonSchema.FlatSchemas
import SchemaBridge.Proofs.Notices

/-!
This module contains the outcomes of the conversions of one document, and what flattened documents
have to do with each other: converting a document with flattening is flattening it first and then
converting what came out. Main statement: `convert_flat`.
-/

namespace SchemaBridge

namespace CommandLine

open JsonSchema (FlattenOptions ofJson)

theorem yields_ofSchema {α : Type} {x : Recorded SchemaError α} {y : Except SchemaError α}
    (h : x.Yields y)
    : Recorded.Yields (convert.ofSchema x) (y.mapError SchemaError.message) := by
  exact h.adapt _

theorem yields_convert_flatten (options : FlattenOptions) (document : Json)
    : Recorded.Yields (convert (.flatten options) document) (do
        let schema ← (ofJson document).mapError SchemaError.message
        let flat ← (schema.flatten options.maxDepth options.separator).mapError SchemaError.message
        return flat.toJson) := by
  refine .bind (yields_ofSchema (JsonSchema.yields_ofJsonM document)) fun schema => ?_
  refine .bind (yields_ofSchema (JsonSchema.yields_flattenM _ schema _)) fun flat => ?_
  exact .pure flat.toJson

theorem yields_convert_arrow (flattening : Option FlattenOptions) (document : Json)
    : Recorded.Yields (convert (.arrow flattening) document) (do
        let schema ← (ofJson document).mapError SchemaError.message
        let schema ← match flattening with
          | none => pure schema
          | some options =>
            (schema.flatten options.maxDepth options.separator).mapError SchemaError.message
        return (← schema.toColumnar.mapError SchemaError.message).toJson) := by
  have hcolumns (schema : JsonSchema) := yields_ofSchema (JsonSchema.yields_toColumnarM schema)
  refine .bind (yields_ofSchema (JsonSchema.yields_ofJsonM document)) fun schema => ?_
  cases flattening with
  | none =>
    refine .bind (.pure schema) fun schema => ?_
    exact .bind (hcolumns schema) fun columns => .pure columns.toJson
  | some options =>
    refine .bind (yields_ofSchema (JsonSchema.yields_flattenM _ schema _)) fun flat => ?_
    exact .bind (hcolumns flat) fun columns => .pure columns.toJson

/--
A flattened document is read as the schema that was flattened, so that it has the same columns as the
document that is flattened on the way to them, or the same error.
-/
theorem convert_flat {document : Json} {s flat : JsonSchema} {options : FlattenOptions}
    (hs : ofJson document = .ok s)
    (hflat : s.flatten options.maxDepth options.separator = .ok flat)
    : ofJson flat.toJson = .ok flat ∧
      (convert (.flatten options) document).run.1 = .ok flat.toJson ∧
      (convert (.arrow (some options)) document).run.1 =
        Arrow.Schema.toJson <$> flat.toColumnar.mapError SchemaError.message ∧
      (convert (.arrow none) flat.toJson).run.1 =
        Arrow.Schema.toJson <$> flat.toColumnar.mapError SchemaError.message := by
  have hread := JsonSchema.ofJson_toJson_flatten hs hflat
  refine ⟨hread, ?_, ?_, ?_⟩
  . rw [(yields_convert_flatten options document).run_eq, hs]
    dsimp only [bind, Except.bind, Except.mapError]
    rw [hflat]
    rfl
  . rw [(yields_convert_arrow (some options) document).run_eq, hs, map_eq_pure_bind]
    dsimp only [bind, Except.bind, Except.mapError]
    rw [hflat]
  . rw [(yields_convert_arrow none flat.toJson).run_eq, hread, map_eq_pure_bind]
    rfl

def officeDocument : Json :=
  .object [
    ("type", .string "object"),
    ("properties", .object [
      ("desk", .object [
        ("type", .string "object"),
        ("properties", .object [("phone", .object [("type", .string "string")])]),
        ("required", .array [.string "phone"])]),
      ("floor", .object [("type", .string "integer")])]),
    ("required", .array [.string "desk"])]

def officeFlat : JsonSchema :=
  .plain (.object (some [("deskphone", .string), ("floor", .integer)]) (some ["deskphone"]) {})

theorem convert_flat_office
    : (∃ s : JsonSchema, ofJson officeDocument = .ok s ∧ s.flatten 10 "" = .ok officeFlat) ∧
      ofJson officeFlat.toJson = .ok officeFlat ∧
      (convert (.arrow none) officeFlat.toJson).run.1 =
        (convert (.arrow (some { separator := "" })) officeDocument).run.1 := by
  obtain ⟨s, hs⟩ : ∃ s : JsonSchema, ofJson officeDocument = .ok s := ⟨_, rfl⟩
  have hflat : s.flatten 10 "" = .ok officeFlat := by
    have hread : (ofJson officeDocument >>= fun s => s.flatten 10 "") = .ok officeFlat := by rfl
    rw [hs] at hread
    exact hread
  obtain ⟨hagain, -, hflattening, hplain⟩ := @convert_flat _ _ _ { separator := "" } hs hflat
  exact ⟨⟨s, hs, hflat⟩, hagain, hplain.trans hflattening.symm⟩

end CommandLine

end SchemaBridge
