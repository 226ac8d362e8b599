import SchemaBridge.Fixture.Run
import SchemaBridge.Proofs.Columnar.Keeping
import SchemaBridge.Proofs.JsonSchema.FlatSchemas

/-!
This module contains the columns that come back unchanged from the schema they describe, among those
that documents are converted to. Main definition: `Arrow.Schema.Stable`. Main statement:
`convert_stable_iff`.
-/

namespace SchemaBridge

/--
What it takes for columns to come back unchanged. Without any columns, there is one for an object.
-/
structure Arrow.Schema.Stable (columns : Arrow.Schema) : Prop where
  nonempty : columns.fields ≠ []
  items : (Arrow.DataType.struct columns.fields).Everywhere Arrow.DataType.KeepsItems
  columns : (Arrow.DataType.struct columns.fields).Everywhere Arrow.DataType.KeepsColumns

namespace JsonSchema

open Arrow (DataType Field Schema)

variable {s : JsonSchema} {type : DataType}

theorem unwrapped_columnForm {annotations : Annotations} {properties : List (String × JsonSchema)}
    {required : Option (List String)} {k : ObjectKeywords JsonSchema}
    : (columnForm ⟨annotations, .object (some properties) required k⟩).body.unwrapped =
      (!properties.isEmpty && !looksWrapped properties) := by
  rw [columnForm_object, toJsonSchema_columns, plain]
  rcases properties with _ | ⟨_, _ | _⟩ <;> rfl

theorem typeName_of_unwrapped (h : s.body.unwrapped = true) : s.typeName = "object" := by
  obtain ⟨annotations, body⟩ := s
  cases body with
  | object properties required k => rfl
  | _ => cases h

theorem unwrapped_settled (h : s.body.unwrapped = false) : s.settled.body.unwrapped = false := by
  cases hunwrapped : s.settled.body.unwrapped with
  | false => rfl
  | true =>
    have hnullable : s.isNullable = false := by
      rw [← isNullable_settled]
      exact isNullable_of_unwrapped hunwrapped
    rw [settled, hnullable, folded_false] at hunwrapped
    have hobject : s.typeName = "object" := by
      rw [← typeName_columnForm (side?_of_not_isNullable hnullable)]
      exact typeName_of_unwrapped hunwrapped
    obtain ⟨annotations, body⟩ := s
    cases body with
    | object properties required k =>
      cases properties with
      | none => cases hunwrapped
      | some properties =>
        rw [unwrapped_columnForm] at hunwrapped
        simp_all [Body.unwrapped]
    | _ => simp [typeName, Body.typeName] at hobject

theorem toColumnar_columnForm_iff {fields : List Field} (hunwrapped : s.body.unwrapped = true)
    (h : s.toDataType = .ok (.struct fields))
    : s.columnForm.toColumnar = .ok ⟨fields, []⟩ ↔
      fields ≠ [] ∧ s.columnForm.toDataType = .ok (.struct fields) := by
  obtain ⟨annotations, body⟩ := s
  cases body with
  | object properties required k =>
    rcases properties with _ | _ | ⟨property, rest⟩
    . cases hunwrapped
    . -- Undeclared properties come back, and then the object has a column of its own.
      obtain ⟨fields', hfields, heq⟩ := toDataType_object_some.mp h
      obtain rfl := DataType.struct.inj heq
      obtain rfl := List.forall₂_nil_left_iff.mp hfields
      apply iff_of_false
      . rw [toColumnar_wrapped unwrapped_columnForm]
        rintro ⟨type, -, hcolumns⟩
        cases hcolumns
      . exact fun h => h.1 rfl
    . obtain ⟨fields', hfields, heq⟩ := toDataType_object_some.mp h
      obtain rfl := DataType.struct.inj heq
      have hform := Eq.trans (@unwrapped_columnForm annotations (property :: rest) required k)
        hunwrapped
      have hne : fields ≠ [] := by
        rintro rfl
        cases hfields
      rw [toColumnar_unwrapped hform, and_iff_right hne]
      simp
  | _ => cases hunwrapped

theorem stable_iff {columns : Schema}
    : columns.Stable ↔ columns.fields ≠ [] ∧ KeepsNullability (.struct columns.fields) := by
  constructor
  . rintro ⟨nonempty, items, columns⟩
    exact ⟨nonempty, items.and columns⟩
  . rintro ⟨nonempty, keeps⟩
    exact ⟨nonempty, keeps.mono fun _ h => h.1, keeps.mono fun _ h => h.2⟩

/--
Columns come back from what they settle to exactly if they are stable.
-/
theorem toColumnar_settled_iff {columns : Schema} (hspellable : s.Spellable)
    (hnames : s.NamesDistinct) (h : s.toColumnar = .ok columns)
    : s.settled.toColumnar = .ok columns ↔ columns.Stable := by
  rw [stable_iff]
  cases hunwrapped : s.body.unwrapped with
  | false =>
    obtain ⟨type, htype, rfl⟩ := (toColumnar_wrapped hunwrapped).mp h
    have hform := toJsonSchema_of_toDataType hnames htype
    rw [toColumnar_wrapped (unwrapped_settled hunwrapped), isNullable_settled, keeps_struct_iff,
      List.forall_mem_singleton, ← toDataType_columnForm_iff hspellable hnames htype,
      ← toDataType_folded_iff (side?_columnForm s) hform]
    constructor
    . rintro ⟨type', htype', heq⟩
      obtain rfl : type = type' := by simpa using heq
      exact ⟨List.cons_ne_nil _ _, htype'⟩
    . rintro ⟨-, htype'⟩
      exact ⟨type, htype', rfl⟩
  | true =>
    obtain ⟨fields, hfields, rfl⟩ := (toColumnar_unwrapped hunwrapped).mp h
    rw [← toDataType_columnForm_iff hspellable hnames hfields, settled,
      isNullable_of_unwrapped hunwrapped, folded_false]
    exact toColumnar_columnForm_iff hunwrapped hfields

end JsonSchema

namespace Fixture

variable {f : Fixture} {columns : Arrow.Schema}

theorem exists_schema_of_convert (hdistinct : f.schema.distinctNames = true)
    (h : f.convert = .ok columns)
    : ∃ s : JsonSchema, s.NamesDistinct ∧ s.Spellable ∧ s.toColumnar = .ok columns := by
  unfold convert at h
  obtain ⟨s, hs, h⟩ := Success.bind_eq_ok_iff.mp h
  have hnames := JsonSchema.namesDistinct_of_ofJson hdistinct hs
  have hspellable := JsonSchema.spellable_of_ofJson hs
  cases hflattening : f.flattening with
  | none =>
    rw [hflattening] at h
    exact ⟨s, hnames, hspellable, h⟩
  | some options =>
    rw [hflattening] at h
    obtain ⟨flat, hflat, h⟩ := Success.bind_eq_ok_iff.mp h
    exact ⟨flat, JsonSchema.namesDistinct_flatten hnames hflat,
      JsonSchema.spellable_flatten hspellable hflat, h⟩

/--
The columns that a fixture is converted to describe a schema that has columns again, and these are
the same exactly if the first ones are stable.
-/
theorem convert_stable_iff (hdistinct : f.schema.distinctNames = true)
    (h : f.convert = .ok columns)
    : ∃ t columns', columns.toJsonSchema = .ok t ∧ t.toColumnar = .ok columns' ∧
      (columns' = columns ↔ columns.Stable) := by
  obtain ⟨s, hnames, hspellable, hcolumns⟩ := exists_schema_of_convert hdistinct h
  have hconvertible := JsonSchema.exists_toColumnar_iff.mp ⟨columns, hcolumns⟩
  obtain ⟨columns', hcolumns'⟩ := JsonSchema.exists_toColumnar_iff.mpr
    (JsonSchema.convertible_settled hconvertible (JsonSchema.unionsUpTo_of_spellable hspellable))
  refine ⟨s.settled, columns', JsonSchema.toJsonSchema_of_toColumnar hnames hcolumns, hcolumns', ?_⟩
  rw [← JsonSchema.toColumnar_settled_iff hspellable hnames hcolumns, hcolumns', Except.ok.injEq]

def orderFixture : Fixture where
  description := none
  schema := .object [
    ("type", .string "object"),
    ("properties", .object [
      ("customer", .object [
        ("type", .string "object"),
        ("properties", .object [("name", .object [("type", .string "string")])]),
        ("required", .array [.string "name"])]),
      ("note", .object [("type", .array [.string "string", .string "integer", .string "null"])]),
      ("tags", .object [
        ("type", .string "array"), ("items", .object [("type", .string "string")])])]),
    ("required", .array [.string "customer"])]
  flattening := some { maxDepth := 1, separator := "_" }
  expectation := .fields [⟨"customer_name", false⟩, ⟨"note", true⟩, ⟨"tags", true⟩]

def noteType : Arrow.DataType :=
  .union
    [(0, ⟨"string", .text .utf8, false, {}⟩), (1, ⟨"integer", .integer .int64, false, {}⟩),
      (2, ⟨"null", .null, true, {}⟩)]
    .dense

def orderColumns : Arrow.Schema where
  fields := [
    ⟨"customer_name", .text .utf8, false, {}⟩,
    ⟨"note", noteType, true, {}⟩,
    ⟨"tags", .list ⟨"item", .text .utf8, false, {}⟩, true, {}⟩]

theorem convert_stable_iff_order
    : orderFixture.schema.distinctNames = true ∧ orderFixture.convert = .ok orderColumns ∧
      orderColumns.Stable := by
  have hdistinct : orderFixture.schema.distinctNames = true := by decide
  have hconvert : orderFixture.convert = .ok orderColumns := by rfl
  have hnote : noteType.toJsonSchema = .ok (.plain (.union ⟨.string, .integer, [.null]⟩)) :=
    Arrow.toJsonSchema_union_of_ascending (.refl _) (by decide)
      (.cons rfl (.cons rfl (.cons rfl .nil)))
  have hproperties : List.Forall₂ Arrow.IsColumn orderColumns.fields _ :=
    .cons ⟨_, rfl, rfl⟩ (.cons ⟨_, hnote, rfl⟩ (.cons ⟨_, rfl, rfl⟩ .nil))
  have hs := Arrow.toJsonSchema_struct.mpr ⟨_, hproperties, by decide, rfl⟩
  obtain ⟨t, columns', ht, hcolumns', hstable⟩ := convert_stable_iff hdistinct hconvert
  obtain rfl := Except.ok.inj (hs.symm.trans ht)
  exact ⟨hdistinct, hconvert, hstable.mp (Except.ok.inj hcolumns'.symm)⟩

def ofSchema (schema : Json) : Fixture :=
  ⟨none, schema, none, .fields []⟩

def optionalUnion : Json :=
  .object [
    ("type", .string "object"),
    ("properties", .object [
      ("id", .object [("type", .array [.string "string", .string "integer"])])])]

def idType (others : List (Int8 × Arrow.Field)) : Arrow.DataType :=
  .union
    ((0, ⟨"string", .text .utf8, false, {}⟩) :: (1, ⟨"integer", .integer .int64, false, {}⟩) ::
      others)
    .dense

def idColumns (others : List (Int8 × Arrow.Field)) : Arrow.Schema where
  fields := [⟨"id", idType others, true, {}⟩]

def withoutProperties : Json :=
  .object [("type", .string "object"), ("properties", .object [])]

/--
Columns that do not come back although all lists keep the nullability of their items: an optional
union gets a `null` member, and an object without properties gets a column of its own.
-/
theorem convert_not_stable
    : ((ofSchema optionalUnion).convert = .ok (idColumns []) ∧
        (Arrow.DataType.struct (idColumns []).fields).Everywhere Arrow.DataType.KeepsItems ∧
        ((idColumns []).toJsonSchema >>= JsonSchema.toColumnar) =
          .ok (idColumns [(2, ⟨"null", .null, true, {}⟩)]) ∧
        idColumns [(2, ⟨"null", .null, true, {}⟩)] ≠ idColumns []) ∧
      ((ofSchema withoutProperties).convert = .ok ⟨[], []⟩ ∧
        (Arrow.DataType.struct []).Everywhere Arrow.DataType.KeepsItems ∧
        ((Arrow.Schema.mk [] []).toJsonSchema >>= JsonSchema.toColumnar) =
          .ok ⟨[⟨Arrow.rootField, .struct [], false, {}⟩], []⟩) := by
  have hitems : (Arrow.DataType.struct (idColumns []).fields).Everywhere
      Arrow.DataType.KeepsItems := by
    refine .intro trivial ?_
    intro c hc
    obtain rfl := List.mem_singleton.mp hc
    refine .intro trivial ?_
    exact List.forall_mem_cons.mpr ⟨.of_children_eq_nil rfl trivial,
      List.forall_mem_singleton.mpr (.of_children_eq_nil rfl trivial)⟩
  have hid : (idType []).toJsonSchema = .ok (.plain (.union ⟨.string, .integer, []⟩)) :=
    Arrow.toJsonSchema_union_of_ascending (.refl _) (by decide) (.cons rfl (.cons rfl .nil))
  have hagain : ((idColumns []).toJsonSchema >>= JsonSchema.toColumnar) =
      .ok (idColumns [(2, ⟨"null", .null, true, {}⟩)]) := by
    apply Success.bind_eq_ok_iff.mpr
    exact ⟨_, Arrow.toJsonSchema_struct.mpr ⟨_, .cons ⟨_, hid, rfl⟩ .nil, by decide, rfl⟩, rfl⟩
  exact ⟨⟨by rfl, hitems, hagain, nofun⟩, by rfl, .of_children_eq_nil rfl trivial, by rfl⟩

end Fixture

end SchemaBridge
