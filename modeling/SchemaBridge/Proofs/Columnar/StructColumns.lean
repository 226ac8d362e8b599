import SchemaBridge.Proofs.Columnar.WellFormed

/-!
This module contains what becomes of the columns of structs when an Arrow type goes through the
schema that it describes: each struct keeps the names of its columns in their order, and all columns
that can hold `null` stay nullable. Main definition: `Arrow.DataType.at?`. Main statement:
`Arrow.columns_of_toDataType`.
-/

namespace SchemaBridge

namespace Arrow

namespace DataType

/--
The types of the columns of a struct, and the type of the items of a list.
-/
def columnTypes : DataType → List DataType
  | .struct fields => fields.map (·.dataType)
  | .list item | .listView item | .fixedSizeList item _ | .largeList item
  | .largeListView item => [item.dataType]
  | _ => []

/--
The type that places of columns and items lead to.
-/
def at? (type : DataType) : List Nat → Option DataType
  | [] => some type
  | place :: rest => type.columnTypes[place]?.bind fun part => part.at? rest

/--
No column stands in a dense union, so that no struct is reached through one.
-/
theorem isDenseUnion_eq_false_of_at? {type : DataType} {path : List Nat} {fields : List Field}
    (h : type.at? path = some (.struct fields))
    : type.isDenseUnion = false := by
  cases type with
  | union members mode =>
    cases path with
    | nil => cases h
    | cons place rest => cases h
  | _ => rfl

end DataType

open JsonSchema (IsPropertyField present requires)

/--
A type becomes a schema, to which `null` may be added, and the schema becomes the other type.
-/
def ComesBackAs (type type' : DataType) : Prop :=
  ∃ base nullable, type.toJsonSchema = .ok base ∧ (base.folded nullable).toDataType = .ok type'

/--
A column and what it becomes: the name is the same, and `null` is allowed if it was before.
-/
structure SameColumn (field field' : Field) : Prop where
  name : field'.name = field.name
  nullable : field'.nullable = (field.nullable || field.dataType.includesNull)
  type : ComesBackAs field.dataType field'.dataType

section Types

variable {type type' : DataType} {s : JsonSchema}

theorem sameColumn_of_isColumn {fields : List Field}
    (hdistinct : (fields.map FieldOf.name).Nodup) {field field' : Field}
    {property : String × JsonSchema} (hfield : field ∈ fields) (hcolumn : IsColumn field property)
    (hproperty : IsPropertyField (present (requiredColumns fields)) property field')
    : SameColumn field field' := by
  obtain ⟨base, hbase, rfl⟩ := hcolumn
  obtain ⟨columnType, htype, rfl⟩ := hproperty
  refine ⟨rfl, ?_, base, field.nullable, hbase, htype⟩
  have hrequired : (requiredColumns fields).contains field.name = !field.nullable := by
    rw [Bool.eq_iff_iff, List.contains_iff_mem, mem_requiredColumns_iff hdistinct hfield,
      Bool.not_eq_true']
  simp only [JsonSchema.optional, JsonSchema.requires_present, hrequired, Bool.not_not,
    JsonSchema.isNullable_folded, isNullable_of_toJsonSchema hbase, Bool.or_self_left]

/--
A struct comes back as a struct, column by column.
-/
theorem sameColumns_of_toDataType {fields : List Field}
    (h : (DataType.struct fields).toJsonSchema = .ok s) (h' : s.toDataType = .ok type')
    : ∃ fields', type' = .struct fields' ∧ List.Forall₂ SameColumn fields fields' := by
  obtain ⟨properties, hcolumns, hdistinct, rfl⟩ := toJsonSchema_struct.mp h
  rw [← names_eq_of_isColumn hcolumns] at hdistinct
  rw [JsonSchema.toJsonSchema_columns] at h'
  obtain ⟨fields', rfl, hproperties⟩ := JsonSchema.exists_struct_of_present h'
  refine ⟨fields', rfl, forall₂_comp hcolumns hproperties ?_⟩
  intro field hfield property field' hcolumn hproperty
  exact sameColumn_of_isColumn hdistinct hfield hcolumn hproperty

theorem comesBackAs_of_columnTypes {place : Nat} {part : DataType}
    (h : type.toJsonSchema = .ok s) (h' : s.toDataType = .ok type')
    (hpart : type.columnTypes[place]? = some part)
    : ∃ part', type'.columnTypes[place]? = some part' ∧ ComesBackAs part part' := by
  have hlist {item : Field} (h : ∃ base, item.dataType.toJsonSchema = .ok base ∧ s = .array base)
      : List.Forall₂ ComesBackAs [item.dataType] type'.columnTypes := by
    obtain ⟨base, hbase, rfl⟩ := h
    obtain ⟨_, itemType, ⟨⟩, htype, rfl⟩ := JsonSchema.toDataType_array.mp h'
    exact .cons ⟨base, false, hbase, htype⟩ .nil
  cases type with
  | struct fields =>
    obtain ⟨fields', rfl, hfields⟩ := sameColumns_of_toDataType h h'
    have htypes : List.Forall₂ ComesBackAs (fields.map (·.dataType))
        (fields'.map (·.dataType)) := by
      rw [List.forall₂_map_left_iff, List.forall₂_map_right_iff]
      exact hfields.imp fun _ _ hsame => hsame.type
    exact exists_getElem?_of_forall₂ htypes hpart
  | list item => exact exists_getElem?_of_forall₂ (hlist (toJsonSchema_list.mp h)) hpart
  | largeList item => exact exists_getElem?_of_forall₂ (hlist (toJsonSchema_list.mp h)) hpart
  | listView item => cases h
  | fixedSizeList item size => cases h
  | largeListView item => cases h
  | _ => cases hpart

/--
Only a dense union comes back different because of `null`.
-/
theorem ComesBackAs.of_not_denseUnion (h : ComesBackAs type type')
    (hdense : type.isDenseUnion = false)
    : ∃ base, type.toJsonSchema = .ok base ∧ base.toDataType = .ok type' := by
  obtain ⟨base, nullable, hbase, htype⟩ := h
  rcases toJsonSchema_cases hbase with ⟨members, list, rfl, -, -⟩ | ⟨-, hunion, -⟩
  . cases hdense
  . rw [JsonSchema.toDataType_folded_of_not_union hunion] at htype
    exact ⟨base, hbase, htype⟩

/--
Wherever a struct stands, a struct stands after the type went through its schema. It has the same
columns in the same order, and exactly those that could hold `null` are nullable.
-/
theorem columns_of_toDataType {path : List Nat} {fields : List Field}
    (h : type.toJsonSchema = .ok s) (h' : s.toDataType = .ok type')
    (hat : type.at? path = some (.struct fields))
    : ∃ fields', type'.at? path = some (.struct fields') ∧
      fields'.map FieldOf.name = fields.map FieldOf.name ∧
      fields'.map FieldOf.nullable =
        fields.map fun field => field.nullable || field.dataType.includesNull := by
  induction path generalizing type type' s with
  | nil =>
    obtain rfl := Option.some.inj hat
    obtain ⟨fields', rfl, hfields⟩ := sameColumns_of_toDataType h h'
    refine ⟨fields', rfl, ?_, ?_⟩
    . exact (map_eq_map_of_forall₂ hfields fun _ _ _ hsame => hsame.name.symm).symm
    . exact (map_eq_map_of_forall₂ hfields fun _ _ _ hsame => hsame.nullable.symm).symm
  | cons place rest ih =>
    obtain ⟨part, hpart, hat⟩ := Option.bind_eq_some_iff.mp hat
    obtain ⟨part', hpart', hback⟩ := comesBackAs_of_columnTypes h h' hpart
    obtain ⟨base, hbase, htype⟩ :=
      hback.of_not_denseUnion (DataType.isDenseUnion_eq_false_of_at? hat)
    obtain ⟨fields', hat', hcolumns⟩ := ih hbase htype hat
    refine ⟨fields', ?_, hcolumns⟩
    rw [DataType.at?, hpart']
    exact hat'

def missingText : Int8 × Field := (1, ⟨"missing", .null, true, {}⟩)

def givenText : Int8 × Field := (0, ⟨"given", .text .utf8View, false, {}⟩)

/--
The columns of a label, which has a language if it is known, and a text unless that is missing.
-/
def labelFields : List Field := [
  ⟨"language", .text .largeUtf8, true, {}⟩,
  ⟨"text", .union [missingText, givenText] .dense, false, {}⟩]

def labelledRow : DataType :=
  .struct [
    ⟨"id", .integer .int32, false, {}⟩,
    ⟨"labels", .largeList ⟨"label", .struct labelFields, true, {}⟩, true, {}⟩]

def labelDescription : JsonSchema :=
  .plain (.object
    (some [
      ("language", .plain (.union ⟨.string, .null, []⟩)),
      ("text", .plain (.union ⟨.string, .null, []⟩))])
    (some ["text"]) {})

def labelledRowDescription : JsonSchema :=
  .plain (.object
    (some [("id", .integer), ("labels", .plain (.union ⟨.array labelDescription, .null, []⟩))])
    (some ["id"]) {})

theorem columns_of_toDataType_labels
    : ∃ s type', labelledRow.toJsonSchema = .ok s ∧ s.toDataType = .ok type' ∧
      labelledRow.at? [1, 0] = some (.struct labelFields) ∧
      ∃ fields', type'.at? [1, 0] = some (.struct fields') ∧
        fields'.map FieldOf.name = ["language", "text"] ∧
        fields'.map FieldOf.nullable = [true, true] := by
  have hunion : (DataType.union [missingText, givenText] .dense).toJsonSchema =
      .ok (.plain (.union ⟨.string, .null, []⟩)) :=
    toJsonSchema_union_of_ascending (.swap _ _ _) (by decide) (.cons rfl (.cons rfl .nil))
  have hlabel : (DataType.struct labelFields).toJsonSchema = .ok labelDescription :=
    toJsonSchema_struct.mpr ⟨_, .cons ⟨_, rfl, rfl⟩ (.cons ⟨_, hunion, rfl⟩ .nil), by decide, rfl⟩
  have hlabels : (DataType.list ⟨"label", .struct labelFields, true, {}⟩).toJsonSchema =
      .ok (.array labelDescription) := toJsonSchema_list.mpr ⟨_, hlabel, rfl⟩
  have hs : labelledRow.toJsonSchema = .ok labelledRowDescription :=
    toJsonSchema_struct.mpr ⟨_, .cons ⟨_, rfl, rfl⟩ (.cons ⟨_, hlabels, rfl⟩ .nil), by decide, rfl⟩
  obtain ⟨type', htype⟩ : ∃ type', labelledRowDescription.toDataType = .ok type' := ⟨_, rfl⟩
  have hat : labelledRow.at? [1, 0] = some (.struct labelFields) := rfl
  exact ⟨labelledRowDescription, type', hs, htype, hat, columns_of_toDataType hs htype hat⟩

end Types

end Arrow

end SchemaBridge
