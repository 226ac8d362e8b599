import SchemaBridge.Proofs.Columnar.WellFormed
import SchemaBridge.Proofs.JsonSchema.Readable

/-!
This module contains the Arrow schemas whose description can be written as a document and read again.
Only dense unions can be in the way: their members have to be read back as different types, and as no
unions. Main definition: `Arrow.DataType.DistinctMembers`. Main statement:
`Arrow.ofJson_toJson_iff_of_toJsonSchema`.
-/

namespace SchemaBridge

namespace JsonSchema

variable {s : JsonSchema}

/--
A schema of some type without annotations and without keywords of numbers and strings.
-/
structure Blank (s : JsonSchema) : Prop where
  annotations : s.annotations = {}
  typed : s.body ≠ .untyped
  integer : ∀ k, s.body = .integer k → k = {}
  number : ∀ k, s.body = .number k → k = {}
  string : ∀ k, s.body = .string k → k = {}

theorem Blank.of_scalar (kind : Kind) : Blank (plain kind.body) := by
  cases kind <;> constructor <;> simp [plain, Kind.body]

theorem Blank.exists_kind_or_union (h : s.Blank)
    : (∃ kind, s.body.kind? = some kind) ∨ ∃ list, s = plain (.union list) := by
  obtain ⟨annotations, body⟩ := s
  obtain rfl : annotations = {} := h.annotations
  cases body with
  | untyped => exact (h.typed rfl).elim
  | union list => exact .inr ⟨list, rfl⟩
  | _ => exact .inl ⟨_, rfl⟩

theorem Blank.withNull (h : s.Blank) : s.withNull.Blank := by
  rcases h.exists_kind_or_union with ⟨kind, hkind⟩ | ⟨list, rfl⟩
  . rw [withNull_of_not_union (Body.ne_union_of_kind? hkind)]
    constructor <;> simp [plain]
  . constructor <;> simp [plain, JsonSchema.withNull]

/-!
A blank schema is spellable if its unions name different types.
-/

theorem readable_of_spellable (h : s.Spellable) : s.Readable := by
  apply Everywhere.mono h
  intro s hs
  obtain ⟨annotations, body⟩ := s
  cases body with
  | union list => exact SpellableUnion.named hs
  | _ => trivial

theorem spellable_of_readable (hblank : Everywhere Body.subschemas Blank s) (h : s.Readable)
    : s.Spellable := by
  induction hblank with
  | @intro s self child ih =>
    apply Everywhere.intro
    . obtain ⟨annotations, body⟩ := s
      cases body with
      | string k =>
        obtain rfl := self.string k rfl
        exact nofun
      | union list =>
        have hnamed : NamedUnion list.toList := h.self
        refine ⟨hnamed.kinds, hnamed.distinct, ?_, ?_⟩
        . exact fun member hmember => (child member hmember).self.1
        . intro a b k l hinteger hnumber
          rw [(child _ hinteger).self.integer k rfl, (child _ hnumber).self.number l rfl]
      | _ => trivial
    . exact fun c hc => ih c hc (h.child hc)

/-!
Folding the nullability of a column into a schema changes nothing about that.
-/

theorem readable_withNull (hblank : s.Blank) (h : s.body.Readable)
    (hnullable : s.isNullable = false)
    : s.withNull.body.Readable := by
  rcases hblank.exists_kind_or_union with ⟨kind, hkind⟩ | ⟨list, rfl⟩
  . have hunion := Body.ne_union_of_kind? hkind
    rw [isNullable_eq_isNull hunion] at hnullable
    rw [withNull_of_not_union hunion]
    apply (namedUnion_singleton hkind).concat_null
    exact List.forall_mem_singleton.mpr hnullable
  . rw [plain, isNullable_union, List.any_eq_false] at hnullable
    apply NamedUnion.concat_null h
    intro member hmember
    exact Bool.eq_false_iff.mpr (hnullable member hmember)

theorem readable_of_withNull (hblank : s.Blank) (h : s.withNull.Readable) : s.Readable := by
  rcases hblank.exists_kind_or_union with ⟨kind, hkind⟩ | ⟨list, rfl⟩
  . rw [withNull_of_not_union (Body.ne_union_of_kind? hkind)] at h
    exact h.child (TwoOrMore.get_mem _ .first)
  . have hnamed : NamedUnion (list.push null).toList := h.self
    rw [TwoOrMore.toList_push] at hnamed
    apply Everywhere.intro
    . constructor
      . exact fun member hmember => hnamed.kinds member (List.mem_append_left _ hmember)
      . have hdistinct := hnamed.distinct
        rw [List.map_append] at hdistinct
        exact (List.nodup_append.mp hdistinct).1
    . intro member hmember
      have hpushed : member ∈ (list.push null).toList := by
        rw [TwoOrMore.toList_push]
        exact List.mem_append_left _ hmember
      exact h.child hpushed

theorem readable_folded_iff (hblank : s.Blank) (nullable : Bool)
    : (s.folded nullable).Readable ↔ s.Readable := by
  constructor
  . intro h
    cases nullable with
    | false => exact h
    | true =>
      cases hnullable : s.isNullable with
      | true =>
        rw [folded_of_isNullable hnullable] at h
        exact h
      | false =>
        rw [folded_true_of_not_isNullable hnullable] at h
        exact readable_of_withNull hblank h
  . intro h
    exact everywhere_folded h trivial (readable_withNull hblank h.self) nullable

end JsonSchema

namespace Arrow

namespace DataType

/--
The name of the type as which a type is read back.
-/
def typeName? (type : DataType) : Option String :=
  type.toJsonSchema.toOption.map JsonSchema.typeName

/--
No member of a dense union is a dense union, and all of them are read back as different types.
-/
def DistinctMembers : DataType → Prop
  | .union members .dense =>
    (∀ entry ∈ members, entry.2.dataType.isDenseUnion = false) ∧
      (members.map fun entry => entry.2.dataType.typeName?).Nodup
  | _ => True

theorem distinctMembers_of_not_isDenseUnion {type : DataType} (h : type.isDenseUnion = false)
    : type.DistinctMembers := by
  cases type with
  | union members mode =>
    cases mode with
    | sparse => trivial
    | dense => cases h
  | _ => trivial

end DataType

section Types

variable {type : DataType} {s : JsonSchema}

theorem subschemas_columns (columns : Columns)
    : columns.toJsonSchema.body.subschemas = columns.properties.map Prod.snd := by
  rw [JsonSchema.toJsonSchema_columns, JsonSchema.plain, JsonSchema.Body.subschemas,
    JsonSchema.namedSubschemas_present]
  exact List.append_nil _

theorem blank_of_dataType (h : type.toJsonSchema = .ok s)
    : JsonSchema.Everywhere JsonSchema.Body.subschemas JsonSchema.Blank s := by
  apply toJsonSchema_induction
    (P := fun _ s => JsonSchema.Everywhere JsonSchema.Body.subschemas JsonSchema.Blank s) _ _ _ _ h
  . intro _ kind _ _ _
    refine .intro (.of_scalar kind) ?_
    cases kind <;> exact nofun
  . intro _ _ base _ _ hbase
    apply Everywhere.intro
    . constructor <;> simp [JsonSchema.array, JsonSchema.plain]
    . exact List.forall_mem_singleton.mpr hbase
  . intro fields properties hproperties _ _
    apply Everywhere.intro
    . rw [JsonSchema.toJsonSchema_columns]
      constructor <;> simp [JsonSchema.plain]
    . rw [subschemas_columns, List.forall_mem_map]
      intro property hproperty
      obtain ⟨field, -, base, -, hbase, rfl⟩ := exists_left_of_forall₂ hproperties hproperty
      exact JsonSchema.everywhere_folded hbase (.of_scalar .null) (fun _ => hbase.self.withNull) _
  . intro members list hlist
    apply Everywhere.intro
    . constructor <;> simp [JsonSchema.plain]
    . intro member hmember
      obtain ⟨entry, -, -, h⟩ := exists_left_of_forall₂ hlist hmember
      exact h

theorem exists_kind_iff (h : type.toJsonSchema = .ok s)
    : type.isDenseUnion = false ↔ ∃ kind, s.body.kind? = some kind := by
  rcases toJsonSchema_cases h with ⟨members, list, rfl, rfl, -⟩ | ⟨hdense, hunion, -⟩
  . simp [DataType.isDenseUnion, JsonSchema.plain, JsonSchema.Body.kind?]
  . apply iff_of_true hdense
    rcases (blank_of_dataType h).self.exists_kind_or_union with hkind | ⟨list, rfl⟩
    . exact hkind
    . exact (hunion list rfl).elim

theorem namedUnion_iff {members : List (Int8 × Field)} {list : List JsonSchema}
    (h : List.Forall₂ (fun entry member => entry.2.dataType.toJsonSchema = .ok member)
      (sortById members) list)
    : JsonSchema.NamedUnion list ↔ (DataType.union members .dense).DistinctMembers := by
  have hperm := sortById_perm members
  have hkinds : (∀ entry ∈ members, entry.2.dataType.isDenseUnion = false) ↔
      ∀ member ∈ list, ∃ kind, member.body.kind? = some kind := by
    rw [← forall_mem_iff_of_forall₂ h fun _ _ _ hmember => exists_kind_iff hmember]
    simp only [hperm.mem_iff]
  have hnames : (sortById members).map (fun entry => entry.2.dataType.typeName?) =
      (list.map JsonSchema.typeName).map some := by
    rw [List.map_map]
    apply map_eq_map_of_forall₂ h
    intro entry _ member hmember
    rw [DataType.typeName?, hmember]
    rfl
  have hdistinct : (members.map fun entry => entry.2.dataType.typeName?).Nodup ↔
      (list.map JsonSchema.typeName).Nodup := by
    rw [← (hperm.map _).nodup_iff, hnames, List.nodup_map_iff fun _ _ => Option.some.inj]
  rw [DataType.DistinctMembers, hkinds, hdistinct]
  exact ⟨fun h => ⟨h.kinds, h.distinct⟩, fun h => ⟨h.1, h.2⟩⟩

theorem readable_array_iff {item : JsonSchema}
    : (JsonSchema.array item).Readable ↔ item.Readable := by
  refine Everywhere.iff_self_and_children.trans ?_
  exact (and_iff_right trivial).trans List.forall_mem_singleton

theorem readable_columns_iff {columns : Columns}
    : columns.toJsonSchema.Readable ↔ ∀ property ∈ columns.properties, property.2.Readable := by
  refine Everywhere.iff_self_and_children.trans ?_
  rw [subschemas_columns, List.forall_mem_map]
  exact and_iff_right trivial

theorem readable_iff_of_dataType (h : type.toJsonSchema = .ok s)
    : s.Readable ↔ type.Everywhere DataType.DistinctMembers := by
  apply toJsonSchema_induction
    (P := fun type s => s.Readable ↔ type.Everywhere DataType.DistinctMembers) _ _ _ _ h
  . intro type kind hparts hdense _
    apply iff_of_true
    . refine .intro (JsonSchema.Body.readable_of_kind? kind.kind?_body) ?_
      cases kind <;> exact nofun
    . exact .of_children_eq_nil hparts (DataType.distinctMembers_of_not_isDenseUnion hdense)
  . intro type item base hparts hdense hbase
    rw [readable_array_iff, hbase]
    refine Iff.trans ?_ Everywhere.iff_self_and_children.symm
    rw [hparts, List.forall_mem_singleton]
    exact (and_iff_right (DataType.distinctMembers_of_not_isDenseUnion hdense)).symm
  . intro fields properties hproperties _ _
    rw [readable_columns_iff, DataType.Everywhere, Everywhere.iff_self_and_children,
      and_iff_right (DataType.distinctMembers_of_not_isDenseUnion rfl), DataType.parts,
      List.forall_mem_map, forall_mem_iff_of_forall₂ hproperties]
    rintro field _ _ ⟨base, htype, hbase, rfl⟩
    have hblank := (blank_of_dataType htype).self
    exact hbase.symm.trans (JsonSchema.readable_folded_iff hblank field.nullable).symm
  . intro members list hlist
    rw [JsonSchema.Readable, JsonSchema.Everywhere, Everywhere.iff_self_and_children,
      DataType.Everywhere, Everywhere.iff_self_and_children, DataType.parts, List.forall_mem_map]
    apply and_congr
    . exact namedUnion_iff (hlist.imp fun _ _ h => h.1)
    . simp only [← (sortById_perm members).mem_iff]
      exact (forall_mem_iff_of_forall₂ hlist fun _ _ _ h => h.2.symm).symm

theorem blank_and_readable_iff_of_toJsonSchema {columns : Schema}
    (h : columns.toJsonSchema = .ok s)
    : JsonSchema.Everywhere JsonSchema.Body.subschemas JsonSchema.Blank s ∧
      (s.Readable ↔ (DataType.struct columns.fields).Everywhere DataType.DistinctMembers) := by
  rcases columns.wrapped_or_struct with ⟨field, metadata, rfl, hname⟩ | hstruct
  . obtain ⟨base, hbase, rfl⟩ := (toJsonSchema_wrapped hname).mp h
    have hblank := blank_of_dataType hbase
    constructor
    . exact JsonSchema.everywhere_folded hblank (.of_scalar .null) (fun _ => hblank.self.withNull) _
    . rw [JsonSchema.readable_folded_iff hblank.self, readable_iff_of_dataType hbase]
      refine Iff.trans ?_ Everywhere.iff_self_and_children.symm
      rw [and_iff_right (DataType.distinctMembers_of_not_isDenseUnion rfl)]
      exact List.forall_mem_singleton.symm
  . rw [hstruct] at h
    exact ⟨blank_of_dataType h, readable_iff_of_dataType h⟩

end Types

/--
The description of an Arrow schema is read back from its document exactly if the members of its dense
unions have different types and are no unions. Otherwise its document is refused, for the names under
some `type`.
-/
theorem ofJson_toJson_iff_of_toJsonSchema {columns : Schema} {t : JsonSchema}
    (h : columns.toJsonSchema = .ok t)
    : (JsonSchema.ofJson t.toJson = .ok t ↔
        (DataType.struct columns.fields).Everywhere DataType.DistinctMembers) ∧
      (¬(DataType.struct columns.fields).Everywhere DataType.DistinctMembers →
        ∃ path expected, JsonSchema.ofJson t.toJson = .error (.malformed path "type" expected)) := by
  obtain ⟨hblank, hreadable⟩ := blank_and_readable_iff_of_toJsonSchema h
  have hspellable : t.Spellable ↔ t.Readable :=
    ⟨JsonSchema.readable_of_spellable, JsonSchema.spellable_of_readable hblank⟩
  rw [JsonSchema.ofJson_toJson_eq_ok_iff (wellFormed_of_toJsonSchema h).required, hspellable,
    ← hreadable]
  refine ⟨Iff.rfl, fun hunreadable => ?_⟩
  cases hread : JsonSchema.ofJson t.toJson with
  | ok read => exact (hunreadable (JsonSchema.readable_of_exists_ofJson ⟨read, hread⟩)).elim
  | error e =>
    obtain ⟨path, expected, rfl⟩ := JsonSchema.eq_malformed_type_of_toJson hread
    exact ⟨path, expected, rfl⟩

/-!
The two integer types of the union become one.
-/

def valueType : DataType :=
  .union [(1, ⟨"exact", .integer .int64, true, {}⟩), (0, ⟨"count", .integer .uint8, false, {}⟩)]
    .dense

def sensorColumns : Schema where
  fields := [
    ⟨"sensor", .text .largeUtf8, false, {}⟩,
    ⟨"readings", .list ⟨itemField, .struct [⟨"value", valueType, true, {}⟩], true, {}⟩, true, {}⟩]

def sensorDescription : JsonSchema :=
  .plain (.object
    (some [
      ("sensor", .string),
      ("readings", .plain (.union {
        first := .array (.plain (.object
          (some [("value", .plain (.union {
            first := .integer
            second := .integer
            others := [.null] }))])
          none {}))
        second := .null
        others := [] }))])
    (some ["sensor"]) {})

theorem ofJson_toJson_iff_of_toJsonSchema_sensor
    : sensorColumns.toJsonSchema = .ok sensorDescription ∧
      ¬(DataType.struct sensorColumns.fields).Everywhere DataType.DistinctMembers ∧
      ∃ path expected, JsonSchema.ofJson sensorDescription.toJson =
        .error (.malformed path "type" expected) := by
  have hvalue : valueType.toJsonSchema = .ok (.plain (.union ⟨.integer, .integer, []⟩)) :=
    toJsonSchema_union_of_ascending (.swap _ _ _) (by decide) (.cons rfl (.cons rfl .nil))
  have hreading : (DataType.struct [⟨"value", valueType, true, {}⟩]).toJsonSchema = .ok _ :=
    toJsonSchema_struct.mpr ⟨_, .cons ⟨_, hvalue, rfl⟩ .nil, by decide, rfl⟩
  have hreadings : IsColumn ⟨"readings", .list ⟨itemField, _, true, {}⟩, true, {}⟩ _ :=
    ⟨_, toJsonSchema_list.mpr ⟨_, hreading, rfl⟩, rfl⟩
  have h : sensorColumns.toJsonSchema = .ok sensorDescription :=
    toJsonSchema_struct.mpr ⟨_, .cons ⟨_, rfl, rfl⟩ (.cons hreadings .nil), by decide, rfl⟩
  have hne : JsonSchema.ofJson sensorDescription.toJson ≠ .ok sensorDescription := by
    intro h
    cases h
  have hnot := hne ∘ (ofJson_toJson_iff_of_toJsonSchema h).1.mpr
  exact ⟨h, hnot, (ofJson_toJson_iff_of_toJsonSchema h).2 hnot⟩

end Arrow

end SchemaBridge
