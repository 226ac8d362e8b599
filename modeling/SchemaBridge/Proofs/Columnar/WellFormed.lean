import SchemaBridge.Proofs.Columnar.Keeping

/-!
This module contains the proof that the schemas which the conversions are given are well formed,
wherever they come from: read from a document, put together by the constructors, or read from Arrow.
Main statements: `wellFormed_of_ofJson`, `Arrow.wellFormed_of_toJsonSchema`.
-/

namespace SchemaBridge

namespace JsonSchema

variable {s : JsonSchema}

theorem wellFormed_of_ofJson {document : Json} (hdocument : document.distinctNames = true)
    (h : ofJson document = .ok s)
    : s.WellFormed := by
  exact ⟨namesDistinct_of_ofJson hdocument h, requiredDistinct_of_ofJson h⟩

namespace WellFormed

theorem intro (hnames : s.body.NamesDistinct) (hrequired : s.body.RequiredDistinct)
    (hchild : ∀ c ∈ s.body.subschemas, c.WellFormed)
    : s.WellFormed := by
  constructor
  . exact .intro hnames fun c hc => (hchild c hc).names
  . exact .intro hrequired fun c hc => (hchild c hc).required

theorem scalar {kind : Kind} (hkind : s.body.kind? = some kind) (hscalar : kind.isScalar = true)
    : s.WellFormed := by
  obtain ⟨annotations, body⟩ := s
  cases body with
  | untyped => cases hkind
  | union members => cases hkind
  | array items k =>
    cases hkind
    cases hscalar
  | object properties required k =>
    cases hkind
    cases hscalar
  | _ =>
    refine intro trivial trivial ?_
    intro c hc
    cases hc

theorem array {item : JsonSchema} (h : item.WellFormed) : (array item).WellFormed := by
  apply intro (s := JsonSchema.array item) trivial trivial
  intro c hc
  obtain rfl := List.mem_singleton.mp hc
  exact h

theorem union {members : TwoOrMore JsonSchema} (annotations : Annotations)
    (h : ∀ member ∈ members.toList, member.WellFormed)
    : WellFormed ⟨annotations, .union members⟩ := by
  exact intro trivial trivial h

theorem properties {properties : Option (List (String × JsonSchema))}
    {required : Option (List String)} (hnames : DistinctKeys properties)
    (hrequired : ∀ names ∈ required, names.Nodup)
    (hvalues : ∀ c ∈ namedSubschemas properties, c.WellFormed)
    : (plain (.object properties required {})).WellFormed := by
  apply intro
  . exact ⟨hnames, distinctKeys_none, distinctKeys_none, distinctKeys_none⟩
  . exact hrequired
  . intro c hc
    rcases List.mem_append.mp hc with hc | hc
    . exact hvalues c hc
    . cases hc

theorem columns {columns : Arrow.Columns} (hnames : columns.properties.names.Nodup)
    (hrequired : columns.required.Nodup)
    (hvalues : ∀ property ∈ columns.properties, property.2.WellFormed)
    : columns.toJsonSchema.WellFormed := by
  rw [toJsonSchema_columns]
  apply properties
  . intro entries hentries
    rw [eq_of_present hentries]
    exact hnames
  . intro names hlisted
    rw [eq_of_present hlisted]
    exact hrequired
  . rw [namedSubschemas_present, List.forall_mem_map]
    exact hvalues

theorem object {properties : List (String × JsonSchema)}
    (h : ∀ property ∈ properties, property.2.WellFormed)
    : (object properties).WellFormed := by
  obtain ⟨hnames, hmem⟩ := Members.ofList_spec properties
  apply WellFormed.properties
  . rintro entries ⟨⟩
    exact hnames
  . intro names hlisted
    cases hlisted
  . rw [namedSubschemas, List.forall_mem_map]
    exact fun property hproperty => h property (hmem property hproperty)

theorem folded (h : s.WellFormed) (nullable : Bool) : (s.folded nullable).WellFormed := by
  obtain ⟨members, hmembers⟩ := exists_union_withNull s
  constructor
  . apply everywhere_folded h.names trivial
    intro _
    rw [hmembers]
    trivial
  . apply everywhere_folded h.required trivial
    intro _
    rw [hmembers]
    trivial

end WellFormed

end JsonSchema

namespace Arrow

theorem names_eq_of_isColumn {fields : List Field} {properties : List (String × JsonSchema)}
    (h : List.Forall₂ IsColumn fields properties)
    : fields.map FieldOf.name = Members.names properties := by
  induction h with
  | nil => rfl
  | cons hcolumn _ ih =>
    obtain ⟨base, -, rfl⟩ := hcolumn
    rw [List.map_cons, ih]
    rfl

/-!
The types of the fields in a type are smaller than the type.
-/

theorem sizeOf_dataType_lt (field : Field) : sizeOf field.dataType < sizeOf field := by
  cases field
  simp only [FieldOf.mk.sizeOf_spec]
  omega

theorem sizeOf_item_lt (item : Field)
    : sizeOf item.dataType < sizeOf (DataType.list item) ∧
      sizeOf item.dataType < sizeOf (DataType.largeList item) := by
  have hlt := sizeOf_dataType_lt item
  simp only [DataType.list.sizeOf_spec, DataType.largeList.sizeOf_spec]
  omega

theorem sizeOf_field_lt {fields : List Field} {field : Field} (h : field ∈ fields)
    : sizeOf field.dataType < sizeOf (DataType.struct fields) := by
  have hlt := sizeOf_dataType_lt field
  have hmem := List.sizeOf_lt_of_mem h
  simp only [DataType.struct.sizeOf_spec]
  omega

theorem sizeOf_member_lt {members : List (Int8 × Field)} {entry : Int8 × Field} {mode : UnionMode}
    (h : entry ∈ members)
    : sizeOf entry.2.dataType < sizeOf (DataType.union members mode) := by
  obtain ⟨id, field⟩ := entry
  have hlt := sizeOf_dataType_lt field
  have hmem := List.sizeOf_lt_of_mem h
  simp only [DataType.union.sizeOf_spec, Prod.mk.sizeOf_spec] at *
  omega

/--
What passes from the types in a type to the type itself, and to the schema that it describes, holds
of all types that describe a schema.
-/
theorem toJsonSchema_induction {P : DataType → JsonSchema → Prop}
    (scalar : ∀ (type : DataType) (kind : JsonSchema.Kind), type.parts = [] →
      type.isDenseUnion = false → kind.isScalar = true → P type (.plain kind.body))
    (list : ∀ (type : DataType) (item : Field) (base : JsonSchema), type.parts = [item.dataType] →
      type.isDenseUnion = false → P item.dataType base → P type (.array base))
    (struct : ∀ (fields : List Field) (properties : List (String × JsonSchema)),
      List.Forall₂ (fun field property => ∃ base, field.dataType.toJsonSchema = .ok base ∧
        P field.dataType base ∧ property = (field.name, base.folded field.nullable))
        fields properties →
      (Members.names properties).Nodup → fields.map FieldOf.name = Members.names properties →
      P (.struct fields) (Columns.toJsonSchema ⟨properties, requiredColumns fields⟩))
    (union : ∀ (members : List (Int8 × Field)) (list : JsonSchema.TwoOrMore JsonSchema),
      List.Forall₂ (fun entry member => entry.2.dataType.toJsonSchema = .ok member ∧
        P entry.2.dataType member) (sortById members) list.toList →
      P (.union members .dense) (.plain (.union list)))
    {type : DataType} {s : JsonSchema} (h : type.toJsonSchema = .ok s)
    : P type s := by
  -- The types in a type come inside fields, so that the induction is on the size.
  induction hsize : sizeOf type using Nat.strongRecOn generalizing type s with
  | ind size ih =>
    subst hsize
    cases type with
    | null =>
      cases h
      exact scalar _ .null rfl rfl rfl
    | boolean =>
      cases h
      exact scalar _ .boolean rfl rfl rfl
    | integer type =>
      cases h
      exact scalar _ .integer rfl rfl rfl
    | float type =>
      cases h
      exact scalar _ .number rfl rfl rfl
    | text type =>
      cases h
      exact scalar _ .string rfl rfl rfl
    | list item =>
      obtain ⟨base, hbase, rfl⟩ := toJsonSchema_list.mp h
      exact list _ item base rfl rfl (ih _ (sizeOf_item_lt item).1 hbase rfl)
    | largeList item =>
      obtain ⟨base, hbase, rfl⟩ := toJsonSchema_list.mp h
      exact list _ item base rfl rfl (ih _ (sizeOf_item_lt item).2 hbase rfl)
    | struct fields =>
      obtain ⟨properties, hproperties, hdistinct, rfl⟩ := toJsonSchema_struct.mp h
      apply struct fields properties _ hdistinct (names_eq_of_isColumn hproperties)
      have hmem := (List.forall₂_and_left (p := (· ∈ fields)) fields properties).mpr
        ⟨fun _ h => h, hproperties⟩
      apply hmem.imp
      rintro field _ ⟨hfield, base, hbase, rfl⟩
      exact ⟨base, hbase, ih _ (sizeOf_field_lt hfield) hbase rfl, rfl⟩
    | union members mode =>
      cases mode with
      | sparse => cases h
      | dense =>
        obtain ⟨list, hlist, rfl⟩ := toJsonSchema_union.mp h
        apply union
        have hmem := (List.forall₂_and_left (p := (· ∈ sortById members)) _ list.toList).mpr
          ⟨fun _ h => h, hlist⟩
        apply hmem.imp
        rintro entry member ⟨hentry, hmember⟩
        have hentry := (sortById_perm members).mem_iff.mp hentry
        exact ⟨hmember, ih _ (sizeOf_member_lt hentry) hmember rfl⟩
    | _ => cases h

theorem wellFormed_of_dataType {type : DataType} {s : JsonSchema} (h : type.toJsonSchema = .ok s)
    : s.WellFormed := by
  apply toJsonSchema_induction (P := fun _ s => s.WellFormed) _ _ _ _ h
  . intro _ kind _ _ hscalar
    exact .scalar (JsonSchema.Kind.kind?_body kind) hscalar
  . intro _ _ _ _ _ hbase
    exact .array hbase
  . intro fields properties hproperties hdistinct hnames
    apply JsonSchema.WellFormed.columns hdistinct
    . rw [← hnames] at hdistinct
      exact nodup_requiredColumns hdistinct
    . intro property hproperty
      obtain ⟨field, -, base, -, hbase, rfl⟩ := exists_left_of_forall₂ hproperties hproperty
      exact hbase.folded field.nullable
  . intro members list hlist
    apply JsonSchema.WellFormed.union
    intro member hmember
    obtain ⟨entry, -, -, h⟩ := exists_left_of_forall₂ hlist hmember
    exact h

/--
The schema that an Arrow schema describes is well formed.
-/
theorem wellFormed_of_toJsonSchema {columns : Schema} {s : JsonSchema}
    (h : columns.toJsonSchema = .ok s)
    : s.WellFormed := by
  rcases columns.wrapped_or_struct with ⟨field, metadata, rfl, hname⟩ | hstruct
  . obtain ⟨base, hbase, rfl⟩ := (toJsonSchema_wrapped hname).mp h
    exact (wellFormed_of_dataType hbase).folded field.nullable
  . rw [hstruct] at h
    exact wellFormed_of_dataType h

end Arrow

end SchemaBridge
