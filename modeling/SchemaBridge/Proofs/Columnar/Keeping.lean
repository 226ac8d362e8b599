import SchemaBridge.Proofs.Columnar.Cycle

/-!
This module contains the Arrow types that come back unchanged from the schema they describe, among
those that schemas are converted to: nullability has to be kept in every list and in every column.
Main definition: `KeepsNullability`. Main statement: `toDataType_columnForm_iff`.
-/

namespace SchemaBridge

namespace Arrow

namespace DataType

/--
The types that stand directly in a type.
-/
def parts : DataType → List DataType
  | .list item | .listView item | .fixedSizeList item _ | .largeList item
  | .largeListView item => [item.dataType]
  | .struct fields => fields.map (·.dataType)
  | .union members _ => members.map (·.2.dataType)
  | .dictionary key value => [key, value]
  | .map entries _ => [entries.dataType]
  | .runEndEncoded runEnds values => [runEnds.dataType, values.dataType]
  | _ => []

/--
`P` holds of a type and of all types in it.
-/
abbrev Everywhere (P : DataType → Prop) (type : DataType) : Prop :=
  SchemaBridge.Everywhere parts P type

def isNull : DataType → Bool
  | .null => true
  | _ => false

def isDenseUnion : DataType → Bool
  | .union _ .dense => true
  | _ => false

/--
Whether the values of a type include `null`: it is the null type, or a dense union with that member.
-/
def includesNull : DataType → Bool
  | .null => true
  | .union members .dense => members.any fun entry => entry.2.dataType.isNull
  | _ => false

/--
A list keeps the nullability of its items only if their type includes `null`.
-/
def KeepsItems : DataType → Prop
  | .list item | .listView item | .fixedSizeList item _ | .largeList item
  | .largeListView item => item.nullable = true → item.dataType.includesNull = true
  | _ => True

/--
A column keeps its nullability unless this becomes another member of a union.
-/
def KeepsColumn (type : DataType) (nullable : Bool) : Prop :=
  nullable = true → type.isDenseUnion = true → type.includesNull = true

def KeepsColumns : DataType → Prop
  | .struct fields => ∀ field ∈ fields, field.dataType.KeepsColumn field.nullable
  | _ => True

end DataType

section Types

variable {type : DataType} {s : JsonSchema}

/--
A dense union becomes the union of what its members become, and nothing else becomes a union.
-/
theorem toJsonSchema_cases (h : type.toJsonSchema = .ok s)
    : (∃ members list, type = .union members .dense ∧ s = .plain (.union list) ∧
        List.Forall₂ (fun entry member => entry.2.dataType.toJsonSchema = .ok member)
          (sortById members) list.toList) ∨
      type.isDenseUnion = false ∧ (∀ list, s.body ≠ .union list) ∧ s.isNull = type.isNull := by
  cases type with
  | union members mode =>
    cases mode with
    | sparse => cases h
    | dense =>
      obtain ⟨list, hlist, rfl⟩ := toJsonSchema_union.mp h
      exact .inl ⟨members, list, rfl, rfl, hlist⟩
  | list item =>
    obtain ⟨base, -, rfl⟩ := toJsonSchema_list.mp h
    exact .inr ⟨rfl, nofun, rfl⟩
  | largeList item =>
    obtain ⟨base, -, rfl⟩ := toJsonSchema_list.mp h
    exact .inr ⟨rfl, nofun, rfl⟩
  | struct fields =>
    obtain ⟨properties, -, -, rfl⟩ := toJsonSchema_struct.mp h
    exact .inr ⟨rfl, nofun, rfl⟩
  | _ =>
    cases h <;> exact .inr ⟨rfl, nofun, rfl⟩

theorem isNull_of_toJsonSchema (h : type.toJsonSchema = .ok s) : s.isNull = type.isNull := by
  rcases toJsonSchema_cases h with ⟨members, list, rfl, rfl, -⟩ | ⟨-, -, hnull⟩
  . rfl
  . exact hnull

theorem isNullable_of_toJsonSchema (h : type.toJsonSchema = .ok s)
    : s.isNullable = type.includesNull := by
  rcases toJsonSchema_cases h with ⟨members, list, rfl, rfl, hlist⟩ | ⟨hdense, hunion, hnull⟩
  . have hnulls : (sortById members).map (fun entry => entry.2.dataType.isNull) =
        list.toList.map JsonSchema.isNull :=
      map_eq_map_of_forall₂ hlist fun _ _ _ hmember => (isNull_of_toJsonSchema hmember).symm
    have hany := congrArg (List.any · id) hnulls
    rw [List.any_map, List.any_map] at hany
    exact hany.symm.trans ((sortById_perm members).any_eq)
  . rw [JsonSchema.isNullable_eq_isNull hunion, hnull]
    cases type with
    | union members mode =>
      cases mode with
      | sparse => rfl
      | dense => cases hdense
    | _ => rfl

end Types

end Arrow

namespace JsonSchema

open Arrow (DataType Field)

variable {s : JsonSchema} {type : DataType}

/--
A type that is no union stays the same when `null` is added to it: only the column is nullable.
-/
theorem toDataType_folded_of_not_union (hunion : ∀ members, s.body ≠ .union members)
    (nullable : Bool)
    : (s.folded nullable).toDataType = s.toDataType := by
  cases hfold : nullable && !s.isNullable with
  | false => rw [folded_eq_self hfold]
  | true =>
    obtain ⟨rfl, hnullable⟩ := Bool.and_eq_true_iff.mp hfold
    rw [Bool.not_eq_true'] at hnullable
    have hnull : s.isNull = false := by rw [← isNullable_eq_isNull hunion, hnullable]
    rw [folded_true_of_not_isNullable hnullable, withNull_of_not_union hunion, plain,
      toDataType_union_of_side (nullableSide?_null hnull)]
    rfl

/--
Nullability of a column is kept if its type includes `null`, or if it is no union and thus can become
a union with `null`.
-/
theorem toDataType_folded_iff (hside : s.side? = none) (htype : type.toJsonSchema = .ok s)
    (nullable : Bool)
    : (s.folded nullable).toDataType = .ok type ↔
      s.toDataType = .ok type ∧ type.KeepsColumn nullable := by
  rw [DataType.KeepsColumn, ← Arrow.isNullable_of_toJsonSchema htype]
  cases nullable with
  | false => simp
  | true =>
    cases hnullable : s.isNullable with
    | true => simp [folded_of_isNullable hnullable]
    | false =>
      rw [folded_true_of_not_isNullable hnullable]
      rcases Arrow.toJsonSchema_cases htype with
        ⟨fields, members, rfl, rfl, hmembers⟩ | ⟨hdense, hunion, -⟩
      . -- The union would have more members than before.
        have hlength := hmembers.length_eq
        rw [(Arrow.sortById_perm fields).length_eq] at hlength
        apply iff_of_false
        . intro h
          rw [plain, withNull, toDataType_union (members.nullableSide?_push null)] at h
          obtain ⟨-, fields', hfields, heq⟩ := h
          obtain rfl := (DataType.union.inj heq).1
          have hlength' := hfields.length_eq
          simp only [List.length_zipIdx, TwoOrMore.toList_push, List.length_append,
            List.length_singleton] at hlength'
          omega
        . simp [DataType.isDenseUnion]
      . rw [← folded_true_of_not_isNullable hnullable, toDataType_folded_of_not_union hunion]
        simp [hdense]

/--
A type that keeps nullability in the lists and the columns that it is made of.
-/
def KeepsNullability (type : DataType) : Prop :=
  type.Everywhere fun part => part.KeepsItems ∧ part.KeepsColumns

theorem keeps_list_iff {item : Field}
    : KeepsNullability (.list item) ↔ KeepsNullability item.dataType ∧
      (item.nullable = true → item.dataType.includesNull = true) := by
  rw [KeepsNullability, DataType.Everywhere, Everywhere.iff_self_and_children]
  constructor
  . rintro ⟨⟨hitem, -⟩, hparts⟩
    exact ⟨hparts _ (List.mem_singleton_self _), hitem⟩
  . rintro ⟨hpart, hitem⟩
    exact ⟨⟨hitem, trivial⟩, List.forall_mem_singleton.mpr hpart⟩

theorem keeps_struct_iff {fields : List Field}
    : KeepsNullability (.struct fields) ↔ ∀ field ∈ fields,
      KeepsNullability field.dataType ∧ field.dataType.KeepsColumn field.nullable := by
  rw [KeepsNullability, DataType.Everywhere, Everywhere.iff_self_and_children]
  constructor
  . rintro ⟨⟨-, hcolumns⟩, hparts⟩ field hfield
    exact ⟨hparts _ (List.mem_map_of_mem hfield), hcolumns field hfield⟩
  . intro h
    exact ⟨⟨trivial, fun field hfield => (h field hfield).2⟩,
      List.forall_mem_map.mpr fun field hfield => (h field hfield).1⟩

theorem keeps_union_iff {members : List (Int8 × Field)}
    : KeepsNullability (.union members .dense) ↔
      ∀ entry ∈ members, KeepsNullability entry.2.dataType := by
  rw [KeepsNullability, DataType.Everywhere, Everywhere.iff_self_and_children]
  constructor
  . rintro ⟨-, hparts⟩
    exact List.forall_mem_map.mp hparts
  . intro h
    exact ⟨⟨trivial, trivial⟩, List.forall_mem_map.mpr h⟩

theorem keeps_scalar {kind : Kind} (hscalar : kind.isScalar = true)
    : KeepsNullability kind.columnType := by
  cases kind with
  | array => cases hscalar
  | object => cases hscalar
  | _ => exact .of_children_eq_nil rfl ⟨trivial, trivial⟩

theorem toDataType_present {properties : List (String × JsonSchema)}
    {required : Option (List String)} {fields : List Field}
    : (plain (.object (present properties) required {})).toDataType = .ok (.struct fields) ↔
      List.Forall₂ (IsPropertyField required) properties fields := by
  unfold plain
  cases properties with
  | nil =>
    have hnone : present ([] : List (String × JsonSchema)) = none := rfl
    rw [hnone, toDataType_object_none, List.forall₂_nil_left_iff, DataType.struct.injEq]
  | cons property rest =>
    rw [present_of_ne_nil (List.cons_ne_nil property rest), toDataType_object_some]
    simp

theorem exists_struct_of_present {properties : List (String × JsonSchema)}
    {required : Option (List String)}
    (h : (plain (.object (present properties) required {})).toDataType = .ok type)
    : ∃ fields, type = .struct fields ∧
      List.Forall₂ (IsPropertyField required) properties fields := by
  obtain ⟨fields, rfl⟩ : ∃ fields, type = .struct fields := by
    unfold plain at h
    cases properties with
    | nil => exact ⟨[], toDataType_object_none.mp h⟩
    | cons property rest =>
      rw [present_of_ne_nil (List.cons_ne_nil property rest)] at h
      obtain ⟨fields, -, rfl⟩ := toDataType_object_some.mp h
      exact ⟨fields, rfl⟩
  exact ⟨fields, rfl, toDataType_present.mp h⟩

theorem isPropertyField_columnProperty_iff {required : Option (List String)}
    {properties : List (String × JsonSchema)} (hnames : (Members.names properties).Nodup)
    {property : String × JsonSchema} (hproperty : property ∈ properties)
    (hvalue : property.2.NamesDistinct) {field : Field}
    (hfield : IsPropertyField required property field)
    : IsPropertyField (present (mandatory required properties)) (columnProperty required property)
        field ↔
      property.2.columnForm.toDataType = .ok field.dataType ∧
        field.dataType.KeepsColumn field.nullable := by
  obtain ⟨type, htype, rfl⟩ := hfield
  have hform := toJsonSchema_of_toDataType hvalue htype
  rw [← toDataType_folded_iff (side?_columnForm property.2) hform]
  unfold IsPropertyField
  rw [optional_columnProperty hnames hproperty]
  constructor
  . rintro ⟨type', htype', heq⟩
    obtain rfl : type = type' := (Arrow.FieldOf.mk.inj heq).2.1
    exact htype'
  . intro htype'
    exact ⟨type, htype', rfl⟩

theorem isMemberField_columnForm_iff {place : JsonSchema × Nat} (hside : place.1.side? = none)
    {entry : Int8 × Field} (hentry : IsMemberField place entry)
    : IsMemberField (place.1.columnForm, place.2) entry ↔
      place.1.columnForm.toDataType = .ok entry.2.dataType := by
  obtain ⟨type, htype, rfl⟩ := hentry
  unfold IsMemberField
  rw [typeName_columnForm hside, isNullable_columnForm hside]
  constructor
  . rintro ⟨type', htype', heq⟩
    obtain rfl : type = type' := (Arrow.FieldOf.mk.inj (Prod.mk.inj heq).2).2.1
    exact htype'
  . intro htype'
    exact ⟨type, htype', rfl⟩

theorem memberFields_columnForm_iff {members : TwoOrMore JsonSchema} {fields : List (Int8 × Field)}
    (hfields : List.Forall₂ IsMemberField members.toList.zipIdx fields)
    (hside : ∀ member ∈ members.toList, member.side? = none)
    (hform : ∀ member ∈ members.toList, ∀ type, member.toDataType = .ok type →
      (member.columnForm.toDataType = .ok type ↔ KeepsNullability type))
    : List.Forall₂ IsMemberField (members.map columnForm).toList.zipIdx fields ↔
      KeepsNullability (.union fields .dense) := by
  rw [keeps_union_iff, TwoOrMore.toList_map, List.zipIdx_map, List.forall₂_map_left_iff]
  apply forall₂_iff_of_forall₂ hfields
  intro place hplace entry hentry
  have hmem : place.1 ∈ members.toList := List.fst_mem_of_mem_zipIdx hplace
  refine (isMemberField_columnForm_iff (hside place.1 hmem) hentry).trans ?_
  obtain ⟨type, htype, rfl⟩ := hentry
  exact hform place.1 hmem type htype

theorem toDataType_columnForm_scalar_iff {kind : Kind} (hkind : s.body.kind? = some kind)
    (hscalar : kind.isScalar = true) (h : s.toDataType = .ok type)
    : s.columnForm.toDataType = .ok type ↔ KeepsNullability type := by
  rw [toDataType_scalar hkind hscalar] at h
  obtain rfl := Except.ok.inj h
  have hbody : (plain kind.body).body.kind? = some kind := by cases kind <;> rfl
  rw [columnForm_of_scalar hkind hscalar]
  exact iff_of_true (toDataType_scalar hbody hscalar) (keeps_scalar hscalar)

theorem toDataType_columnForm_array_iff {item : JsonSchema} {itemType : DataType}
    : (array item.columnForm).toDataType =
        .ok (.list ⟨Arrow.itemField, itemType, item.isNullable, {}⟩) ↔
      item.columnForm.toDataType = .ok itemType ∧
        (item.isNullable = true → item.columnForm.isNullable = true) := by
  rw [array, plain, toDataType_array]
  constructor
  . rintro ⟨form, formType, hform, htype, heq⟩
    obtain rfl := BoolOr.schema.inj (Option.some.inj hform)
    obtain ⟨-, rfl, hnullable, -⟩ := Arrow.FieldOf.mk.inj (DataType.list.inj heq)
    exact ⟨htype, fun h => hnullable.symm.trans h⟩
  . rintro ⟨htype, hnullable⟩
    have heq : item.isNullable = item.columnForm.isNullable :=
      Bool.eq_iff_iff.mpr ⟨hnullable, isNullable_of_columnForm⟩
    exact ⟨_, itemType, rfl, htype, by rw [heq]⟩

/--
The form of a schema has the type of the schema exactly if the type keeps nullability.
-/
theorem toDataType_columnForm_iff (hspellable : s.Spellable) (hnames : s.NamesDistinct)
    (h : s.toDataType = .ok type)
    : s.columnForm.toDataType = .ok type ↔ KeepsNullability type := by
  induction s using JsonSchema.induction generalizing type with
  | step annotations body ih =>
    have hpart {c : JsonSchema} (hc : c ∈ body.parts) {type : DataType}
        (h : c.toDataType = .ok type)
        : c.columnForm.toDataType = .ok type ↔ KeepsNullability type := by
      have hmem := Body.parts_subset_subschemas _ hc
      exact ih c hmem (hspellable.child hmem) (hnames.child hmem) h
    cases body with
    | untyped => exact (toDataType_untyped.mp h).elim
    | array items k =>
      obtain ⟨item, itemType, rfl, hitem, rfl⟩ := toDataType_array.mp h
      have hmem := Body.item_mem_parts item k
      have hchild := Body.parts_subset_subschemas _ hmem
      have hform := toJsonSchema_of_toDataType (hnames.child hchild) hitem
      rw [columnForm, keeps_list_iff, ← hpart hmem hitem, ← Arrow.isNullable_of_toJsonSchema hform]
      exact toDataType_columnForm_array_iff
    | object properties required k =>
      cases properties with
      | none =>
        obtain rfl := toDataType_object_none.mp h
        apply iff_of_true h
        rw [keeps_struct_iff]
        simp only [List.not_mem_nil, false_implies, implies_true]
      | some properties =>
        obtain ⟨fields, hfields, rfl⟩ := toDataType_object_some.mp h
        have hdistinct : (Members.names properties).Nodup := hnames.self.1 properties rfl
        rw [columnForm_object, toJsonSchema_columns, toDataType_present, keeps_struct_iff,
          List.forall₂_map_left_iff]
        apply forall₂_iff_of_forall₂ hfields
        intro property hproperty field hfield
        have hmem := Body.property_mem_parts hproperty required k
        have hchild := Body.parts_subset_subschemas _ hmem
        rw [isPropertyField_columnProperty_iff hdistinct hproperty (hnames.child hchild) hfield]
        obtain ⟨type, htype, rfl⟩ := hfield
        rw [hpart hmem htype]
    | union members =>
      cases hside : members.nullableSide? with
      | some side =>
        rw [toDataType_union_of_side hside] at h
        rw [columnForm_union_of_side hside]
        exact hpart (members.get_mem side) h
      | none =>
        obtain ⟨hlength, fields, hfields, rfl⟩ := (toDataType_union hside).mp h
        have hside' := (nullableSide?_map_columnForm members).trans hside
        have hsides : ∀ member ∈ members.toList, member.side? = none := by
          intro member hmember
          obtain ⟨kind, hkind⟩ := hspellable.self.kinds member hmember
          exact side?_of_not_union (Body.ne_union_of_kind? hkind)
        rw [columnForm_union hside, plain, toDataType_union hside',
          ← memberFields_columnForm_iff hfields hsides fun member hmember _ => hpart hmember]
        constructor
        . rintro ⟨-, fields', hfields', heq⟩
          obtain rfl := (DataType.union.inj heq).1
          exact hfields'
        . intro hfields'
          rw [TwoOrMore.toList_map, List.length_map]
          exact ⟨hlength, fields, hfields', rfl⟩
    | _ => exact toDataType_columnForm_scalar_iff rfl rfl h

end JsonSchema

end SchemaBridge
