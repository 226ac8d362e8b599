import SchemaBridge.Columnar.OfJsonSchema
import SchemaBridge.Proofs.JsonSchema.Kinds
import SchemaBridge.Proofs.Success

/-!
This module contains what it means that a schema is converted to Arrow: one statement for each kind
of body, and for the fields of properties and of union members.
-/

namespace SchemaBridge

namespace JsonSchema

open Arrow (DataType Field FieldOf rootField itemField)

/--
Whether the column of a property is nullable: the property is optional, or its type includes `null`.
-/
def optional (required : Option (List String)) (property : String × JsonSchema) : Bool :=
  !requires required property.1 || property.2.isNullable

/--
The field of a property, in an object whose `required` keyword is `required`.
-/
def IsPropertyField (required : Option (List String)) (property : String × JsonSchema)
    (field : Field) : Prop :=
  ∃ type, property.2.toDataType = .ok type ∧
    field = ⟨property.1, type, optional required property, {}⟩

/--
The field of a union member with its type identifier, which is the place of the member.
-/
def IsMemberField (place : JsonSchema × Nat) (entry : Int8 × Field) : Prop :=
  ∃ type, place.1.toDataType = .ok type ∧
    entry = (Int8.ofNat place.2, ⟨place.1.typeName, type, place.1.isNullable, {}⟩)

theorem propertyFields_eq_ok_iff {required : Option (List String)}
    {properties : List (String × JsonSchema)} {fields : List Field}
    : (propertyFields required properties : Except SchemaError (List Field)) = .ok fields ↔
      List.Forall₂ (IsPropertyField required) properties fields := by
  induction properties generalizing fields with
  | nil =>
    rw [propertyFields, Success.pure_eq_ok_iff, List.forall₂_nil_left_iff, eq_comm]
  | cons property rest ih =>
    obtain ⟨name, value⟩ := property
    simp only [propertyFields, Success.bind_eq_ok_iff, Success.pure_eq_ok_iff, ih,
      List.forall₂_cons_left_iff]
    constructor
    . rintro ⟨type, htype, rest, hrest, rfl⟩
      exact ⟨_, rest, ⟨type, htype, rfl⟩, hrest, rfl⟩
    . rintro ⟨_, rest, ⟨type, htype, rfl⟩, hrest, rfl⟩
      exact ⟨type, htype, rest, hrest, rfl⟩

theorem memberFields_eq_ok_iff {total ordinal : Nat} {members : List JsonSchema}
    {fields : List (Int8 × Field)} (hordinal : ordinal ≤ unionLimit)
    : (memberFields total ordinal members : Except SchemaError (List (Int8 × Field))) = .ok fields ↔
      ordinal + members.length ≤ unionLimit ∧
        List.Forall₂ IsMemberField (members.zipIdx ordinal) fields := by
  induction members generalizing ordinal fields with
  | nil =>
    rw [memberFields, Success.pure_eq_ok_iff, List.zipIdx_nil, List.forall₂_nil_left_iff]
    simp [hordinal, eq_comm]
  | cons member rest ih =>
    unfold memberFields
    -- A member beyond the limit is refused before its type is looked at.
    by_cases hlimit : unionLimit ≤ ordinal
    . simp only [if_pos hlimit, Success.bind_eq_ok_iff, Success.throw_eq_ok_iff, false_and,
        exists_false, false_iff, List.length_cons]
      rintro ⟨hlength, -⟩
      omega
    . simp only [if_neg hlimit, Success.bind_eq_ok_iff, Success.pure_eq_ok_iff,
        ih (Nat.lt_of_not_le hlimit), List.zipIdx_cons, List.forall₂_cons_left_iff,
        List.length_cons]
      constructor
      . rintro ⟨type, htype, rest, ⟨hlength, hrest⟩, rfl⟩
        exact ⟨by omega, _, rest, ⟨type, htype, rfl⟩, hrest, rfl⟩
      . rintro ⟨hlength, _, rest, ⟨type, htype, rfl⟩, hrest, rfl⟩
        exact ⟨type, htype, rest, ⟨by omega, hrest⟩, rfl⟩

section Types

variable {annotations : Annotations} {type : DataType}

theorem toDataType_untyped : toDataType ⟨annotations, .untyped⟩ = .ok type ↔ False := by
  rw [toDataType, toDataTypeM, Success.throw_eq_ok_iff]

/--
The Arrow type of the values of a type without keywords. It is only asked for scalar types.
-/
def Kind.columnType : Kind → DataType
  | .null => .null
  | .boolean => .boolean
  | .integer => .integer .int64
  | .number => .float .float64
  | .string => .text .utf8
  | .array | .object => .struct []

theorem toDataType_scalar {s : JsonSchema} {kind : Kind} (hkind : s.body.kind? = some kind)
    (hscalar : kind.isScalar = true)
    : s.toDataType = .ok kind.columnType := by
  obtain ⟨annotations, body⟩ := s
  cases body with
  | untyped => cases hkind
  | union members => cases hkind
  | array items k =>
    cases hkind
    cases hscalar
  | object properties required k =>
    cases hkind
    cases hscalar
  | _ =>
    cases hkind
    rfl

theorem toDataType_array {items : Option (BoolOr JsonSchema)} {k : ArrayKeywords JsonSchema}
    : toDataType ⟨annotations, .array items k⟩ = .ok type ↔
      ∃ item itemType, items = some (.schema item) ∧ item.toDataType = .ok itemType ∧
        type = .list ⟨itemField, itemType, item.isNullable, {}⟩ := by
  unfold toDataType
  rcases items with _ | _ | item
  . simp [toDataTypeM, Success.throw_eq_ok_iff]
  . simp [toDataTypeM, Success.throw_eq_ok_iff]
  . simp only [toDataTypeM, Success.bind_eq_ok_iff, Success.pure_eq_ok_iff, Option.some.injEq,
      BoolOr.schema.injEq]
    constructor
    . rintro ⟨itemType, hitem, rfl⟩
      exact ⟨item, itemType, rfl, hitem, rfl⟩
    . rintro ⟨_, itemType, rfl, hitem, rfl⟩
      exact ⟨itemType, hitem, rfl⟩

theorem toDataType_object_none {required : Option (List String)} {k : ObjectKeywords JsonSchema}
    : toDataType ⟨annotations, .object none required k⟩ = .ok type ↔ type = .struct [] := by
  rw [toDataType, toDataTypeM, Success.pure_eq_ok_iff, eq_comm]

theorem toDataType_object_some {properties : List (String × JsonSchema)}
    {required : Option (List String)} {k : ObjectKeywords JsonSchema}
    : toDataType ⟨annotations, .object (some properties) required k⟩ = .ok type ↔
      ∃ fields, List.Forall₂ (IsPropertyField required) properties fields ∧
        type = .struct fields := by
  simp only [toDataType, toDataTypeM, Success.map_eq_ok_iff, propertyFields_eq_ok_iff,
    @eq_comm _ type]

theorem toDataType_union_of_side {members : TwoOrMore JsonSchema} {side : NullableSide}
    (hside : members.nullableSide? = some side)
    : toDataType ⟨annotations, .union members⟩ = (members.get side).toDataType := by
  obtain ⟨first, second, others⟩ := members
  unfold toDataType
  rw [toDataTypeM, hside]
  cases side <;> rfl

theorem toDataType_union_eq {members : TwoOrMore JsonSchema} (hside : members.nullableSide? = none)
    : toDataType ⟨annotations, .union members⟩ =
      (memberFields members.toList.length 0 members.toList :
        Except SchemaError (List (Int8 × Field))) >>= fun fields => pure (.union fields .dense) := by
  obtain ⟨first, second, others⟩ := members
  -- The first two members are below every limit, so that no check is needed for them.
  have hfirst : ¬ unionLimit ≤ 0 := by decide
  have hsecond : ¬ unionLimit ≤ 0 + 1 := by decide
  unfold toDataType
  simp only [toDataTypeM, hside, TwoOrMore.toList, memberFields, if_neg hfirst, if_neg hsecond,
    bind_assoc, pure_bind]
  rfl

theorem toDataType_union {members : TwoOrMore JsonSchema} (hside : members.nullableSide? = none)
    : toDataType ⟨annotations, .union members⟩ = .ok type ↔
      members.toList.length ≤ unionLimit ∧
        ∃ fields, List.Forall₂ IsMemberField members.toList.zipIdx fields ∧
          type = .union fields .dense := by
  rw [toDataType_union_eq hside]
  simp only [Success.bind_eq_ok_iff, Success.pure_eq_ok_iff, memberFields_eq_ok_iff (Nat.zero_le _),
    Nat.zero_add, and_assoc, exists_and_left, @eq_comm _ type]

end Types

section Columns

variable {annotations : Annotations} {properties : List (String × JsonSchema)}
  {required : Option (List String)} {k : ObjectKeywords JsonSchema}

theorem toColumnar_object_eq (h : looksWrapped properties = false)
    : toColumnar ⟨annotations, .object (some properties) required k⟩ =
      (propertyFields required properties : Except SchemaError (List Field)) >>= fun fields =>
        pure ⟨fields, []⟩ := by
  simp only [toColumnar, toColumnarM, h, Bool.false_eq_true, if_false]
  rfl

theorem toColumnar_object {columns : Arrow.Schema} (h : looksWrapped properties = false)
    : toColumnar ⟨annotations, .object (some properties) required k⟩ = .ok columns ↔
      ∃ fields, List.Forall₂ (IsPropertyField required) properties fields ∧
        columns = ⟨fields, []⟩ := by
  simp only [toColumnar_object_eq h, Success.bind_eq_ok_iff, Success.pure_eq_ok_iff,
    propertyFields_eq_ok_iff, @eq_comm _ columns]

end Columns

def Body.unwrapped : Body JsonSchema → Bool
  | .object (some properties) _ _ => !looksWrapped properties
  | _ => false

theorem toColumnar_wrapped_eq {s : JsonSchema} (h : s.body.unwrapped = false)
    : s.toColumnar =
      s.toDataType >>= fun type => pure ⟨[⟨rootField, type, s.isNullable, {}⟩], []⟩ := by
  obtain ⟨annotations, body⟩ := s
  cases body with
  | object properties required k =>
    cases properties with
    | none => rfl
    | some properties =>
      have hwrapped : looksWrapped properties = true := by simpa [Body.unwrapped] using h
      simp only [toColumnar, toColumnarM, hwrapped, if_true]
      rfl
  | _ => rfl

theorem toColumnar_wrapped {s : JsonSchema} {columns : Arrow.Schema} (h : s.body.unwrapped = false)
    : toColumnar s = .ok columns ↔
      ∃ type, s.toDataType = .ok type ∧ columns = ⟨[⟨rootField, type, s.isNullable, {}⟩], []⟩ := by
  simp only [toColumnar_wrapped_eq h, Success.bind_eq_ok_iff, Success.pure_eq_ok_iff,
    @eq_comm _ columns]

theorem toColumnar_unwrapped {s : JsonSchema} {columns : Arrow.Schema}
    (h : s.body.unwrapped = true)
    : s.toColumnar = .ok columns ↔
      ∃ fields, s.toDataType = .ok (.struct fields) ∧ columns = ⟨fields, []⟩ := by
  obtain ⟨annotations, body⟩ := s
  cases body with
  | object properties required k =>
    cases properties with
    | none => cases h
    | some properties =>
      have hwrapped : looksWrapped properties = false := by simpa [Body.unwrapped] using h
      simp only [toColumnar_object hwrapped, toDataType_object_some, DataType.struct.injEq,
        exists_eq_right']
  | _ => cases h

/--
A schema is converted to columns if it is converted to a type, and refused for the same reason.
-/
theorem toColumnar_eq_error_iff {s : JsonSchema} {e : SchemaError}
    : s.toColumnar = .error e ↔ s.toDataType = .error e := by
  cases hunwrapped : s.body.unwrapped with
  | false =>
    rw [toColumnar_wrapped_eq hunwrapped, bind_pure_comp, Success.map_eq_error_iff]
  | true =>
    obtain ⟨annotations, body⟩ := s
    cases body with
    | object properties required k =>
      cases properties with
      | none => cases hunwrapped
      | some properties =>
        have hwrapped : looksWrapped properties = false := by
          simpa [Body.unwrapped] using hunwrapped
        rw [toColumnar_object_eq hwrapped, bind_pure_comp, Success.map_eq_error_iff, toDataType,
          toDataTypeM, Success.map_eq_error_iff]
    | _ => cases hunwrapped

end JsonSchema

end SchemaBridge
