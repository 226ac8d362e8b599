import SchemaBridge.Proofs.Columnar.Nullability
import SchemaBridge.Proofs.Columnar.ToArrow
import SchemaBridge.Proofs.JsonSchema.Everywhere

/-!
This module contains the schemas that have columns: no schema that describes a value is untyped, all
arrays describe their items and no union has more members than type identifiers can tell apart.
Main statements: `exists_toDataType_iff`, `exists_toColumnar_iff`.
-/

namespace SchemaBridge

namespace JsonSchema

open Arrow (Field)

namespace Body

variable {σ τ : Type}

def Convertible : Body σ → Prop
  | .untyped => False
  | .array items _ => ∃ item, items = some (.schema item)
  | .union members => members.toList.length ≤ unionLimit
  | _ => True

instance (body : Body σ) : Decidable body.Convertible :=
  match body with
  | .untyped => .isFalse id
  | .array (some (.schema item)) _ => .isTrue ⟨item, rfl⟩
  | .array none _ | .array (some (.bool _)) _ => .isFalse nofun
  | .union members => inferInstanceAs (Decidable (members.toList.length ≤ unionLimit))
  | .null | .boolean | .integer _ | .number _ | .string _ | .object _ _ _ => .isTrue trivial

theorem convertible_map (f : σ → τ) (body : Body σ)
    : (body.map f).Convertible ↔ body.Convertible := by
  cases body with
  | array items k => rcases items with _ | _ | _ <;> simp [Convertible, map, BoolOr.map]
  | union members => simp [Convertible, map]
  | _ => rfl

def UnionUpTo (limit : Nat) : Body σ → Prop
  | .union members => members.toList.length ≤ limit
  | _ => True

instance (limit : Nat) (body : Body σ) : Decidable (body.UnionUpTo limit) :=
  match body with
  | .union members => inferInstanceAs (Decidable (members.toList.length ≤ limit))
  | .untyped | .null | .boolean | .integer _ | .number _ | .string _ | .array _ _
  | .object _ _ _ => .isTrue trivial

theorem unionUpTo_map {limit : Nat} (f : σ → τ) (body : Body σ)
    : (body.map f).UnionUpTo limit ↔ body.UnionUpTo limit := by
  cases body with
  | union members => simp [UnionUpTo, map]
  | _ => rfl

end Body

def Convertible (s : JsonSchema) : Prop :=
  Everywhere Body.parts (fun s => s.body.Convertible) s

instance (s : JsonSchema) : Decidable s.Convertible :=
  decidable_of_iff _ (everywhere_iff_fold Body.parts_subset_subschemas Body.parts_map
    Body.convertible_map s)

/--
No union among the schemas for values has more than `limit` members.
-/
def UnionsUpTo (limit : Nat) (s : JsonSchema) : Prop :=
  Everywhere Body.parts (fun s => s.body.UnionUpTo limit) s

instance (limit : Nat) (s : JsonSchema) : Decidable (s.UnionsUpTo limit) :=
  decidable_of_iff _ (everywhere_iff_fold Body.parts_subset_subschemas Body.parts_map
    Body.unionUpTo_map s)

theorem exists_propertyFields_iff {required : Option (List String)}
    {properties : List (String × JsonSchema)}
    : (∃ fields, List.Forall₂ (IsPropertyField required) properties fields) ↔
      ∀ property ∈ properties, ∃ type, property.2.toDataType = .ok type := by
  rw [exists_forall₂_iff]
  constructor
  . intro h property hproperty
    obtain ⟨_, type, htype, -⟩ := h property hproperty
    exact ⟨type, htype⟩
  . intro h property hproperty
    obtain ⟨type, htype⟩ := h property hproperty
    exact ⟨_, type, htype, rfl⟩

theorem exists_memberFields_iff {members : List JsonSchema}
    : (∃ fields, List.Forall₂ IsMemberField members.zipIdx fields) ↔
      ∀ member ∈ members, ∃ type, member.toDataType = .ok type := by
  rw [exists_forall₂_iff]
  constructor
  . intro h member hmember
    obtain ⟨i, hi, rfl⟩ := List.mem_iff_getElem.mp hmember
    obtain ⟨_, type, htype, -⟩ := h (members[i], i) (by simp [List.mem_zipIdx_iff_getElem?, hi])
    exact ⟨type, htype⟩
  . intro h place hplace
    obtain ⟨type, htype⟩ := h place.1 (List.fst_mem_of_mem_zipIdx hplace)
    exact ⟨_, type, htype, rfl⟩

theorem exists_toDataType_of_isNull {s : JsonSchema} (h : s.isNull = true)
    : ∃ type, s.toDataType = .ok type := by
  obtain ⟨annotations, body⟩ := s
  obtain rfl : body = .null := isNull_iff.mp h
  exact ⟨_, toDataType_scalar rfl rfl⟩

section Types

variable {annotations : Annotations}

theorem exists_toDataType_array {items : Option (BoolOr JsonSchema)} {k : ArrayKeywords JsonSchema}
    : (∃ type, toDataType ⟨annotations, .array items k⟩ = .ok type) ↔
      ∃ item, items = some (.schema item) ∧ ∃ type, item.toDataType = .ok type := by
  simp only [toDataType_array]
  constructor
  . rintro ⟨_, item, itemType, hitems, hitem, -⟩
    exact ⟨item, hitems, itemType, hitem⟩
  . rintro ⟨item, hitems, itemType, hitem⟩
    exact ⟨_, item, itemType, hitems, hitem, rfl⟩

theorem exists_toDataType_object {properties : List (String × JsonSchema)}
    {required : Option (List String)} {k : ObjectKeywords JsonSchema}
    : (∃ type, toDataType ⟨annotations, .object (some properties) required k⟩ = .ok type) ↔
      ∀ property ∈ properties, ∃ type, property.2.toDataType = .ok type := by
  rw [← @exists_propertyFields_iff required]
  simp only [toDataType_object_some]
  constructor
  . rintro ⟨_, fields, hfields, -⟩
    exact ⟨fields, hfields⟩
  . rintro ⟨fields, hfields⟩
    exact ⟨_, fields, hfields, rfl⟩

theorem exists_toDataType_union {members : TwoOrMore JsonSchema}
    : (∃ type, toDataType ⟨annotations, .union members⟩ = .ok type) ↔
      members.toList.length ≤ unionLimit ∧
        ∀ member ∈ members.toList, ∃ type, member.toDataType = .ok type := by
  cases hside : members.nullableSide? with
  | some side =>
    rw [toDataType_union_of_side hside]
    constructor
    . intro hget
      constructor
      . rw [TwoOrMore.length_of_nullableSide? hside]
        decide
      . -- Only the side is converted, but the other member is null and so it could be, too.
        intro member hmember
        rcases TwoOrMore.eq_get_or_isNull hside hmember with rfl | hnull
        . exact hget
        . exact exists_toDataType_of_isNull hnull
    . rintro ⟨-, hmembers⟩
      exact hmembers _ (members.get_mem side)
  | none =>
    simp only [toDataType_union hside, ← exists_memberFields_iff]
    constructor
    . rintro ⟨_, hlength, fields, hfields, -⟩
      exact ⟨hlength, fields, hfields⟩
    . rintro ⟨hlength, fields, hfields⟩
      exact ⟨_, hlength, fields, hfields, rfl⟩

end Types

theorem exists_toDataType_iff {s : JsonSchema}
    : (∃ type, s.toDataType = .ok type) ↔ s.Convertible := by
  induction s using JsonSchema.induction with
  | step annotations body ih =>
    rw [Convertible, Everywhere, Everywhere.iff_self_and_children]
    have hparts : (∀ c ∈ body.parts, Everywhere Body.parts (fun s => s.body.Convertible) c) ↔
        ∀ c ∈ body.parts, ∃ type, c.toDataType = .ok type := by
      apply forall₂_congr
      intro c hc
      exact (ih c (body.parts_subset_subschemas hc)).symm
    rw [hparts]
    cases body with
    | untyped => simp [toDataType_untyped, Body.Convertible]
    | array items k =>
      rw [exists_toDataType_array]
      constructor
      . rintro ⟨item, rfl, hitem⟩
        apply And.intro ⟨item, rfl⟩
        intro c hc
        obtain rfl := List.mem_singleton.mp hc
        exact hitem
      . rintro ⟨⟨item, rfl⟩, hitem⟩
        exact ⟨item, rfl, hitem item (Body.item_mem_parts item k)⟩
    | object properties required k =>
      cases properties with
      | none => simp [toDataType_object_none, Body.Convertible, Body.parts, namedSubschemas]
      | some properties =>
        rw [exists_toDataType_object]
        simp only [Body.Convertible, Body.parts, namedSubschemas, true_and, List.forall_mem_map]
    | union members => exact exists_toDataType_union
    | _ =>
      apply iff_of_true
      . exact ⟨_, toDataType_scalar rfl rfl⟩
      . apply And.intro trivial
        intro c hc
        cases hc

theorem exists_toColumnar_iff {s : JsonSchema}
    : (∃ columns, s.toColumnar = .ok columns) ↔ s.Convertible := by
  rw [← exists_toDataType_iff]
  simp only [Success.exists_ok_iff, ne_eq, toColumnar_eq_error_iff]

end JsonSchema

end SchemaBridge
