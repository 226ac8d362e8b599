import SchemaBridge.Columnar.ToJsonSchema
import SchemaBridge.Proofs.JsonSchema.Kinds
import SchemaBridge.Proofs.JsonSchema.Mapping

/-!
This module contains the ways in which a schema can include `null`, and what folding the nullability
of a column into a schema makes of them. Main definition: `JsonSchema.folded`.
-/

namespace SchemaBridge

namespace JsonSchema

variable {s : JsonSchema}

theorem isNull_iff : s.isNull = true ↔ s.body = .null := by
  unfold isNull Body.isNull
  cases s.body <;> simp

theorem isNullable_union (annotations : Annotations) (members : TwoOrMore JsonSchema)
    : isNullable ⟨annotations, .union members⟩ = members.toList.any isNull := rfl

theorem isNullable_eq_isNull (h : ∀ members, s.body ≠ .union members)
    : s.isNullable = s.isNull := by
  obtain ⟨annotations, body⟩ := s
  cases body with
  | union members => exact (h members rfl).elim
  | _ => rfl

def NullableSide.other : NullableSide → NullableSide
  | .first => .second
  | .second => .first

namespace TwoOrMore

variable {σ : Type} {members : TwoOrMore JsonSchema}

theorem get_mem (members : TwoOrMore σ) (side : NullableSide)
    : members.get side ∈ members.toList := by
  cases side <;> simp [get, toList]

theorem nullableSide?_eq_some_iff {side : NullableSide}
    : members.nullableSide? = some side ↔
      members.others = [] ∧ (members.get side).isNull = false ∧
        (members.get side.other).isNull = true := by
  unfold nullableSide?
  cases members.others with
  | cons other rest => simp
  | nil =>
    cases side <;> cases hfirst : members.first.isNull <;>
      cases hsecond : members.second.isNull <;> simp [get, NullableSide.other, hfirst, hsecond]

theorem isNull_get {side : NullableSide} (h : members.nullableSide? = some side)
    : (members.get side).isNull = false := by
  rw [nullableSide?_eq_some_iff] at h
  exact h.2.1

theorem any_isNull_of_nullableSide? {side : NullableSide} (h : members.nullableSide? = some side)
    : members.toList.any isNull = true := by
  rw [nullableSide?_eq_some_iff] at h
  rw [List.any_eq_true]
  exact ⟨_, members.get_mem side.other, h.2.2⟩

theorem length_of_nullableSide? {side : NullableSide} (h : members.nullableSide? = some side)
    : members.toList.length = 2 := by
  rw [nullableSide?_eq_some_iff] at h
  simp [toList, h.1]

theorem eq_get_or_isNull {side : NullableSide} (h : members.nullableSide? = some side)
    {member : JsonSchema} (hmember : member ∈ members.toList)
    : member = members.get side ∨ member.isNull = true := by
  obtain ⟨hothers, -, hnull⟩ := nullableSide?_eq_some_iff.mp h
  have hget : member = members.get side ∨ member = members.get side.other := by
    simp only [toList, hothers, List.mem_cons, List.not_mem_nil, or_false] at hmember
    cases side with
    | first => exact hmember
    | second => exact hmember.symm
  rcases hget with rfl | rfl
  . exact .inl rfl
  . exact .inr hnull

theorem nullableSide?_push (members : TwoOrMore JsonSchema) (member : JsonSchema)
    : (members.push member).nullableSide? = none := by
  unfold nullableSide? push
  cases members.others <;> rfl

theorem nullableSide?_congr {others : TwoOrMore JsonSchema}
    (h : members.toList.map isNull = others.toList.map isNull)
    : members.nullableSide? = others.nullableSide? := by
  obtain ⟨first, second, rest⟩ := members
  obtain ⟨first', second', rest'⟩ := others
  simp only [toList, List.map_cons, List.cons.injEq] at h
  obtain ⟨hfirst, hsecond, hrest⟩ := h
  have hlength : rest.length = rest'.length := by simpa using congrArg List.length hrest
  unfold nullableSide?
  cases rest with
  | nil =>
    obtain rfl := List.length_eq_zero_iff.mp hlength.symm
    simp only [hfirst, hsecond]
  | cons _ _ =>
    cases rest' with
    | nil => cases hlength
    | cons _ _ => rfl

theorem nullableSide?_map {f : JsonSchema → JsonSchema}
    (h : ∀ member ∈ members.toList, (f member).isNull = member.isNull)
    : (members.map f).nullableSide? = members.nullableSide? := by
  apply nullableSide?_congr
  rw [toList_map, List.map_map]
  exact List.map_congr_left h

end TwoOrMore

/--
The member of a union that stands for all values other than `null`.
-/
def side? (s : JsonSchema) : Option NullableSide :=
  match s.body with
  | .union members => members.nullableSide?
  | _ => none

theorem side?_union (annotations : Annotations) (members : TwoOrMore JsonSchema)
    : side? ⟨annotations, .union members⟩ = members.nullableSide? := rfl

theorem side?_of_not_union (h : ∀ members, s.body ≠ .union members) : s.side? = none := by
  obtain ⟨annotations, body⟩ := s
  cases body with
  | union members => exact (h members rfl).elim
  | _ => rfl

theorem exists_union_of_side? {side : NullableSide} (h : s.side? = some side)
    : ∃ annotations members, s = ⟨annotations, .union members⟩ ∧
      members.nullableSide? = some side := by
  obtain ⟨annotations, body⟩ := s
  cases body with
  | union members => exact ⟨annotations, members, rfl, h⟩
  | _ => cases h

theorem isNullable_of_side? {side : NullableSide} (h : s.side? = some side)
    : s.isNullable = true := by
  obtain ⟨annotations, members, rfl, hside⟩ := exists_union_of_side? h
  rw [isNullable_union]
  exact TwoOrMore.any_isNull_of_nullableSide? hside

theorem side?_of_not_isNullable (h : s.isNullable = false) : s.side? = none := by
  cases hside : s.side? with
  | none => rfl
  | some side =>
    rw [isNullable_of_side? hside] at h
    cases h

theorem nullableSide?_null (h : s.isNull = false)
    : (TwoOrMore.mk s null []).nullableSide? = some .first := by
  rw [TwoOrMore.nullableSide?_eq_some_iff]
  exact ⟨rfl, h, rfl⟩

/--
A schema that includes `null` besides the values of the given one.
-/
def withNull : JsonSchema → JsonSchema
  | ⟨annotations, .union members⟩ => ⟨annotations, .union (members.push .null)⟩
  | base => .plain (.union ⟨base, .null, []⟩)

/--
The schema of a column whose type is described by `base`.
-/
def folded (base : JsonSchema) (nullable : Bool) : JsonSchema :=
  if !nullable || base.isNullable then base else base.withNull

theorem foldNullable_eq_ok (base : JsonSchema) (nullable : Bool)
    : (Arrow.foldNullable base nullable : Except SchemaError JsonSchema) =
      .ok (base.folded nullable) := by
  unfold Arrow.foldNullable folded
  split
  . rfl
  . rw [notice_except]
    obtain ⟨annotations, body⟩ := base
    cases body <;> rfl

theorem withNull_of_not_union (h : ∀ members, s.body ≠ .union members)
    : s.withNull = plain (.union ⟨s, .null, []⟩) := by
  obtain ⟨annotations, body⟩ := s
  cases body with
  | union members => exact (h members rfl).elim
  | _ => rfl

@[simp]
theorem isNullable_withNull (s : JsonSchema) : s.withNull.isNullable = true := by
  obtain ⟨annotations, body⟩ := s
  cases body with
  | union members => simp [withNull, isNullable_union, null, plain, isNull, Body.isNull]
  | _ => rfl

@[simp]
theorem folded_false (s : JsonSchema) : s.folded false = s := rfl

theorem folded_eq_self {nullable : Bool} (h : (nullable && !s.isNullable) = false)
    : s.folded nullable = s := by
  unfold folded
  cases nullable <;> cases hnullable : s.isNullable <;> simp_all

theorem folded_of_isNullable (h : s.isNullable = true) (nullable : Bool)
    : s.folded nullable = s := by
  simp [folded, h]

theorem folded_true_of_not_isNullable (h : s.isNullable = false) : s.folded true = s.withNull := by
  simp [folded, h]

@[simp]
theorem isNullable_folded (s : JsonSchema) (nullable : Bool)
    : (s.folded nullable).isNullable = (nullable || s.isNullable) := by
  unfold folded
  cases nullable <;> cases h : s.isNullable <;> simp [h]

theorem isNull_withNull (s : JsonSchema) : s.withNull.isNull = false := by
  obtain ⟨annotations, body⟩ := s
  cases body <;> rfl

theorem isNull_folded (s : JsonSchema) (nullable : Bool)
    : (s.folded nullable).isNull = s.isNull := by
  cases hfold : nullable && !s.isNullable with
  | false => rw [folded_eq_self hfold]
  | true =>
    obtain ⟨rfl, hnullable⟩ := Bool.and_eq_true_iff.mp hfold
    rw [Bool.not_eq_true'] at hnullable
    rw [folded_true_of_not_isNullable hnullable, isNull_withNull, eq_comm, Bool.eq_false_iff]
    intro hnull
    rw [isNullable, isNull_iff.mp hnull] at hnullable
    cases hnullable

end JsonSchema

end SchemaBridge
