import SchemaBridge.JsonSchema.Construct

/-!
This module contains the type that a body belongs to, and the schemas of one type without any
keywords.
-/

namespace SchemaBridge

namespace JsonSchema

variable {σ τ : Type}

namespace Body

def kind? : Body σ → Option Kind
  | .untyped => none
  | .null => some .null
  | .boolean => some .boolean
  | .integer _ => some .integer
  | .number _ => some .number
  | .string _ => some .string
  | .array _ _ => some .array
  | .object _ _ _ => some .object
  | .union _ => none

theorem kind?_eq_ofName? (body : Body σ) : body.kind? = Kind.ofName? body.typeName := by
  cases body <;> rfl

theorem typeName_eq_name {body : Body σ} {kind : Kind} (hkind : body.kind? = some kind)
    : body.typeName = kind.name := by
  rw [kind?_eq_ofName?] at hkind
  exact (Kind.name_eq_of_ofName? hkind).symm

theorem isNull_eq (body : Body σ) : body.isNull = (body.typeName == "null") := by
  cases body <;> rfl

theorem exists_union_of_typeName {body : Body σ} (h : body.typeName = "union")
    : ∃ members, body = .union members := by
  cases body with
  | union members => exact ⟨members, rfl⟩
  | _ => simp [typeName] at h

theorem ne_union_of_kind? {body : Body σ} {kind : Kind} (h : body.kind? = some kind)
    : ∀ members, body ≠ .union members := by
  rintro members rfl
  cases h

end Body

theorem eq_union_or_ne_union (s : JsonSchema)
    : (∃ annotations members, s = ⟨annotations, .union members⟩) ∨
      ∀ members, s.body ≠ .union members := by
  obtain ⟨annotations, body⟩ := s
  cases body with
  | union members => exact .inl ⟨annotations, members, rfl⟩
  | _ =>
    right
    intro members h
    cases h

namespace Kind

def isScalar : Kind → Bool
  | .array | .object => false
  | _ => true

/--
The body of a type without any keywords.
-/
def body : Kind → Body σ
  | .null => .null
  | .boolean => .boolean
  | .integer => .integer {}
  | .number => .number {}
  | .string => .string {}
  | .array => .array none {}
  | .object => .object none none {}

theorem kind?_body (kind : Kind) : (kind.body : Body σ).kind? = some kind := by
  cases kind <;> rfl

end Kind

end JsonSchema

end SchemaBridge
