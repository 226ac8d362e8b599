import Mathlib.Data.List.Basic
import SchemaBridge.JsonSchema.Subschemas

/-!
This module contains the laws of changing all subschemas of a body at once.
-/

namespace SchemaBridge

namespace JsonSchema

variable {ρ σ τ : Type} (g : σ → τ) (f : ρ → σ)

theorem BoolOr.map_comp : BoolOr.map g ∘ BoolOr.map f = BoolOr.map (g ∘ f) := by
  funext slot
  cases slot <;> rfl

theorem mapValues_comp
    : Members.mapValues g ∘ Members.mapValues f = Members.mapValues (g ∘ f) := by
  funext members
  simp [Members.mapValues]

theorem TwoOrMore.map_map (list : TwoOrMore ρ) : (list.map f).map g = list.map (g ∘ f) := by
  simp [TwoOrMore.map]

theorem TwoOrMore.map_push (list : TwoOrMore ρ) (x : ρ)
    : (list.push x).map f = (list.map f).push (f x) := by
  simp [TwoOrMore.map, TwoOrMore.push]

theorem TwoOrMore.map_congr {f f' : ρ → σ} {list : TwoOrMore ρ} (h : ∀ x ∈ list.toList, f x = f' x)
    : list.map f = list.map f' := by
  apply Option.some.inj
  rw [← ofList?_toList, ← ofList?_toList, toList_map, toList_map, List.map_congr_left h]

theorem ArrayKeywords.map_map (k : ArrayKeywords ρ) : (k.map f).map g = k.map (g ∘ f) := by
  simp [ArrayKeywords.map, BoolOr.map_comp, List.map_comp_map]

theorem ObjectKeywords.map_map (k : ObjectKeywords ρ) : (k.map f).map g = k.map (g ∘ f) := by
  simp [ObjectKeywords.map, BoolOr.map_comp, mapValues_comp, List.map_comp_map]

section Subschemas

variable (f : σ → τ)

theorem slotSubschemas_map (slot : Option (BoolOr σ))
    : slotSubschemas (slot.map (BoolOr.map f)) = (slotSubschemas slot).map f := by
  rcases slot with _ | _ | _ <;> rfl

theorem namedSubschemas_map (members : Option (List (String × σ)))
    : namedSubschemas (members.map (Members.mapValues f)) = (namedSubschemas members).map f := by
  cases members with
  | none => rfl
  | some members => simp [namedSubschemas, Members.mapValues]

theorem getD_map (list : Option (List σ))
    : (list.map (List.map f)).getD [] = (list.getD []).map f :=
  Option.getD_map (List.map f) [] list

theorem Body.subschemas_map (body : Body σ) : (body.map f).subschemas = body.subschemas.map f := by
  cases body with
  | array items k =>
    simp only [Body.map, subschemas, ArrayKeywords.map, ArrayKeywords.subschemas,
      slotSubschemas_map, getD_map, Option.toList_map, List.map_append]
  | object properties required k =>
    simp only [Body.map, subschemas, ObjectKeywords.map, ObjectKeywords.subschemas,
      slotSubschemas_map, namedSubschemas_map, getD_map, Option.toList_map, List.map_append]
  | union members => rfl
  | _ => rfl

end Subschemas

end JsonSchema

end SchemaBridge
