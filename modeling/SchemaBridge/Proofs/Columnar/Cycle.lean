import Mathlib.Data.List.Perm.Subperm
import SchemaBridge.Proofs.Columnar.Idempotence
import SchemaBridge.Proofs.JsonSchema.RoundTrip

/-!
This module contains the way of a document through Arrow and back to a document. A schema that was
read can still be spelled after it came back from its columns, so that the second way ends where the
first one did. Main definition: `throughArrow`. Main statement: `throughArrow_settles`.
-/

namespace SchemaBridge

namespace JsonSchema

variable {s : JsonSchema}

theorem typeName_columnForm (h : s.side? = none) : s.columnForm.typeName = s.typeName := by
  obtain ⟨form, hform, hname⟩ := columnForm_of_side?_eq_none h
  rw [hform]
  exact hname

theorem kind?_columnForm {kind : Kind} (h : s.body.kind? = some kind)
    : s.columnForm.body.kind? = some kind := by
  have hside : s.side? = none := side?_of_not_union (Body.ne_union_of_kind? h)
  have hname : s.columnForm.body.typeName = s.body.typeName := typeName_columnForm hside
  rw [Body.kind?_eq_ofName?, hname, ← Body.kind?_eq_ofName?, h]

theorem SpellableUnion.map_columnForm {list : List JsonSchema} (h : SpellableUnion list)
    : SpellableUnion (list.map columnForm) := by
  constructor
  . intro form hform
    obtain ⟨member, hmember, rfl⟩ := List.mem_map.mp hform
    obtain ⟨kind, hkind⟩ := h.kinds member hmember
    exact ⟨kind, kind?_columnForm hkind⟩
  . have hnames : (list.map columnForm).map typeName = list.map typeName := by
      rw [List.map_map]
      apply List.map_congr_left
      intro member hmember
      obtain ⟨kind, hkind⟩ := h.kinds member hmember
      exact typeName_columnForm (side?_of_not_union (Body.ne_union_of_kind? hkind))
    rw [hnames]
    exact h.distinct
  . intro form hform
    obtain ⟨member, -, rfl⟩ := List.mem_map.mp hform
    exact annotations_columnForm member
  . intro a b k l hinteger hnumber
    obtain ⟨member, hmember, hinteger⟩ := List.mem_map.mp hinteger
    obtain ⟨other, hother, hnumber⟩ := List.mem_map.mp hnumber
    obtain ⟨kind, hkind⟩ := h.kinds member hmember
    obtain ⟨kind', hkind'⟩ := h.kinds other hother
    -- The forms have the types of the members, and numeric forms have no keywords at all.
    have hform := kind?_columnForm hkind
    have hform' := kind?_columnForm hkind'
    rw [hinteger] at hform
    rw [hnumber] at hform'
    obtain rfl : kind = .integer := (Option.some.inj hform).symm
    obtain rfl : kind' = .number := (Option.some.inj hform').symm
    rw [columnForm_of_scalar hkind rfl] at hinteger
    rw [columnForm_of_scalar hkind' rfl] at hnumber
    cases hinteger
    cases hnumber
    rfl

theorem NamedUnion.concat_null {list : List JsonSchema} (h : NamedUnion list)
    (hnull : ∀ member ∈ list, member.isNull = false)
    : NamedUnion (list ++ [null]) := by
  constructor
  . intro member hmember
    rcases List.mem_append.mp hmember with hmember | hmember
    . exact h.kinds member hmember
    . obtain rfl := List.mem_singleton.mp hmember
      exact ⟨.null, rfl⟩
  . rw [List.map_append, List.nodup_append]
    refine ⟨h.distinct, List.nodup_singleton _, ?_⟩
    rintro name hname _ hlast rfl
    obtain ⟨member, hmember, rfl⟩ := List.mem_map.mp hname
    have hname : member.body.typeName = "null" := List.mem_singleton.mp hlast
    have hmember := hnull member hmember
    rw [isNull, Body.isNull_eq, hname] at hmember
    cases hmember

theorem SpellableUnion.concat_null {list : List JsonSchema} (h : SpellableUnion list)
    (hnull : ∀ member ∈ list, member.isNull = false)
    : SpellableUnion (list ++ [null]) := by
  have hnamed := h.named.concat_null hnull
  refine ⟨hnamed.kinds, hnamed.distinct, ?_, ?_⟩
  . intro member hmember
    rcases List.mem_append.mp hmember with hmember | hmember
    . exact h.plain member hmember
    . obtain rfl := List.mem_singleton.mp hmember
      rfl
  . intro a b k l hinteger hnumber
    apply h.numeric a b k l
    . rcases List.mem_append.mp hinteger with hinteger | hinteger
      . exact hinteger
      . cases List.mem_singleton.mp hinteger
    . rcases List.mem_append.mp hnumber with hnumber | hnumber
      . exact hnumber
      . cases List.mem_singleton.mp hnumber

theorem namedUnion_singleton {kind : Kind} (hkind : s.body.kind? = some kind)
    : NamedUnion [s] := by
  exact ⟨List.forall_mem_singleton.mpr ⟨kind, hkind⟩, List.nodup_singleton _⟩

theorem spellableUnion_singleton {kind : Kind} (hkind : s.body.kind? = some kind)
    (hannotations : s.annotations = {})
    : SpellableUnion [s] := by
  have hnamed := namedUnion_singleton hkind
  refine ⟨hnamed.kinds, hnamed.distinct, List.forall_mem_singleton.mpr hannotations, ?_⟩
  intro a b k l hinteger hnumber
  have heq := (List.mem_singleton.mp hinteger).trans (List.mem_singleton.mp hnumber).symm
  cases heq

theorem spellable_form (h : s.body.Spellable) (hside : s.side? = none)
    : s.columnForm.body.Spellable := by
  obtain ⟨annotations, body⟩ := s
  cases body with
  | string k => exact nofun
  | array items k => rcases items with _ | _ | _ <;> trivial
  | object properties required k =>
    cases properties with
    | none => trivial
    | some properties =>
      rw [columnForm_object]
      trivial
  | union members =>
    rw [columnForm_union hside]
    exact SpellableUnion.map_columnForm h
  | _ => trivial

theorem spellable_withNull (h : s.body.Spellable) (hconvertible : s.body.Convertible)
    (hannotations : s.annotations = {}) (hnullable : s.isNullable = false)
    : s.withNull.body.Spellable := by
  rcases eq_union_or_ne_union s with ⟨annotations, members, rfl⟩ | hunion
  . rw [isNullable_union, List.any_eq_false] at hnullable
    apply SpellableUnion.concat_null h
    intro member hmember
    exact Bool.eq_false_iff.mpr (hnullable member hmember)
  . rw [isNullable_eq_isNull hunion] at hnullable
    obtain ⟨kind, hkind⟩ : ∃ kind, s.body.kind? = some kind := by
      cases hs : s.body with
      | untyped =>
        rw [hs] at hconvertible
        exact hconvertible.elim
      | union members => exact (hunion members hs).elim
      | _ => exact ⟨_, rfl⟩
    rw [withNull_of_not_union hunion]
    apply SpellableUnion.concat_null (spellableUnion_singleton hkind hannotations)
    intro member hmember
    obtain rfl := List.mem_singleton.mp hmember
    exact hnullable

theorem SpellableUnion.length_le {list : List JsonSchema} (h : SpellableUnion list)
    : list.length ≤ 7 := by
  -- The members have different type names, and there are only seven of these.
  have hsubset : list.map typeName ⊆ Kind.all.map Kind.name := by
    intro name hname
    obtain ⟨member, hmember, rfl⟩ := List.mem_map.mp hname
    obtain ⟨kind, hkind⟩ := h.kinds member hmember
    rw [typeName, Body.typeName_eq_name hkind]
    exact List.mem_map_of_mem (by cases kind <;> decide)
  have hlength := (h.distinct.subperm hsubset).length_le
  rw [List.length_map] at hlength
  exact hlength

theorem unionsUpTo_of_spellable (h : s.Spellable) : s.UnionsUpTo 127 := by
  apply (everywhere_parts h).mono
  rintro ⟨_, body⟩ hbody
  cases body with
  | union members => exact Nat.le_trans (SpellableUnion.length_le hbody) (by decide)
  | _ => trivial

theorem spellable_settled (h : s.Spellable) (hconvertible : s.Convertible)
    : s.settled.Spellable := by
  have hparts := (everywhere_parts h).and
    (hconvertible.and (unionsUpTo_of_spellable h))
  have hall := everywhere_columnForm (R := fun s => s.body.Spellable ∧ s.body.WithRoom)
    (P := fun s => s.body.Spellable)
    (fun _ h hside => ⟨spellable_form h.1 hside, withRoom_form h.2 hside⟩) (fun _ h => h.1)
    (fun s h => spellable_withNull h.1 h.2.1 (annotations_columnForm s)) trivial hparts
  exact hall.2 s.isNullable

/--
From a document to a schema, to its columns, to the schema they describe, and to its document.
-/
def throughArrow (document : Json) : Except SchemaError Json := do
  let s ← ofJson document
  let columns ← s.toColumnar
  let t ← columns.toJsonSchema
  return t.toJson

theorem throughArrow_eq_ok {document : Json} {s t : JsonSchema} {columns : Arrow.Schema}
    (hs : ofJson document = .ok s) (hcolumns : s.toColumnar = .ok columns)
    (ht : columns.toJsonSchema = .ok t)
    : throughArrow document = .ok t.toJson := by
  simp only [throughArrow, Success.bind_eq_ok_iff, Success.pure_eq_ok_iff]
  exact ⟨s, hs, columns, hcolumns, t, ht, rfl⟩

/--
The document that comes back from the columns of a document is read as the schema it was written
for, which has columns again, and it comes back from these unchanged.
-/
theorem throughArrow_settles {document : Json} {columns : Arrow.Schema}
    (hdocument : document.distinctNames = true) (hs : ofJson document = .ok s)
    (hcolumns : s.toColumnar = .ok columns)
    : ∃ t columns', columns.toJsonSchema = .ok t ∧ throughArrow document = .ok t.toJson ∧
      ofJson t.toJson = .ok t ∧ t.toColumnar = .ok columns' ∧
      throughArrow t.toJson = .ok t.toJson := by
  have hnames := namesDistinct_of_ofJson hdocument hs
  have hspellable := spellable_of_ofJson hs
  have hconvertible := exists_toColumnar_iff.mp ⟨columns, hcolumns⟩
  have hwellFormed := wellFormed_settled hnames
  have ht : columns.toJsonSchema = .ok s.settled := toJsonSchema_of_toColumnar hnames hcolumns
  have hread : ofJson s.settled.toJson = .ok s.settled :=
    ofJson_toJson_of_spellable (spellable_settled hspellable hconvertible) hwellFormed.required
  obtain ⟨columns', hcolumns'⟩ := exists_toColumnar_iff.mpr
    (convertible_settled hconvertible (unionsUpTo_of_spellable hspellable))
  have ht' : columns'.toJsonSchema = .ok s.settled := by
    rw [toJsonSchema_of_toColumnar hwellFormed.names hcolumns', settled_settled hnames]
  exact ⟨s.settled, columns', ht, throughArrow_eq_ok hs hcolumns ht, hread, hcolumns',
    throughArrow_eq_ok hread hcolumns' ht'⟩

def orderColumns : Arrow.Schema where
  fields := [
    ⟨"root", .struct [
      ⟨"price", .union
        [(0, ⟨"number", .float .float64, false, {}⟩), (1, ⟨"integer", .integer .int64, false, {}⟩)]
        .dense, false, {}⟩,
      ⟨"day", .text .utf8, false, {}⟩], true, {}⟩]

theorem throughArrow_settles_order
    : orderDocument.distinctNames = true ∧ ofJson orderDocument = .ok orderSchema ∧
      orderSchema.toColumnar = .ok orderColumns ∧
      ∃ t : JsonSchema, throughArrow orderDocument = .ok t.toJson ∧
        throughArrow t.toJson = .ok t.toJson := by
  have hdocument : orderDocument.distinctNames = true := by decide
  have hs : ofJson orderDocument = .ok orderSchema := by rfl
  have hcolumns : orderSchema.toColumnar = .ok orderColumns := by rfl
  obtain ⟨t, -, -, hfirst, -, -, hsecond⟩ := throughArrow_settles hdocument hs hcolumns
  exact ⟨hdocument, hs, hcolumns, t, hfirst, hsecond⟩

end JsonSchema

end SchemaBridge
