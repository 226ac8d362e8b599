import Mathlib.Data.List.Duplicate
import SchemaBridge.Proofs.Columnar.WellFormed

/-!
This module contains the Arrow schemas that describe a JSON Schema tree, and the causes for which all
others are refused: a type without counterpart, a union of less than two members, or two columns with
one name. Main definitions: `Arrow.DataType.Reaches`, `Arrow.DataType.Describable`,
`Arrow.DataType.Refuses`. Main statement: `Arrow.exists_toJsonSchema_iff`.
-/

namespace SchemaBridge

namespace Arrow

namespace DataType

/--
The types whose descriptions go into the description of a type.
-/
def convertedParts : DataType → List DataType
  | .list item | .largeList item => [item.dataType]
  | .struct fields => fields.map (·.dataType)
  | .union members .dense => members.map (·.2.dataType)
  | _ => []

/--
The second type is the first one or stands in it, under items, columns and union members only.
-/
inductive Reaches : DataType → DataType → Prop where
  | refl (type : DataType) : Reaches type type
  | part {type part other : DataType} (mem : part ∈ type.convertedParts)
      (reaches : Reaches part other) : Reaches type other

/--
Whether there is a kind of JSON Schema for the type.
-/
def HasCounterpart : DataType → Prop
  | .null | .boolean | .integer _ | .float _ | .text _ | .list _ | .largeList _ | .struct _
  | .union _ .dense => True
  | _ => False

def AtLeastTwoMembers : DataType → Prop
  | .union members .dense => 2 ≤ members.length
  | _ => True

/--
No two columns of a struct have one name.
-/
def DistinctColumns : DataType → Prop
  | .struct fields => (fields.map FieldOf.name).Nodup
  | _ => True

structure Describable (type : DataType) : Prop where
  counterpart : type.HasCounterpart
  members : type.AtLeastTwoMembers
  columns : type.DistinctColumns

/--
The error with which a type is refused, whatever stands in it.
-/
inductive Refuses : DataType → SchemaError → Prop where
  | unsupported {type : DataType} (counterpart : ¬type.HasCounterpart)
      : Refuses type (.unsupported (.arrowType type))
  | smallUnion {members : List (Int8 × Field)} (small : members.length < 2)
      : Refuses (.union members .dense) (.smallUnion members.length)
  | duplicateField {fields : List Field} {name : String}
      (duplicate : (fields.map FieldOf.name).Duplicate name)
      : Refuses (.struct fields) (.duplicateField name)

theorem Refuses.not_describable {type : DataType} {e : SchemaError} (h : type.Refuses e)
    : ¬type.Describable := by
  rintro ⟨counterpart, members, columns⟩
  cases h with
  | unsupported hcounterpart => exact hcounterpart counterpart
  | smallUnion hsmall => exact Nat.not_lt_of_le members hsmall
  | duplicateField hduplicate => exact hduplicate.not_nodup columns

end DataType

theorem sizeOf_convertedPart_lt {type part : DataType} (h : part ∈ type.convertedParts)
    : sizeOf part < sizeOf type := by
  cases type with
  | list item =>
    obtain rfl := List.mem_singleton.mp h
    exact (sizeOf_item_lt item).1
  | largeList item =>
    obtain rfl := List.mem_singleton.mp h
    exact (sizeOf_item_lt item).2
  | struct fields =>
    obtain ⟨field, hfield, rfl⟩ := List.mem_map.mp h
    exact sizeOf_field_lt hfield
  | union members mode =>
    cases mode with
    | sparse => cases h
    | dense =>
      obtain ⟨entry, hentry, rfl⟩ := List.mem_map.mp h
      exact sizeOf_member_lt hentry
  | _ => cases h

section Types

variable {type part : DataType} {s : JsonSchema} {e : SchemaError}

/-!
A type that describes a schema is in order itself, and so are the types in it.
-/

theorem describable_self (h : type.toJsonSchema = .ok s) : type.Describable := by
  cases type with
  | list item => exact ⟨trivial, trivial, trivial⟩
  | largeList item => exact ⟨trivial, trivial, trivial⟩
  | struct fields =>
    obtain ⟨properties, hproperties, hdistinct, -⟩ := toJsonSchema_struct.mp h
    rw [← names_eq_of_isColumn hproperties] at hdistinct
    exact ⟨trivial, trivial, hdistinct⟩
  | union members mode =>
    cases mode with
    | sparse => cases h
    | dense =>
      obtain ⟨list, hlist, -⟩ := toJsonSchema_union.mp h
      have hlength := hlist.length_eq
      rw [(sortById_perm members).length_eq] at hlength
      refine ⟨trivial, ?_, trivial⟩
      rw [DataType.AtLeastTwoMembers, hlength, JsonSchema.TwoOrMore.toList]
      simp
  | _ => cases h <;> exact ⟨trivial, trivial, trivial⟩

theorem exists_toJsonSchema_of_part (h : type.toJsonSchema = .ok s)
    (hpart : part ∈ type.convertedParts)
    : ∃ base, part.toJsonSchema = .ok base := by
  cases type with
  | list item =>
    obtain rfl := List.mem_singleton.mp hpart
    obtain ⟨base, hbase, -⟩ := toJsonSchema_list.mp h
    exact ⟨base, hbase⟩
  | largeList item =>
    obtain rfl := List.mem_singleton.mp hpart
    obtain ⟨base, hbase, -⟩ := toJsonSchema_list.mp h
    exact ⟨base, hbase⟩
  | struct fields =>
    obtain ⟨field, hfield, rfl⟩ := List.mem_map.mp hpart
    obtain ⟨properties, hproperties, -, -⟩ := toJsonSchema_struct.mp h
    obtain ⟨_, base, hbase, -⟩ := exists_forall₂_iff.mp ⟨properties, hproperties⟩ field hfield
    exact ⟨base, hbase⟩
  | union members mode =>
    cases mode with
    | sparse => cases h
    | dense =>
      obtain ⟨entry, hentry, rfl⟩ := List.mem_map.mp hpart
      obtain ⟨list, hlist, -⟩ := toJsonSchema_union.mp h
      have hsorted := (sortById_perm members).mem_iff.mpr hentry
      exact exists_forall₂_iff.mp ⟨list.toList, hlist⟩ entry hsorted
  | _ => cases hpart

theorem describable_of_reaches (h : type.toJsonSchema = .ok s) (hreaches : type.Reaches part)
    : part.Describable := by
  induction hreaches generalizing s with
  | refl type => exact describable_self h
  | part hmem _ ih =>
    obtain ⟨base, hbase⟩ := exists_toJsonSchema_of_part h hmem
    exact ih hbase

/-!
A type that describes nothing is refused for what it is itself, or for a type in it.
-/

theorem addColumns_eq_error {columns : Columns} {fields : List Field}
    (h : (addColumns columns fields : Except SchemaError Columns) = .error e)
    : (∃ name, e = .duplicateField name ∧
        (columns.properties.names ++ fields.map FieldOf.name).Duplicate name) ∨
      ∃ field ∈ fields, field.dataType.toJsonSchema = .error e := by
  induction fields generalizing columns with
  | nil =>
    rw [addColumns, Success.pure_eq_error_iff] at h
    exact h.elim
  | cons field rest ih =>
    rw [addColumns_cons] at h
    by_cases hname : field.name ∈ columns.properties.names
    . rw [if_pos hname, Except.error.injEq] at h
      refine .inl ⟨field.name, h.symm, ?_⟩
      rw [List.map_cons, List.duplicate_iff_sublist]
      have hagain : [field.name].Sublist (field.name :: rest.map FieldOf.name) :=
        (List.nil_sublist _).cons_cons _
      exact (List.singleton_sublist.mpr hname).append hagain
    . rw [if_neg hname] at h
      rcases Success.bind_eq_error_iff.mp h with hbase | ⟨base, -, hrest⟩
      . exact .inr ⟨field, List.mem_cons_self, hbase⟩
      . rcases ih hrest with ⟨name, rfl, hduplicate⟩ | ⟨other, hother, hfail⟩
        . refine .inl ⟨name, rfl, ?_⟩
          simpa [Columns.add, Members.names] using hduplicate
        . exact .inr ⟨other, List.mem_cons_of_mem field hother, hfail⟩

theorem toJsonSchema_list_error {item : Field} (h : (DataType.list item).toJsonSchema = .error e)
    : item.dataType.toJsonSchema = .error e := by
  rw [DataType.toJsonSchema, DataType.toJsonSchemaM, Success.map_eq_error_iff] at h
  exact h

theorem toJsonSchema_struct_error {fields : List Field}
    (h : (DataType.struct fields).toJsonSchema = .error e)
    : (DataType.struct fields).Refuses e ∨
      ∃ field ∈ fields, field.dataType.toJsonSchema = .error e := by
  rw [DataType.toJsonSchema, DataType.toJsonSchemaM, Success.map_eq_error_iff] at h
  rcases addColumns_eq_error h with ⟨name, rfl, hduplicate⟩ | hfield
  . exact .inl (.duplicateField hduplicate)
  . exact .inr hfield

theorem toJsonSchema_union_error {members : List (Int8 × Field)}
    (h : (DataType.union members .dense).toJsonSchema = .error e)
    : (DataType.union members .dense).Refuses e ∨
      ∃ entry ∈ members, entry.2.dataType.toJsonSchema = .error e := by
  have hperm := sortById_perm members
  rw [toJsonSchema_union_eq] at h
  rcases Success.bind_eq_error_iff.mp h with hmember | ⟨converted, hconverted, hsmall⟩
  . obtain ⟨entry, hentry, hfail⟩ := Success.exists_mem_of_mapM_eq_error hmember
    exact .inr ⟨entry, hperm.mem_iff.mp hentry, hfail⟩
  . have hlength := (Success.mapM_eq_ok_iff.mp hconverted).length_eq
    rw [hperm.length_eq] at hlength
    cases hlist : JsonSchema.TwoOrMore.ofList? converted with
    | some list => simp [hlist] at hsmall
    | none =>
      simp only [hlist, Except.error.injEq] at hsmall
      rw [JsonSchema.TwoOrMore.ofList?_eq_none_iff, ← hlength] at hlist
      rw [← hsmall, ← hlength]
      exact .inl (.smallUnion hlist)

theorem refuses_or_part_error (h : type.toJsonSchema = .error e)
    : type.Refuses e ∨ ∃ part ∈ type.convertedParts, part.toJsonSchema = .error e := by
  cases type with
  | list item =>
    exact .inr ⟨item.dataType, List.mem_singleton_self _, toJsonSchema_list_error h⟩
  | largeList item =>
    exact .inr ⟨item.dataType, List.mem_singleton_self _, toJsonSchema_list_error h⟩
  | struct fields =>
    refine (toJsonSchema_struct_error h).imp_right ?_
    rintro ⟨field, hfield, hfail⟩
    exact ⟨_, List.mem_map_of_mem hfield, hfail⟩
  | union members mode =>
    cases mode with
    | sparse =>
      cases h
      exact .inl (.unsupported id)
    | dense =>
      refine (toJsonSchema_union_error h).imp_right ?_
      rintro ⟨entry, hentry, hfail⟩
      exact ⟨_, List.mem_map_of_mem hentry, hfail⟩
  | _ => cases h <;> exact .inl (.unsupported id)

theorem exists_refuses_of_error (h : type.toJsonSchema = .error e)
    : ∃ part, type.Reaches part ∧ part.Refuses e := by
  -- The types in a type come inside fields, so that the induction is on the size.
  induction hsize : sizeOf type using Nat.strongRecOn generalizing type with
  | ind size ih =>
    subst hsize
    rcases refuses_or_part_error h with hrefuses | ⟨part, hpart, hfail⟩
    . exact ⟨type, .refl type, hrefuses⟩
    . obtain ⟨other, hreaches, hrefuses⟩ := ih _ (sizeOf_convertedPart_lt hpart) hfail rfl
      exact ⟨other, .part hpart hreaches, hrefuses⟩

end Types

/-!
The fields of a schema are in order exactly if they are as the columns of a struct.
-/

section Schemas

variable {columns : Schema}

theorem describable_of_toJsonSchema {t : JsonSchema} (h : columns.toJsonSchema = .ok t)
    {type : DataType} (hreaches : (DataType.struct columns.fields).Reaches type)
    : type.Describable := by
  rcases columns.wrapped_or_struct with ⟨field, metadata, rfl, hname⟩ | hstruct
  . obtain ⟨base, hbase, -⟩ := (toJsonSchema_wrapped hname).mp h
    cases hreaches with
    | refl => exact ⟨trivial, trivial, List.nodup_singleton _⟩
    | part hmem hreaches =>
      obtain rfl := List.mem_singleton.mp hmem
      exact describable_of_reaches hbase hreaches
  . rw [hstruct] at h
    exact describable_of_reaches h hreaches

theorem exists_refuses_of_toJsonSchema {e : SchemaError} (h : columns.toJsonSchema = .error e)
    : ∃ type, (DataType.struct columns.fields).Reaches type ∧ type.Refuses e := by
  rcases columns.wrapped_or_struct with ⟨field, metadata, rfl, hname⟩ | hstruct
  . rw [toJsonSchema_wrapped_eq metadata hname, Success.bind_eq_error_iff] at h
    rcases h with hfail | ⟨base, -, hfolded⟩
    . obtain ⟨type, hreaches, hrefuses⟩ := exists_refuses_of_error hfail
      exact ⟨type, .part (List.mem_singleton_self _) hreaches, hrefuses⟩
    . cases hfolded
  . rw [hstruct] at h
    exact exists_refuses_of_error h

/--
An Arrow schema describes a JSON Schema tree exactly if all types that are converted with it have a
counterpart, all unions among them have two members at least, and no two columns have one name.
Otherwise the error says what is wrong with one of these types.
-/
theorem exists_toJsonSchema_iff
    : ((∃ t, columns.toJsonSchema = .ok t) ↔
        ∀ type, (DataType.struct columns.fields).Reaches type → type.Describable) ∧
      ∀ e, columns.toJsonSchema = .error e →
        ∃ type, (DataType.struct columns.fields).Reaches type ∧ type.Refuses e := by
  refine ⟨⟨?_, ?_⟩, fun _ => exists_refuses_of_toJsonSchema⟩
  . rintro ⟨t, h⟩ type hreaches
    exact describable_of_toJsonSchema h hreaches
  . intro hall
    cases h : columns.toJsonSchema with
    | ok t => exact ⟨t, rfl⟩
    | error e =>
      obtain ⟨type, hreaches, hrefuses⟩ := exists_refuses_of_toJsonSchema h
      exact (hrefuses.not_describable (hall type hreaches)).elim

end Schemas

end Arrow

end SchemaBridge
