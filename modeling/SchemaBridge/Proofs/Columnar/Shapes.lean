import SchemaBridge.Proofs.Columnar.Cycle

/-!
This module contains what a schema keeps when it goes through its columns: its type, whether it
includes `null`, and the names of its properties. Of these, the ones stay required that cannot be
`null`. Main definition: `KeptProperties`. Main statement: `keptShape_of_toColumnar`.
-/

namespace SchemaBridge

namespace JsonSchema

variable {s : JsonSchema}

theorem typeName_of_isNullable (hnullable : s.isNullable = true) (hnull : s.isNull = false)
    : s.typeName = "union" := by
  rcases eq_union_or_ne_union s with ⟨annotations, members, rfl⟩ | hunion
  . rfl
  . rw [isNullable_eq_isNull hunion, hnull] at hnullable
    cases hnullable

theorem isNull_settled (s : JsonSchema) : s.settled.isNull = s.isNull := by
  rw [settled, isNull_folded, isNull_columnForm]

theorem typeName_settled (s : JsonSchema) : s.settled.typeName = s.typeName := by
  cases hside : s.side? with
  | none => rw [settled_eq_columnForm hside, typeName_columnForm hside]
  | some side =>
    -- The side need not be a union itself, but it becomes one again with `null`.
    obtain ⟨annotations, members, rfl, -⟩ := exists_union_of_side? hside
    apply typeName_of_isNullable
    . rw [isNullable_settled, isNullable_of_side? hside]
    . exact isNull_settled ⟨annotations, .union members⟩

/--
The properties and required names that an object keeps in its columns. All names stay in their
order, and `null` is told by the types: a property is required exactly if its type does not include
it.
-/
structure KeptProperties (required : Option (List String))
    (properties : List (String × JsonSchema)) (required' : Option (List String))
    (properties' : List (String × JsonSchema)) : Prop where
  names : Members.names properties' = Members.names properties
  required : ∀ name, requires required' name = true ↔ requires required name = true ∧
    ∃ value, Members.get? properties name = some value ∧ value.isNullable = false
  nullable : ∀ property ∈ properties',
    property.2.isNullable = true ↔ requires required' property.1 = false

section Properties

variable {required : Option (List String)} {properties : List (String × JsonSchema)}
  (hnames : (Members.names properties).Nodup)
include hnames

theorem mem_mandatory_iff_get? {name : String}
    : name ∈ mandatory required properties ↔ requires required name = true ∧
      ∃ value, Members.get? properties name = some value ∧ value.isNullable = false := by
  simp only [Members.get?_eq_some_iff hnames]
  constructor
  . intro h
    obtain ⟨property, hproperty, rfl⟩ := List.mem_map.mp h
    obtain ⟨hmem, hoptional⟩ := List.mem_filter.mp hproperty
    simp only [optional, Bool.not_or, Bool.not_not, Bool.and_eq_true, Bool.not_eq_true']
      at hoptional
    exact ⟨hoptional.1, property.2, hmem, hoptional.2⟩
  . rintro ⟨hrequires, value, hmem, hnullable⟩
    apply (mem_mandatory_iff hnames hmem).mpr
    rw [optional, hrequires, hnullable]
    rfl

theorem keptProperties_columnProperty
    : KeptProperties required properties (present (mandatory required properties))
        (properties.map (columnProperty required)) := by
  constructor
  . exact names_columnProperties required properties
  . intro name
    rw [requires_present, List.contains_iff_mem, mem_mandatory_iff_get? hnames]
  . rw [List.forall_mem_map]
    intro property hproperty
    have hrequires : requires (present (mandatory required properties))
        (columnProperty required property).1 = !optional required property :=
      requires_mandatory hnames hproperty
    rw [isNullable_columnProperty, hrequires, Bool.not_eq_false']

end Properties

/--
What the columns of a schema describe has the type of the schema, and includes `null` if the schema
does. An object with properties keeps them, also if its only one has the name of a wrapping field.
-/
theorem keptShape_of_toColumnar {columns : Arrow.Schema} (hnames : s.NamesDistinct)
    (h : s.toColumnar = .ok columns)
    : ∃ t, columns.toJsonSchema = .ok t ∧
      t.typeName = s.typeName ∧ t.isNullable = s.isNullable ∧
      ∀ properties required k, s.body = .object (some properties) required k → properties ≠ [] →
        ∃ properties' required', t.body = .object (some properties') required' {} ∧
          KeptProperties required properties required' properties' := by
  refine ⟨s.settled, toJsonSchema_of_toColumnar hnames h, typeName_settled s, isNullable_settled s,
    ?_⟩
  intro properties required k hbody hnonempty
  obtain ⟨annotations, body⟩ := s
  obtain rfl : body = .object (some properties) required k := hbody
  have hdistinct : (Members.names properties).Nodup := hnames.self.1 properties rfl
  refine ⟨_, _, ?_, keptProperties_columnProperty hdistinct⟩
  rw [settled_eq_columnForm rfl, columnForm_object, toJsonSchema_columns,
    present_map _ hnonempty]
  rfl

/--
A directory, whose only property is its root: this is missing, or it has a path or a number.
-/
def directorySchema : JsonSchema :=
  .plain (.object
    (some [("root", .plain (.union ⟨.null, .plain (.union ⟨.string, .integer, []⟩), []⟩))])
    (some ["root"]) {})

def directoryColumns : Arrow.Schema where
  fields := [
    ⟨"root", .struct [
      ⟨"root", .union
        [(0, ⟨"string", .text .utf8, false, {}⟩), (1, ⟨"integer", .integer .int64, false, {}⟩)]
        .dense, true, {}⟩], false, {}⟩]

theorem keptShape_of_toColumnar_directory
    : directorySchema.NamesDistinct ∧ directorySchema.toColumnar = .ok directoryColumns ∧
      ∃ t, directoryColumns.toJsonSchema = .ok t ∧ t.typeName = "object" ∧ t.isNullable = false ∧
        ∃ properties required, t.body = .object (some properties) required {} ∧
          Members.names properties = ["root"] ∧ requires required "root" = false ∧
          ∀ property ∈ properties, property.2.isNullable = true := by
  have hnames : directorySchema.NamesDistinct := by decide
  have hcolumns : directorySchema.toColumnar = .ok directoryColumns := by rfl
  obtain ⟨t, ht, htype, hnullable, hproperties⟩ := keptShape_of_toColumnar hnames hcolumns
  obtain ⟨properties, required, hbody, hkept⟩ := hproperties _ _ _ rfl (List.cons_ne_nil _ _)
  have hrequires : requires required "root" = false := by
    rw [Bool.eq_false_iff]
    intro h
    obtain ⟨-, value, hvalue, hnotnull⟩ := (hkept.required "root").mp h
    cases hvalue
    cases hnotnull
  refine ⟨hnames, hcolumns, t, ht, htype, hnullable, properties, required, hbody, hkept.names,
    hrequires, ?_⟩
  intro property hproperty
  have hname : property.1 ∈ Members.names properties := List.mem_map_of_mem hproperty
  rw [hkept.names] at hname
  rw [hkept.nullable property hproperty, List.mem_singleton.mp hname, hrequires]

end JsonSchema

end SchemaBridge
