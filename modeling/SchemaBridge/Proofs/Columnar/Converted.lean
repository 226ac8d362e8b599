import SchemaBridge.Proofs.Columnar.Describable

/-!
This module contains what conversion to Arrow comes to: a schema without columns is refused as
unsupported, and in the columns of any other one all union members have their places as type
identifiers and all columns of a struct have different names. Main definition:
`Arrow.DataType.Numbered`. Main statement: `toColumnar_converts`.
-/

namespace SchemaBridge

/--
The type identifiers of a dense union are the places of its members.
-/
def Arrow.DataType.Numbered : Arrow.DataType → Prop
  | .union members .dense =>
    ∀ (place : Nat) (entry : Int8 × Field), members[place]? = some entry → entry.1.toInt = place
  | _ => True

namespace JsonSchema

open Arrow (DataType Field FieldOf rootField)

variable {s : JsonSchema} {type : DataType} {e : SchemaError}

/-!
A schema is refused for one of the schemas that describe the values in its values, or for itself.
-/

theorem propertyFields_eq_error {required : Option (List String)}
    {properties : List (String × JsonSchema)}
    (h : (propertyFields required properties : Except SchemaError (List Field)) = .error e)
    : ∃ property ∈ properties, property.2.toDataType = .error e := by
  induction properties with
  | nil =>
    rw [propertyFields, Success.pure_eq_error_iff] at h
    exact h.elim
  | cons property rest ih =>
    simp only [propertyFields, Success.bind_eq_error_iff, Success.pure_eq_error_iff, and_false,
      exists_false, or_false] at h
    rcases h with hvalue | ⟨_, -, hrest⟩
    . exact ⟨property, List.mem_cons_self, hvalue⟩
    . obtain ⟨other, hother, hfail⟩ := ih hrest
      exact ⟨other, List.mem_cons_of_mem property hother, hfail⟩

theorem memberFields_eq_error {total ordinal : Nat} {members : List JsonSchema}
    (h : (memberFields total ordinal members : Except SchemaError (List (Int8 × Field))) = .error e)
    : e = .unsupported (.largeUnion total) ∨ ∃ member ∈ members, member.toDataType = .error e := by
  induction members generalizing ordinal with
  | nil =>
    rw [memberFields, Success.pure_eq_error_iff] at h
    exact h.elim
  | cons member rest ih =>
    unfold memberFields at h
    by_cases hlimit : unionLimit ≤ ordinal
    . rw [if_pos hlimit] at h
      cases h
      exact .inl rfl
    . simp only [if_neg hlimit, Success.bind_eq_error_iff, Success.pure_eq_error_iff, and_false,
        exists_false, or_false] at h
      rcases h with hmember | ⟨_, -, hrest⟩
      . exact .inr ⟨member, List.mem_cons_self, hmember⟩
      . refine (ih hrest).imp_right ?_
        rintro ⟨other, hother, hfail⟩
        exact ⟨other, List.mem_cons_of_mem member hother, hfail⟩

theorem exists_unsupported_of_toDataType (h : s.toDataType = .error e)
    : ∃ what, e = .unsupported what := by
  induction s using JsonSchema.induction with
  | step annotations body ih =>
    cases body with
    | untyped =>
      cases h
      exact ⟨_, rfl⟩
    | array items k =>
      rcases items with _ | _ | item
      . cases h
        exact ⟨_, rfl⟩
      . cases h
        exact ⟨_, rfl⟩
      . rw [toDataType, toDataTypeM, bind_pure_comp, Success.map_eq_error_iff] at h
        exact ih item (Body.parts_subset_subschemas _ (Body.item_mem_parts item k)) h
    | object properties required k =>
      cases properties with
      | none => cases h
      | some properties =>
        rw [toDataType, toDataTypeM, Success.map_eq_error_iff] at h
        obtain ⟨property, hproperty, hfail⟩ := propertyFields_eq_error h
        have hmem := Body.property_mem_parts hproperty required k
        exact ih property.2 (Body.parts_subset_subschemas _ hmem) hfail
    | union members =>
      cases hside : members.nullableSide? with
      | some side =>
        rw [toDataType_union_of_side hside] at h
        exact ih _ (members.get_mem side) h
      | none =>
        simp only [toDataType_union_eq hside, Success.bind_eq_error_iff, Success.pure_eq_error_iff,
          and_false, exists_false, or_false] at h
        rcases memberFields_eq_error h with rfl | ⟨member, hmember, hfail⟩
        . exact ⟨_, rfl⟩
        . exact ih member hmember hfail
    | _ => cases h

/-!
The types that schemas are converted to are numbered, and their columns have different names.
-/

theorem numbered_of_memberFields {members : List JsonSchema} {fields : List (Int8 × Field)}
    (h : List.Forall₂ IsMemberField members.zipIdx fields) (hlength : members.length ≤ unionLimit)
    : (DataType.union fields .dense).Numbered := by
  intro place entry hentry
  have hplace : place < members.length := by
    have hfields := (List.getElem?_eq_some_iff.mp hentry).1
    rwa [← h.length_eq, List.length_zipIdx] at hfields
  have hid : (fields.map Prod.fst)[place]? = some entry.1 := by
    rw [List.getElem?_map, hentry]
    rfl
  rw [ids_of_memberFields h, List.getElem?_map, List.getElem?_range' hplace, Option.map_some,
    Option.some.injEq, Nat.zero_add, Nat.one_mul] at hid
  -- The limit is what 8-bit identifiers can tell apart, so no place wraps around.
  rw [← hid, Int8.toInt_ofNat_of_lt (Nat.lt_of_lt_of_le hplace hlength)]

theorem names_of_propertyFields {required : Option (List String)}
    {properties : List (String × JsonSchema)} {fields : List Field}
    (h : List.Forall₂ (IsPropertyField required) properties fields)
    : fields.map FieldOf.name = Members.names properties := by
  refine (map_eq_map_of_forall₂ h ?_).symm
  rintro property - field ⟨type, -, rfl⟩
  rfl

theorem everywhere_of_toDataType (hnames : s.NamesDistinct) (h : s.toDataType = .ok type)
    : type.Everywhere fun part => part.Numbered ∧ part.DistinctColumns := by
  induction s using JsonSchema.induction generalizing type with
  | step annotations body ih =>
    have hpart {c : JsonSchema} (hc : c ∈ body.parts) {type : DataType}
        (h : c.toDataType = .ok type)
        : type.Everywhere fun part => part.Numbered ∧ part.DistinctColumns := by
      have hmem := Body.parts_subset_subschemas _ hc
      exact ih c hmem (hnames.child hmem) h
    cases body with
    | untyped => exact (toDataType_untyped.mp h).elim
    | array items k =>
      obtain ⟨item, itemType, rfl, hitem, rfl⟩ := toDataType_array.mp h
      refine .intro ⟨trivial, trivial⟩ ?_
      exact List.forall_mem_singleton.mpr (hpart (Body.item_mem_parts item k) hitem)
    | object properties required k =>
      cases properties with
      | none =>
        obtain rfl := toDataType_object_none.mp h
        exact .of_children_eq_nil rfl ⟨trivial, List.nodup_nil⟩
      | some properties =>
        obtain ⟨fields, hfields, rfl⟩ := toDataType_object_some.mp h
        have hdistinct : (Members.names properties).Nodup := hnames.self.1 properties rfl
        rw [← names_of_propertyFields hfields] at hdistinct
        refine .intro ⟨trivial, hdistinct⟩ ?_
        rw [DataType.parts, List.forall_mem_map]
        intro field hfield
        obtain ⟨property, hproperty, type, htype, rfl⟩ := exists_left_of_forall₂ hfields hfield
        exact hpart (Body.property_mem_parts hproperty required k) htype
    | union members =>
      cases hside : members.nullableSide? with
      | some side =>
        rw [toDataType_union_of_side hside] at h
        exact hpart (members.get_mem side) h
      | none =>
        obtain ⟨hlength, fields, hfields, rfl⟩ := (toDataType_union hside).mp h
        refine .intro ⟨numbered_of_memberFields hfields hlength, trivial⟩ ?_
        rw [DataType.parts, List.forall_mem_map]
        intro entry hentry
        obtain ⟨place, hplace, type, htype, rfl⟩ := exists_left_of_forall₂ hfields hentry
        exact hpart (List.fst_mem_of_mem_zipIdx hplace) htype
    | _ =>
      rw [toDataType_scalar rfl rfl] at h
      obtain rfl := Except.ok.inj h
      exact .of_children_eq_nil rfl ⟨trivial, trivial⟩

theorem everywhere_of_toColumnar {columns : Arrow.Schema} (hnames : s.NamesDistinct)
    (h : s.toColumnar = .ok columns)
    : (DataType.struct columns.fields).Everywhere fun part =>
        part.Numbered ∧ part.DistinctColumns := by
  cases hunwrapped : s.body.unwrapped with
  | false =>
    obtain ⟨type, htype, rfl⟩ := (toColumnar_wrapped hunwrapped).mp h
    refine .intro ⟨trivial, List.nodup_singleton rootField⟩ ?_
    exact List.forall_mem_singleton.mpr (everywhere_of_toDataType hnames htype)
  | true =>
    obtain ⟨fields, hfields, rfl⟩ := (toColumnar_unwrapped hunwrapped).mp h
    exact everywhere_of_toDataType hnames hfields

/--
A schema goes to columns exactly if it is convertible, and is refused as unsupported otherwise. In
the columns, the members of all dense unions are numbered from zero, and no two columns of a struct,
nor two on the top level, have one name.
-/
theorem toColumnar_converts (hnames : s.NamesDistinct)
    : ((∃ columns, s.toColumnar = .ok columns) ↔ s.Convertible) ∧
      (¬s.Convertible → ∃ what, s.toColumnar = .error (.unsupported what)) ∧
      ∀ columns, s.toColumnar = .ok columns →
        (DataType.struct columns.fields).Everywhere fun part =>
          part.Numbered ∧ part.DistinctColumns := by
  refine ⟨exists_toColumnar_iff, ?_, fun columns h => everywhere_of_toColumnar hnames h⟩
  intro hconvertible
  cases h : s.toColumnar with
  | ok columns => exact (hconvertible (exists_toColumnar_iff.mp ⟨columns, h⟩)).elim
  | error e =>
    obtain ⟨what, rfl⟩ := exists_unsupported_of_toDataType (toColumnar_eq_error_iff.mp h)
    exact ⟨what, rfl⟩

/--
A sample has an optional value of one of three types, and a list of marks with a place each.
-/
def sampleSchema : JsonSchema :=
  .plain (.object
    (some [
      ("value", .plain (.union ⟨.string, .integer, [.number]⟩)),
      ("marks", .array (.plain (.object
        (some [("place", .plain (.union ⟨.null, .plain (.union ⟨.string, .integer, []⟩), []⟩))])
        none {})))])
    none {})

/--
One member more than type identifiers can tell apart.
-/
def crowdedSchema : JsonSchema :=
  .array (.plain (.union ⟨.boolean, .null, List.replicate 127 .string⟩))

theorem toColumnar_converts_sample
    : (sampleSchema.NamesDistinct ∧ ∃ columns, sampleSchema.toColumnar = .ok columns ∧
        (DataType.struct columns.fields).Everywhere fun part =>
          part.Numbered ∧ part.DistinctColumns) ∧
      crowdedSchema.NamesDistinct ∧
        ∃ what, crowdedSchema.toColumnar = .error (.unsupported what) := by
  have hsample : sampleSchema.NamesDistinct := by decide
  have hcrowded : crowdedSchema.NamesDistinct := by decide +kernel
  obtain ⟨hiff, -, hcolumns⟩ := toColumnar_converts hsample
  obtain ⟨columns, h⟩ := hiff.mpr (by decide)
  refine ⟨⟨hsample, columns, h, hcolumns columns h⟩, hcrowded, ?_⟩
  exact (toColumnar_converts hcrowded).2.1 (by decide +kernel)

end JsonSchema

end SchemaBridge
