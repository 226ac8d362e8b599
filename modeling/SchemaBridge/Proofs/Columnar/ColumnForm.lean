import SchemaBridge.Proofs.Columnar.FromArrow
import SchemaBridge.Proofs.Columnar.ToArrow
import SchemaBridge.Proofs.JsonSchema.Everywhere

/-!
This module contains the schema that comes back when a schema is converted to Arrow and from there
to a schema again, and the proof that this is what the two conversions do. Main definitions:
`JsonSchema.columnForm`, `JsonSchema.settled`. Main statement: `toJsonSchema_of_toColumnar`.
-/

namespace SchemaBridge

namespace JsonSchema

open Arrow (DataType Field rootField)

def mandatory (required : Option (List String)) (properties : List (String × JsonSchema))
    : List String :=
  (properties.filter fun property => !optional required property).map Prod.fst

mutual

/--
What the Arrow type of a schema describes. A schema without such a type has some form, too.
-/
def columnForm : JsonSchema → JsonSchema
  | ⟨_, .untyped⟩ => untyped
  | ⟨_, .null⟩ => null
  | ⟨_, .boolean⟩ => boolean
  | ⟨_, .integer _⟩ => integer
  | ⟨_, .number _⟩ => number
  | ⟨_, .string _⟩ => string
  | ⟨_, .array (some (.schema item)) _⟩ => array item.columnForm
  | ⟨_, .array _ _⟩ => plain (.array none {})
  | ⟨_, .object none _ _⟩ => plain (.object none none {})
  | ⟨_, .object (some properties) required _⟩ =>
    Arrow.Columns.toJsonSchema ⟨columnProperties required properties, mandatory required properties⟩
  | ⟨_, .union ⟨first, second, others⟩⟩ =>
    match TwoOrMore.nullableSide? ⟨first, second, others⟩ with
    | some .first => first.columnForm
    | some .second => second.columnForm
    | none => plain (.union ⟨first.columnForm, second.columnForm, columnForms others⟩)

def columnProperties (required : Option (List String))
    : List (String × JsonSchema) → List (String × JsonSchema)
  | [] => []
  | (name, value) :: rest =>
    (name, value.columnForm.folded (optional required (name, value))) ::
      columnProperties required rest

def columnForms : List JsonSchema → List JsonSchema
  | [] => []
  | member :: rest => member.columnForm :: columnForms rest

end

/--
What the columns of a schema describe.
-/
def settled (s : JsonSchema) : JsonSchema :=
  s.columnForm.folded s.isNullable

def columnProperty (required : Option (List String)) (property : String × JsonSchema)
    : String × JsonSchema :=
  (property.1, property.2.columnForm.folded (optional required property))

theorem columnProperties_eq (required : Option (List String))
    (properties : List (String × JsonSchema))
    : columnProperties required properties = properties.map (columnProperty required) := by
  induction properties with
  | nil => rfl
  | cons property rest ih =>
    rw [columnProperties, ih]
    rfl

theorem columnForms_eq (members : List JsonSchema)
    : columnForms members = members.map columnForm := by
  induction members with
  | nil => rfl
  | cons member rest ih => rw [columnForms, ih, List.map_cons]

section Forms

variable {annotations : Annotations}

theorem columnForm_of_scalar {s : JsonSchema} {kind : Kind} (hkind : s.body.kind? = some kind)
    (hscalar : kind.isScalar = true)
    : s.columnForm = plain kind.body := by
  obtain ⟨annotations, body⟩ := s
  cases body with
  | untyped => cases hkind
  | union members => cases hkind
  | array items k =>
    cases hkind
    cases hscalar
  | object properties required k =>
    cases hkind
    cases hscalar
  | _ =>
    cases hkind
    rfl

theorem columnForm_object {properties : List (String × JsonSchema)}
    {required : Option (List String)} {k : ObjectKeywords JsonSchema}
    : columnForm ⟨annotations, .object (some properties) required k⟩ =
      Arrow.Columns.toJsonSchema
        ⟨properties.map (columnProperty required), mandatory required properties⟩ := by
  rw [columnForm, columnProperties_eq]

theorem columnForm_union_of_side {members : TwoOrMore JsonSchema} {side : NullableSide}
    (hside : members.nullableSide? = some side)
    : columnForm ⟨annotations, .union members⟩ = (members.get side).columnForm := by
  obtain ⟨first, second, others⟩ := members
  rw [columnForm, hside]
  cases side <;> rfl

theorem columnForm_union {members : TwoOrMore JsonSchema} (hside : members.nullableSide? = none)
    : columnForm ⟨annotations, .union members⟩ = plain (.union (members.map columnForm)) := by
  obtain ⟨first, second, others⟩ := members
  rw [columnForm, hside]
  simp only [columnForms_eq]
  rfl

end Forms

@[simp]
theorem names_columnProperties (required : Option (List String))
    (properties : List (String × JsonSchema))
    : Members.names (properties.map (columnProperty required)) = Members.names properties := by
  rw [Members.names, List.map_map]
  rfl

/-!
The fields of an object and of a union come back as the forms of its properties and members.
-/

theorem requiredColumns_of_propertyFields {required : Option (List String)}
    {properties : List (String × JsonSchema)} {fields : List Field}
    (h : List.Forall₂ (IsPropertyField required) properties fields)
    : Arrow.requiredColumns fields = mandatory required properties := by
  induction h with
  | nil => rfl
  | cons hfield _ ih =>
    obtain ⟨type, -, rfl⟩ := hfield
    unfold Arrow.requiredColumns mandatory at *
    rw [List.filter_cons, List.filter_cons]
    split
    . rw [List.map_cons, List.map_cons, ih]
    . exact ih

theorem isColumn_of_propertyFields {required : Option (List String)}
    {properties : List (String × JsonSchema)} {fields : List Field}
    (h : List.Forall₂ (IsPropertyField required) properties fields)
    (hform : ∀ property ∈ properties, ∀ type, property.2.toDataType = .ok type →
      type.toJsonSchema = .ok property.2.columnForm)
    : List.Forall₂ Arrow.IsColumn fields (properties.map (columnProperty required)) := by
  induction h with
  | nil => exact .nil
  | cons hfield _ ih =>
    obtain ⟨type, htype, rfl⟩ := hfield
    apply List.Forall₂.cons
    . exact ⟨_, hform _ (by simp) type htype, rfl⟩
    . exact ih fun property hproperty => hform property (by simp [hproperty])

theorem ids_of_memberFields {ordinal : Nat} {members : List JsonSchema}
    {fields : List (Int8 × Field)}
    (h : List.Forall₂ IsMemberField (members.zipIdx ordinal) fields)
    : fields.map Prod.fst = (List.range' ordinal members.length).map Int8.ofNat := by
  induction members generalizing ordinal fields with
  | nil =>
    obtain rfl := List.forall₂_nil_left_iff.mp h
    rfl
  | cons member rest ih =>
    cases h with
    | cons hfield hrest =>
      obtain ⟨type, -, rfl⟩ := hfield
      simp [ih hrest, List.range'_succ]

theorem ascending_of_memberFields {members : List JsonSchema} {fields : List (Int8 × Field)}
    (h : List.Forall₂ IsMemberField members.zipIdx fields) (hlength : members.length ≤ unionLimit)
    : (fields.map Prod.fst).Pairwise (· < ·) := by
  rw [ids_of_memberFields h, List.pairwise_map]
  apply (List.pairwise_lt_range' (s := 0) (n := members.length)).imp_of_mem
  -- Places below the limit are not changed when they become 8-bit identifiers.
  intro i j hi hj hlt
  unfold unionLimit at hlength
  have hj' : j < 128 := by
    have := (List.mem_range'_1.mp hj).2
    omega
  rw [Int8.lt_iff_toInt_lt, Int8.toInt_ofNat_of_lt (by omega), Int8.toInt_ofNat_of_lt (by omega)]
  omega

theorem forms_of_memberFields {ordinal : Nat} {members : List JsonSchema}
    {fields : List (Int8 × Field)}
    (h : List.Forall₂ IsMemberField (members.zipIdx ordinal) fields)
    (hform : ∀ member ∈ members, ∀ type, member.toDataType = .ok type →
      type.toJsonSchema = .ok member.columnForm)
    : List.Forall₂ (fun entry form => entry.2.dataType.toJsonSchema = .ok form) fields
      (members.map columnForm) := by
  induction members generalizing ordinal fields with
  | nil =>
    obtain rfl := List.forall₂_nil_left_iff.mp h
    exact .nil
  | cons member rest ih =>
    cases h with
    | cons hfield hrest =>
      obtain ⟨type, htype, rfl⟩ := hfield
      apply List.Forall₂.cons
      . exact hform member (by simp) type htype
      . exact ih hrest fun other hother => hform other (by simp [hother])

theorem toJsonSchema_of_scalar {s : JsonSchema} {kind : Kind} {type : DataType}
    (hkind : s.body.kind? = some kind) (hscalar : kind.isScalar = true)
    (h : s.toDataType = .ok type)
    : type.toJsonSchema = .ok s.columnForm := by
  rw [toDataType_scalar hkind hscalar] at h
  obtain rfl := Except.ok.inj h
  rw [columnForm_of_scalar hkind hscalar]
  cases kind with
  | array => cases hscalar
  | object => cases hscalar
  | _ => rfl

theorem toJsonSchema_of_toDataType {s : JsonSchema} {type : DataType} (hnames : s.NamesDistinct)
    (h : s.toDataType = .ok type)
    : type.toJsonSchema = .ok s.columnForm := by
  induction s using JsonSchema.induction generalizing type with
  | step annotations body ih =>
    cases body with
    | untyped => exact (toDataType_untyped.mp h).elim
    | array items k =>
      obtain ⟨item, itemType, rfl, hitem, rfl⟩ := toDataType_array.mp h
      have hmem := Body.parts_subset_subschemas _ (Body.item_mem_parts item k)
      rw [columnForm]
      exact Arrow.toJsonSchema_list.mpr ⟨_, ih item hmem (hnames.child hmem) hitem, rfl⟩
    | object properties required k =>
      cases properties with
      | none =>
        obtain rfl := toDataType_object_none.mp h
        rfl
      | some properties =>
        obtain ⟨fields, hfields, rfl⟩ := toDataType_object_some.mp h
        rw [columnForm_object]
        apply Arrow.toJsonSchema_struct.mpr
        refine ⟨properties.map (columnProperty required), ?_, ?_, ?_⟩
        . apply isColumn_of_propertyFields hfields
          intro property hproperty type htype
          have hmem := Body.parts_subset_subschemas _ (Body.property_mem_parts hproperty required k)
          exact ih property.2 hmem (hnames.child hmem) htype
        . rw [names_columnProperties]
          exact hnames.self.1 properties rfl
        . rw [requiredColumns_of_propertyFields hfields]
    | union members =>
      cases hside : members.nullableSide? with
      | some side =>
        rw [toDataType_union_of_side hside] at h
        rw [columnForm_union_of_side hside]
        have hmem : members.get side ∈ (Body.union members).subschemas := members.get_mem side
        exact ih _ hmem (hnames.child hmem) h
      | none =>
        obtain ⟨hlength, fields, hfields, rfl⟩ := (toDataType_union hside).mp h
        rw [columnForm_union hside]
        apply Arrow.toJsonSchema_union.mpr
        refine ⟨members.map columnForm, ?_, rfl⟩
        rw [Arrow.sortById_of_ascending (ascending_of_memberFields hfields hlength)]
        apply forms_of_memberFields hfields
        intro member hmember type htype
        exact ih member hmember (hnames.child hmember) htype
    | _ => exact toJsonSchema_of_scalar rfl rfl h

theorem isNullable_of_unwrapped {s : JsonSchema} (h : s.body.unwrapped = true)
    : s.isNullable = false := by
  obtain ⟨annotations, body⟩ := s
  cases body with
  | object properties required k => rfl
  | _ => cases h

/--
The columns of a schema describe what it settles to.
-/
theorem toJsonSchema_of_toColumnar {s : JsonSchema} {columns : Arrow.Schema}
    (hnames : s.NamesDistinct) (h : s.toColumnar = .ok columns)
    : columns.toJsonSchema = .ok s.settled := by
  cases hunwrapped : s.body.unwrapped with
  | false =>
    obtain ⟨type, htype, rfl⟩ := (toColumnar_wrapped hunwrapped).mp h
    rw [Arrow.toJsonSchema_wrapped rfl]
    exact ⟨_, toJsonSchema_of_toDataType hnames htype, rfl⟩
  | true =>
    rw [settled, isNullable_of_unwrapped hunwrapped, folded_false]
    obtain ⟨annotations, body⟩ := s
    cases body with
    | object properties required k =>
      cases properties with
      | none => cases hunwrapped
      | some properties =>
        have hwrapped : looksWrapped properties = false := by
          simpa [Body.unwrapped] using hunwrapped
        obtain ⟨fields, hfields, rfl⟩ := (toColumnar_object hwrapped).mp h
        rw [Arrow.toJsonSchema_columns]
        . exact toJsonSchema_of_toDataType hnames
            (toDataType_object_some.mpr ⟨fields, hfields, rfl⟩)
        . -- A single column with the name of the wrapping field would have been wrapped.
          rintro field rfl hname
          obtain ⟨property, rfl, type, -, rfl⟩ : ∃ property, properties = [property] ∧
              IsPropertyField required property field := by
            cases hfields with
            | cons hfield hrest =>
              obtain rfl := List.forall₂_nil_right_iff.mp hrest
              exact ⟨_, rfl, hfield⟩
          have hroot : property.1 ≠ rootField := by simpa [looksWrapped] using hwrapped
          exact hroot hname
    | _ => cases hunwrapped

end JsonSchema

end SchemaBridge
