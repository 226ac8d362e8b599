import SchemaBridge.Proofs.Columnar.ColumnForm
import SchemaBridge.Proofs.Columnar.Convertible
import SchemaBridge.Proofs.Members

/-!
This module contains the proof that a schema which came back from its columns is not changed by
another round. Main statements: `columnForm_columnForm`, `settled_settled`.
-/

namespace SchemaBridge

namespace JsonSchema

variable {s : JsonSchema}

theorem columnForm_of_side?_eq_none (h : s.side? = none)
    : ∃ body, s.columnForm = plain body ∧ body.typeName = s.body.typeName := by
  obtain ⟨annotations, body⟩ := s
  cases body with
  | array items k =>
    rcases items with _ | _ | item
    . exact ⟨_, rfl, rfl⟩
    . exact ⟨_, rfl, rfl⟩
    . rw [columnForm]
      exact ⟨_, rfl, rfl⟩
  | object properties required k =>
    cases properties with
    | none => exact ⟨_, rfl, rfl⟩
    | some properties =>
      rw [columnForm_object]
      exact ⟨_, rfl, rfl⟩
  | union members =>
    rw [columnForm_union h]
    exact ⟨_, rfl, rfl⟩
  | _ => exact ⟨_, rfl, rfl⟩

theorem ne_union_columnForm (h : ∀ members, s.body ≠ .union members)
    : ∀ members, s.columnForm.body ≠ .union members := by
  obtain ⟨form, hform, hname⟩ := columnForm_of_side?_eq_none (side?_of_not_union h)
  rw [hform]
  rintro members rfl
  obtain ⟨members, hmembers⟩ := Body.exists_union_of_typeName hname.symm
  exact h members hmembers

theorem exists_columnForm_eq (s : JsonSchema)
    : ∃ t : JsonSchema, t.side? = none ∧ t.isNull = s.isNull ∧ s.columnForm = t.columnForm := by
  induction s using JsonSchema.induction with
  | step annotations body ih =>
    cases hside : side? ⟨annotations, body⟩ with
    | none => exact ⟨_, hside, rfl, rfl⟩
    | some side =>
      -- The side may be such a union again, so this goes on down to the first one that is not.
      obtain ⟨_, members, heq, hside⟩ := exists_union_of_side? hside
      cases heq
      obtain ⟨t, ht, hnull, hform⟩ := ih _ (members.get_mem side)
      refine ⟨t, ht, ?_, (columnForm_union_of_side hside).trans hform⟩
      rw [hnull, TwoOrMore.isNull_get hside]
      rfl

theorem annotations_columnForm (s : JsonSchema) : s.columnForm.annotations = {} := by
  obtain ⟨t, ht, -, heq⟩ := exists_columnForm_eq s
  obtain ⟨form, hform, -⟩ := columnForm_of_side?_eq_none ht
  rw [heq, hform]
  rfl

theorem isNull_columnForm (s : JsonSchema) : s.columnForm.isNull = s.isNull := by
  obtain ⟨t, ht, hnull, heq⟩ := exists_columnForm_eq s
  obtain ⟨form, hform, hname⟩ := columnForm_of_side?_eq_none ht
  rw [heq, ← hnull, hform, isNull, isNull, plain, Body.isNull_eq, Body.isNull_eq, hname]

theorem nullableSide?_map_columnForm (members : TwoOrMore JsonSchema)
    : (members.map columnForm).nullableSide? = members.nullableSide? := by
  apply TwoOrMore.nullableSide?_map
  intro member _
  exact isNull_columnForm member

theorem side?_columnForm (s : JsonSchema) : s.columnForm.side? = none := by
  obtain ⟨t, ht, -, heq⟩ := exists_columnForm_eq s
  rw [heq]
  rcases eq_union_or_ne_union t with ⟨annotations, members, rfl⟩ | hunion
  . rw [columnForm_union ht]
    exact (nullableSide?_map_columnForm members).trans ht
  . exact side?_of_not_union (ne_union_columnForm hunion)

theorem isNullable_columnForm (h : s.side? = none) : s.columnForm.isNullable = s.isNullable := by
  rcases eq_union_or_ne_union s with ⟨annotations, members, rfl⟩ | hunion
  . rw [columnForm_union h, plain, isNullable_union, isNullable_union, TwoOrMore.toList_map,
      List.any_map]
    simp only [Function.comp_def, isNull_columnForm]
  . rw [isNullable_eq_isNull hunion, isNullable_eq_isNull (ne_union_columnForm hunion),
      isNull_columnForm]

theorem isNullable_of_columnForm (h : s.columnForm.isNullable = true) : s.isNullable = true := by
  cases hside : s.side? with
  | none =>
    rw [← isNullable_columnForm hside]
    exact h
  | some side => exact isNullable_of_side? hside

theorem columnForm_nullable (h : s.isNull = false)
    : columnForm (plain (.union ⟨s, null, []⟩)) = s.columnForm := by
  rw [plain, columnForm_union_of_side (nullableSide?_null h)]
  rfl

/-!
An object that comes back has a keyword only for a list that is not empty.
-/

def present {α : Type} (list : List α) : Option (List α) :=
  if list.isEmpty then none else some list

theorem toJsonSchema_columns (columns : Arrow.Columns)
    : columns.toJsonSchema =
      plain (.object (present columns.properties) (present columns.required) {}) := rfl

theorem present_of_ne_nil {α : Type} {list : List α} (h : list ≠ [])
    : present list = some list := by
  cases list with
  | nil => exact (h rfl).elim
  | cons _ _ => rfl

theorem present_map {α β : Type} (f : α → β) {list : List α} (h : list ≠ [])
    : present (list.map f) = some (list.map f) := by
  apply present_of_ne_nil
  rw [ne_eq, List.map_eq_nil_iff]
  exact h

theorem requires_present (names : List String) (name : String)
    : requires (present names) name = names.contains name := by
  unfold present
  cases names <;> rfl

theorem namedSubschemas_present {σ : Type} (members : List (String × σ))
    : namedSubschemas (present members) = members.map Prod.snd := by
  unfold present
  cases members <;> rfl

theorem columnForm_present {annotations : Annotations} {properties : List (String × JsonSchema)}
    {required : Option (List String)} {k : ObjectKeywords JsonSchema}
    : columnForm ⟨annotations, .object (present properties) required k⟩ =
      Arrow.Columns.toJsonSchema
        ⟨properties.map (columnProperty required), mandatory required properties⟩ := by
  unfold present
  cases properties with
  | nil => rfl
  | cons property rest => exact columnForm_object

theorem folded_columnForm_folded (h : s.columnForm = s) (nullable : Bool)
    : (s.folded nullable).columnForm.folded nullable = s.folded nullable := by
  cases nullable with
  | false => exact h
  | true =>
    cases hnullable : s.isNullable with
    | true => rw [folded_of_isNullable hnullable, h, folded_of_isNullable hnullable]
    | false =>
      rw [folded_true_of_not_isNullable hnullable]
      rcases eq_union_or_ne_union s with ⟨annotations, members, rfl⟩ | hunion
      . -- Without a null member the union keeps all its members, so they are forms as well.
        rw [columnForm_union (side?_of_not_isNullable hnullable), plain, mk.injEq,
          Body.union.injEq] at h
        obtain ⟨rfl, hforms⟩ := h
        have hpush : (members.push null).map columnForm = members.push null := by
          rw [TwoOrMore.map_push, hforms]
          rfl
        rw [withNull, columnForm_union (members.nullableSide?_push null), hpush]
        exact folded_of_isNullable (isNullable_withNull ⟨{}, .union members⟩) true
      . have hnull : s.isNull = false := by rw [← isNullable_eq_isNull hunion, hnullable]
        rw [withNull_of_not_union hunion]
        rw [columnForm_nullable hnull, h, folded_true_of_not_isNullable hnullable,
          withNull_of_not_union hunion]

theorem isNullable_settled (s : JsonSchema) : s.settled.isNullable = s.isNullable := by
  rw [settled, isNullable_folded]
  cases hnullable : s.isNullable with
  | true => rfl
  | false =>
    rw [Bool.false_or, Bool.eq_false_iff]
    intro h
    rw [isNullable_of_columnForm h] at hnullable
    cases hnullable

theorem settled_eq_columnForm (h : s.side? = none) : s.settled = s.columnForm := by
  rw [settled, ← isNullable_columnForm h]
  cases hnullable : s.columnForm.isNullable with
  | false => rfl
  | true => exact folded_of_isNullable hnullable true

theorem settled_nullable (hunion : ∀ members, s.body ≠ .union members) (hnull : s.isNull = false)
    : settled (plain (.union ⟨s, null, []⟩)) = plain (.union ⟨s.columnForm, null, []⟩) := by
  have hnullable : isNullable (plain (.union ⟨s, null, []⟩)) = true :=
    TwoOrMore.any_isNull_of_nullableSide? (nullableSide?_null hnull)
  have hform : s.columnForm.isNullable = false := by
    rw [isNullable_eq_isNull (ne_union_columnForm hunion), isNull_columnForm, hnull]
  rw [settled, hnullable, columnForm_nullable hnull, folded_true_of_not_isNullable hform,
    withNull_of_not_union (ne_union_columnForm hunion)]

theorem mem_mandatory_iff {required : Option (List String)}
    {properties : List (String × JsonSchema)} (hnames : (Members.names properties).Nodup)
    {property : String × JsonSchema} (hproperty : property ∈ properties)
    : property.1 ∈ mandatory required properties ↔ optional required property = false := by
  rw [mandatory, Members.mem_names_filter_iff hnames hproperty, Bool.not_eq_true']

theorem isNullable_columnProperty (required : Option (List String))
    (property : String × JsonSchema)
    : (columnProperty required property).2.isNullable = optional required property := by
  rw [columnProperty, isNullable_folded]
  cases hoptional : optional required property with
  | true => rfl
  | false =>
    rw [Bool.false_or, Bool.eq_false_iff]
    intro h
    rw [optional, isNullable_of_columnForm h, Bool.or_true] at hoptional
    cases hoptional

theorem requires_mandatory {required : Option (List String)}
    {properties : List (String × JsonSchema)} (hnames : (Members.names properties).Nodup)
    {property : String × JsonSchema} (hproperty : property ∈ properties)
    : requires (present (mandatory required properties)) property.1 =
      !optional required property := by
  rw [requires_present, Bool.eq_iff_iff, List.contains_iff_mem, Bool.not_eq_true']
  exact mem_mandatory_iff hnames hproperty

theorem optional_columnProperty {required : Option (List String)}
    {properties : List (String × JsonSchema)} (hnames : (Members.names properties).Nodup)
    {property : String × JsonSchema} (hproperty : property ∈ properties)
    : optional (present (mandatory required properties)) (columnProperty required property) =
      optional required property := by
  have hrequires : requires (present (mandatory required properties))
      (columnProperty required property).1 = !optional required property :=
    requires_mandatory hnames hproperty
  rw [optional, isNullable_columnProperty, hrequires, Bool.not_not, Bool.or_self]

theorem mandatory_columnProperty {required : Option (List String)}
    {properties : List (String × JsonSchema)} (hnames : (Members.names properties).Nodup)
    : mandatory (present (mandatory required properties))
        (properties.map (columnProperty required)) = mandatory required properties := by
  have hfilter : (properties.filter fun property =>
        !optional (present (mandatory required properties)) (columnProperty required property)) =
      properties.filter fun property => !optional required property := by
    apply List.filter_congr
    intro property hproperty
    rw [optional_columnProperty hnames hproperty]
  conv_lhs => unfold mandatory
  rw [List.filter_map, List.map_map]
  exact congrArg (List.map Prod.fst) hfilter

theorem columnProperty_columnProperty (required : Option (List String))
    {properties : List (String × JsonSchema)} (hnames : (Members.names properties).Nodup)
    (hforms : ∀ property ∈ properties, property.2.columnForm.columnForm = property.2.columnForm)
    : (properties.map (columnProperty required)).map
        (columnProperty (present (mandatory required properties))) =
      properties.map (columnProperty required) := by
  rw [List.map_map]
  apply List.map_congr_left
  intro property hproperty
  rw [Function.comp_apply, columnProperty, optional_columnProperty hnames hproperty,
    columnProperty, folded_columnForm_folded (hforms property hproperty)]

theorem columnForm_columnForm (hnames : s.NamesDistinct)
    : s.columnForm.columnForm = s.columnForm := by
  induction s using JsonSchema.induction with
  | step annotations body ih =>
    have hform (c : JsonSchema) (hc : c ∈ body.subschemas) := ih c hc (hnames.child hc)
    cases body with
    | array items k =>
      rcases items with _ | _ | item
      . rfl
      . rfl
      . have hitem := hform item (Body.parts_subset_subschemas _ (Body.item_mem_parts item k))
        rw [columnForm, array, plain, columnForm, hitem]
        rfl
    | object properties required k =>
      cases properties with
      | none => rfl
      | some properties =>
        have hdistinct : (Members.names properties).Nodup := hnames.self.1 properties rfl
        have hforms (property : String × JsonSchema) (hproperty : property ∈ properties)
            : property.2.columnForm.columnForm = property.2.columnForm := by
          have hpart := Body.property_mem_parts hproperty required k
          exact hform _ (Body.parts_subset_subschemas _ hpart)
        have hproperties := columnProperty_columnProperty required hdistinct hforms
        rw [columnForm_object, toJsonSchema_columns, plain, columnForm_present, hproperties,
          mandatory_columnProperty hdistinct]
        rfl
    | union members =>
      cases hside : members.nullableSide? with
      | some side =>
        rw [columnForm_union_of_side hside]
        exact hform _ (members.get_mem side)
      | none =>
        have hmembers : (members.map columnForm).map columnForm = members.map columnForm := by
          rw [TwoOrMore.map_map]
          exact TwoOrMore.map_congr fun member hmember => hform member hmember
        -- The forms are null where the members are, so that no side appears.
        have hside' := (nullableSide?_map_columnForm members).trans hside
        rw [columnForm_union hside, plain, columnForm_union hside', hmembers]
        rfl
    | _ => rfl

/--
A schema settles after one round.
-/
theorem settled_settled (hnames : s.NamesDistinct) : s.settled.settled = s.settled := by
  rw [settled, isNullable_settled, settled]
  exact folded_columnForm_folded (columnForm_columnForm hnames) s.isNullable

end JsonSchema

end SchemaBridge
