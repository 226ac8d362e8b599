import SchemaBridge.Proofs.Columnar.Idempotence
import SchemaBridge.Proofs.JsonSchema.Agreement

/-!
This module contains the schemas that come back unchanged from their columns, up to the order of
properties and of required names: those without any annotation or keyword that columns do not
express. Main definition: `Bare`. Main statement: `roundTrip_agrees_iff`.
-/

namespace SchemaBridge

namespace JsonSchema

variable {s t : JsonSchema}

/--
An object requires exactly the properties whose types do not include `null`, and has the `required`
keyword only if there are any.
-/
def RequiresExactly (required : Option (List String)) (properties : List (String × JsonSchema))
    : Prop :=
  required ≠ some [] ∧
    ∀ name, requires required name = true ↔
      ∃ value, (name, value) ∈ properties ∧ value.isNullable = false

mutual

/--
A schema that carries nothing but what its Arrow type expresses.
-/
inductive Bare : JsonSchema → Prop where
  | scalar {kind : Kind} (scalar : kind.isScalar = true) : Bare (plain kind.body)
  | array {item : JsonSchema} (bare : Bare item) : Bare (array item)
  | undeclared : Bare (plain (.object none none {}))
  | object {properties : List (String × JsonSchema)} {required : Option (List String)}
      (nonempty : properties ≠ []) (values : ∀ property ∈ properties, BareColumn property.2)
      (requires : RequiresExactly required properties)
      : Bare (plain (.object (some properties) required {}))
  | union {list : TwoOrMore JsonSchema} (members : ∀ member ∈ list.toList, Bare member)
      (limit : list.toList.length ≤ 128) (side : list.nullableSide? = none)
      : Bare (plain (.union list))

/--
A bare schema, or one beside which `null` is the second and last member of a union.
-/
inductive BareColumn : JsonSchema → Prop where
  | bare {s : JsonSchema} (bare : Bare s) : BareColumn s
  | nullable {s : JsonSchema} (bare : Bare s) (union : ∀ list, s.body ≠ .union list)
      (null : s.isNull = false) : BareColumn (plain (.union ⟨s, .null, []⟩))

end

/-!
What is bare comes back.
-/

theorem Bare.side?_eq_none (h : Bare s) : s.side? = none := by
  cases h with
  | @scalar kind scalar => cases kind <;> rfl
  | union members limit side => exact side
  | _ => rfl

theorem mem_mandatory_iff_of_optional {required : Option (List String)}
    {properties : List (String × JsonSchema)}
    (h : ∀ property ∈ properties, optional required property = property.2.isNullable)
    (name : String)
    : name ∈ mandatory required properties ↔
      ∃ value, (name, value) ∈ properties ∧ value.isNullable = false := by
  unfold mandatory
  simp only [List.mem_map, List.mem_filter]
  constructor
  . rintro ⟨property, ⟨hproperty, hoptional⟩, rfl⟩
    rw [h property hproperty, Bool.not_eq_true'] at hoptional
    exact ⟨property.2, hproperty, hoptional⟩
  . rintro ⟨value, hproperty, hnullable⟩
    refine ⟨(name, value), ⟨hproperty, ?_⟩, rfl⟩
    rw [h _ hproperty, hnullable]
    rfl

theorem RequiresExactly.optional_eq {required : Option (List String)}
    {properties : List (String × JsonSchema)} (h : RequiresExactly required properties)
    {property : String × JsonSchema} (hproperty : property ∈ properties)
    : optional required property = property.2.isNullable := by
  obtain ⟨name, value⟩ := property
  unfold optional
  cases hnullable : value.isNullable with
  | true => exact Bool.or_true _
  | false =>
    have hrequires : requires required name = true := (h.2 name).mpr ⟨value, hproperty, hnullable⟩
    rw [hrequires]
    rfl

theorem requiresExactly_iff {required : Option (List String)}
    {properties : List (String × JsonSchema)} (hnames : (Members.names properties).Nodup)
    (hrequired : ∀ names ∈ required, names.Nodup)
    (hoptional : ∀ property ∈ properties, optional required property = property.2.isNullable)
    : RequiresExactly required properties ↔
      bothOr sameNames (present (mandatory required properties)) required = true := by
  have hnodup := nodup_mandatory hnames required
  unfold RequiresExactly
  simp only [← mem_mandatory_iff_of_optional hoptional]
  generalize mandatory required properties = listed at hnodup
  cases required with
  | none =>
    have hrequires (name : String) : requires none name = true ↔ False := by simp [requires]
    simp only [hrequires, false_iff]
    cases listed with
    | nil => simp [present, bothOr]
    | cons name rest =>
      rw [present_of_ne_nil (List.cons_ne_nil name rest)]
      apply iff_of_false
      . rintro ⟨-, h⟩
        exact h name List.mem_cons_self
      . exact Bool.false_ne_true
  | some names =>
    have hrequires (name : String) : requires (some names) name = true ↔ name ∈ names :=
      List.contains_iff_mem
    simp only [hrequires]
    cases listed with
    | nil => simp [present, bothOr, ← List.eq_nil_iff_forall_not_mem]
    | cons name rest =>
      rw [present_of_ne_nil (List.cons_ne_nil name rest), bothOr,
        sameNames_iff hnodup (hrequired names rfl)]
      constructor
      . rintro ⟨-, h⟩ other
        exact (h other).symm
      . intro h
        constructor
        . intro hnil
          obtain rfl := Option.some.inj hnil
          cases (h name).mp List.mem_cons_self
        . intro other
          exact (h other).symm

theorem properties_agree {required : Option (List String)}
    {properties : List (String × JsonSchema)} (h : RequiresExactly required properties)
    (hnames : (Members.names properties).Nodup)
    (hvalues : ∀ property ∈ properties, property.2.settled.agrees property.2 = true)
    : Members.agreeWith
        (Members.mapValues agrees (properties.map (columnProperty required))) properties
        =
      true := by
  rw [← names_columnProperties required] at hnames
  apply (Members.agreeWith_iff_matched hnames).mpr
  apply Matched.of_forall₂
  rw [List.forall₂_map_left_iff, List.forall₂_same]
  intro property hproperty
  refine ⟨rfl, ?_⟩
  rw [columnProperty, h.optional_eq hproperty]
  exact hvalues property hproperty

section Parts

variable (hs : s.WellFormed)
  (hparts : ∀ c ∈ s.body.parts, (c.Bare → c.columnForm.agrees c = true) ∧
    (c.BareColumn → c.settled.agrees c = true))
include hs hparts

theorem columnForm_agrees_of_bare (h : s.Bare) : s.columnForm.agrees s = true := by
  cases h with
  | @scalar kind scalar =>
    have hkind : (plain kind.body).body.kind? = some kind := kind.kind?_body
    rw [columnForm_of_scalar hkind scalar]
    exact (scalar_agrees_iff scalar).mpr rfl
  | @array item bare =>
    have hitem := (hparts item (Body.item_mem_parts item {})).1 bare
    rw [JsonSchema.array, plain, columnForm]
    exact array_agrees_iff.mpr ⟨item, rfl, hitem⟩
  | undeclared => exact object_agrees_iff.mpr ⟨none, none, rfl, rfl, rfl⟩
  | @object properties required nonempty values requires =>
    have hnames : (Members.names properties).Nodup := hs.names.self.1 properties rfl
    have hvalues (property : String × JsonSchema) (hproperty : property ∈ properties)
        : property.2.settled.agrees property.2 = true :=
      (hparts _ (Body.property_mem_parts hproperty required {})).2 (values property hproperty)
    rw [plain, columnForm_object, toJsonSchema_columns, present_map _ nonempty]
    apply object_agrees_iff.mpr
    refine ⟨some properties, required, rfl, ?_, ?_⟩
    . exact properties_agree requires hnames hvalues
    . rw [← requiresExactly_iff hnames hs.required.self fun _ => requires.optional_eq]
      exact requires
  | @union list members limit side =>
    rw [plain, columnForm_union side]
    apply union_agrees_iff.mpr
    refine ⟨list, rfl, ?_⟩
    rw [TwoOrMore.toList_map, List.forall₂_map_left_iff, List.forall₂_same]
    intro member hmember
    exact (hparts member hmember).1 (members member hmember)

theorem settled_agrees_of_bareColumn (h : s.BareColumn) : s.settled.agrees s = true := by
  cases h with
  | bare bare =>
    rw [settled_eq_columnForm bare.side?_eq_none]
    exact columnForm_agrees_of_bare hs hparts bare
  | @nullable s bare union hnull =>
    have hform := (hparts s List.mem_cons_self).1 bare
    rw [settled_nullable union hnull]
    exact union_agrees_iff.mpr ⟨_, rfl, .cons hform (.cons null_agrees_null .nil)⟩

end Parts

theorem agrees_of_bare (hs : s.WellFormed)
    : (s.Bare → s.columnForm.agrees s = true) ∧ (s.BareColumn → s.settled.agrees s = true) := by
  -- The properties of a bare object need not be bare, so both parts go through one induction.
  induction s using JsonSchema.induction with
  | step annotations body ih =>
    have hparts (c : JsonSchema) (hc : c ∈ body.parts) :=
      have hmem := body.parts_subset_subschemas hc
      ih c hmem (hs.child hmem)
    constructor
    . exact columnForm_agrees_of_bare hs hparts
    . exact settled_agrees_of_bareColumn hs hparts

/-!
What comes back is bare.
-/

theorem optional_eq_of_agrees {required : Option (List String)} {property : String × JsonSchema}
    (h : (columnProperty required property).2.agrees property.2 = true)
    : optional required property = property.2.isNullable := by
  have hnullable := isNullable_eq_of_agrees h
  rw [columnProperty, isNullable_folded] at hnullable
  cases hoptional : optional required property with
  | true =>
    rw [← hnullable, hoptional]
    rfl
  | false =>
    rw [optional, Bool.or_eq_false_iff] at hoptional
    exact hoptional.2.symm

theorem object_agrees_form {annotations : Annotations} {properties : List (String × JsonSchema)}
    {required : Option (List String)} {k : ObjectKeywords JsonSchema}
    (hnames : (Members.names properties).Nodup) (hrequired : ∀ names ∈ required, names.Nodup)
    (h : (columnForm ⟨annotations, .object (some properties) required k⟩).agrees
      ⟨annotations, .object (some properties) required k⟩ = true)
    : annotations = {} ∧ k = {} ∧ properties ≠ [] ∧ RequiresExactly required properties ∧
      ∀ property ∈ properties, (columnProperty required property).2.agrees property.2 = true := by
  rw [columnForm_object, toJsonSchema_columns] at h
  obtain ⟨_, _, heq, hproperties, hnames'⟩ := object_agrees_iff.mp h
  cases heq
  have hnonempty : properties ≠ [] := by
    rintro rfl
    cases hproperties
  rw [present_map _ hnonempty, bothOr, Members.agreeWith_mapValues_iff,
    List.forall_mem_map] at hproperties
  have hagree : ∀ property ∈ properties,
      (columnProperty required property).2.agrees property.2 = true := by
    intro property hproperty
    obtain ⟨value, hvalue, hagrees⟩ := hproperties.2 property hproperty
    have hget := (Members.get?_eq_some_iff hnames).mpr hproperty
    obtain rfl := Option.some.inj (hvalue.symm.trans hget)
    exact hagrees
  refine ⟨rfl, rfl, hnonempty, ?_, hagree⟩
  rw [requiresExactly_iff hnames hrequired]
  . exact hnames'
  . intro property hproperty
    exact optional_eq_of_agrees (hagree property hproperty)

theorem withNull_agrees_form (hnullable : s.columnForm.isNullable = false)
    (h : s.columnForm.withNull.agrees s = true)
    : ∃ part, s = plain (.union ⟨part, null, []⟩) ∧ (∀ members, part.body ≠ .union members) ∧
      part.isNull = false ∧ part.columnForm.agrees part = true := by
  -- The schema is nullable and its form is not, so that the form is the one of a union's side.
  have hs : s.isNullable = true := by rw [← isNullable_eq_of_agrees h, isNullable_withNull]
  rcases eq_union_or_ne_union s.columnForm with ⟨annotations, list, hlist⟩ | hunion
  . -- A union to which null was added has other members besides a side.
    have hside : s.columnForm.withNull.side? = none := by
      rw [hlist]
      exact list.nullableSide?_push null
    rw [side?_eq_of_agrees h] at hside
    rw [isNullable_columnForm hside, hs] at hnullable
    cases hnullable
  . rw [withNull_of_not_union hunion] at h
    obtain ⟨⟨part, last, others⟩, rfl, hmembers⟩ := union_agrees_iff.mp h
    obtain ⟨hpart, hmembers⟩ := List.forall₂_cons.mp hmembers
    obtain ⟨hlast, hothers⟩ := List.forall₂_cons.mp hmembers
    obtain rfl : others = [] := List.forall₂_nil_left_iff.mp hothers
    have hscalar : Kind.null.isScalar = true := rfl
    obtain rfl : last = null := (scalar_agrees_iff hscalar).mp hlast
    have hnull : part.isNull = false := by
      rw [← isNull_eq_of_agrees hpart, ← isNullable_eq_isNull hunion, hnullable]
    have hpartUnion := ne_union_of_agrees hpart hunion
    rw [columnForm_nullable hnull] at hpart
    exact ⟨part, rfl, hpartUnion, hnull, hpart⟩

theorem convertible_of_bare : (s.Bare → s.Convertible) ∧ (s.BareColumn → s.Convertible) := by
  induction s using JsonSchema.induction with
  | step annotations body ih =>
    have hbare : Bare ⟨annotations, body⟩ → Convertible ⟨annotations, body⟩ := by
      intro h
      cases h with
      | @scalar kind scalar =>
        exact exists_toDataType_iff.mp ⟨_, toDataType_scalar kind.kind?_body scalar⟩
      | @array item bare =>
        refine .intro ⟨item, rfl⟩ ?_
        intro c hc
        obtain rfl := List.mem_singleton.mp hc
        exact (ih c (Body.parts_subset_subschemas _ hc)).1 bare
      | undeclared =>
        refine .intro trivial ?_
        intro c hc
        cases hc
      | object nonempty values requires =>
        refine .intro trivial ?_
        intro c hc
        obtain ⟨property, hproperty, rfl⟩ := List.mem_map.mp hc
        exact (ih _ (Body.parts_subset_subschemas _ hc)).2 (values property hproperty)
      | union members limit side =>
        refine .intro limit ?_
        intro member hmember
        exact (ih member hmember).1 (members member hmember)
    apply And.intro hbare
    intro h
    cases h with
    | bare bare => exact hbare bare
    | @nullable s bare union hnull =>
      have htwo : 2 ≤ unionLimit := by decide
      refine .intro htwo ?_
      intro c hc
      rcases List.mem_cons.mp hc with rfl | hc'
      . exact (ih c hc).1 bare
      . obtain rfl := List.mem_singleton.mp hc'
        exact exists_toDataType_iff.mp (exists_toDataType_of_isNull rfl)

section Parts

variable (hs : s.WellFormed) (hconvertible : s.body.Convertible)
  (hparts : ∀ c ∈ s.body.parts, (c.columnForm.agrees c = true → c.Bare) ∧
    ∀ nullable, (c.columnForm.folded nullable).agrees c = true → c.BareColumn)
include hs hconvertible hparts

theorem bare_of_columnForm_agrees (h : s.columnForm.agrees s = true) : s.Bare := by
  obtain ⟨annotations, body⟩ := s
  cases body with
  | untyped => exact hconvertible.elim
  | array items k =>
    obtain ⟨item, rfl⟩ := hconvertible
    rw [columnForm] at h
    obtain ⟨item', heq, hitem⟩ := array_agrees_iff.mp h
    cases heq
    exact .array ((hparts item (Body.item_mem_parts item {})).1 hitem)
  | object properties required k =>
    cases properties with
    | none =>
      obtain ⟨properties', required', heq, hproperties, hrequired⟩ := object_agrees_iff.mp h
      cases heq
      rw [bothOr_none_iff] at hrequired
      rw [hrequired]
      exact .undeclared
    | some properties =>
      obtain ⟨rfl, rfl, hnonempty, hrequires, hagree⟩ :=
        object_agrees_form (hs.names.self.1 properties rfl) hs.required.self h
      apply Bare.object hnonempty _ hrequires
      intro property hproperty
      have hpart := Body.property_mem_parts hproperty required {}
      exact (hparts property.2 hpart).2 _ (hagree property hproperty)
  | union members =>
    cases hside : members.nullableSide? with
    | some side =>
      -- No form is such a union, so none agrees with one.
      have hnone := side?_columnForm ⟨annotations, .union members⟩
      rw [side?_eq_of_agrees h, side?_union, hside] at hnone
      cases hnone
    | none =>
      rw [columnForm_union hside] at h
      obtain ⟨others, heq, hothers⟩ := union_agrees_iff.mp h
      cases heq
      rw [TwoOrMore.toList_map, List.forall₂_map_left_iff, List.forall₂_same] at hothers
      apply Bare.union _ hconvertible hside
      intro member hmember
      exact (hparts member hmember).1 (hothers member hmember)
  | _ =>
    rw [columnForm_of_scalar rfl rfl, scalar_agrees_iff rfl] at h
    rw [h]
    exact .scalar rfl

theorem bareColumn_of_folded_agrees {nullable : Bool}
    (h : (s.columnForm.folded nullable).agrees s = true)
    : s.BareColumn := by
  cases hfolded : nullable && !s.columnForm.isNullable with
  | false =>
    rw [folded_eq_self hfolded] at h
    exact .bare (bare_of_columnForm_agrees hs hconvertible hparts h)
  | true =>
    rw [Bool.and_eq_true, Bool.not_eq_true'] at hfolded
    obtain ⟨rfl, hnullable⟩ := hfolded
    rw [folded_true_of_not_isNullable hnullable] at h
    obtain ⟨part, rfl, hunion, hnull, hagree⟩ := withNull_agrees_form hnullable h
    exact .nullable ((hparts part List.mem_cons_self).1 hagree) hunion hnull

end Parts

theorem bare_of_agrees (hs : s.WellFormed) (hconvertible : s.Convertible)
    : (s.columnForm.agrees s = true → s.Bare) ∧
      ∀ nullable, (s.columnForm.folded nullable).agrees s = true → s.BareColumn := by
  induction s using JsonSchema.induction with
  | step annotations body ih =>
    have hparts (c : JsonSchema) (hc : c ∈ body.parts) :=
      have hmem := body.parts_subset_subschemas hc
      ih c hmem (hs.child hmem) (hconvertible.child hc)
    constructor
    . exact bare_of_columnForm_agrees hs hconvertible.self hparts
    . intro nullable
      exact bareColumn_of_folded_agrees hs hconvertible.self hparts

/--
The schemas that come back from their columns as they were, up to the order of properties and of
required names, are the bare ones and those of which `null` is the only other type.
-/
theorem roundTrip_agrees_iff (hs : s.WellFormed)
    : (∃ columns t, s.toColumnar = .ok columns ∧ columns.toJsonSchema = .ok t ∧
        t.agrees s = true) ↔ s.BareColumn := by
  constructor
  . rintro ⟨columns, t, hcolumns, ht, hagrees⟩
    rw [toJsonSchema_of_toColumnar hs.names hcolumns] at ht
    obtain rfl := Except.ok.inj ht
    exact (bare_of_agrees hs (exists_toColumnar_iff.mp ⟨columns, hcolumns⟩)).2 _ hagrees
  . intro h
    obtain ⟨columns, hcolumns⟩ := exists_toColumnar_iff.mpr (convertible_of_bare.2 h)
    exact ⟨columns, s.settled, hcolumns, toJsonSchema_of_toColumnar hs.names hcolumns,
      (agrees_of_bare hs).2 h⟩

def noteSchema : JsonSchema :=
  plain (.object
    (some [("note", plain (.union ⟨string, null, []⟩)), ("tags", array string), ("id", integer)])
    (some ["id", "tags"])
    {})

def noteColumns : Arrow.Schema where
  fields := [
    ⟨"note", .text .utf8, true, {}⟩,
    ⟨"tags", .list ⟨"item", .text .utf8, false, {}⟩, false, {}⟩,
    ⟨"id", .integer .int64, false, {}⟩]

theorem roundTrip_agrees_iff_note
    : noteSchema.WellFormed ∧ noteSchema.toColumnar = .ok noteColumns ∧ noteSchema.BareColumn := by
  have hs : noteSchema.WellFormed := ⟨by decide, by decide⟩
  have hcolumns : noteSchema.toColumnar = .ok noteColumns := by rfl
  have ht : noteColumns.toJsonSchema = .ok noteSchema.settled := by rfl
  have hagrees : noteSchema.settled.agrees noteSchema = true := by decide
  have hbare : noteSchema.BareColumn :=
    (roundTrip_agrees_iff hs).mp ⟨noteColumns, noteSchema.settled, hcolumns, ht, hagrees⟩
  exact ⟨hs, hcolumns, hbare⟩

end JsonSchema

end SchemaBridge
