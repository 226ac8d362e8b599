import SchemaBridge.Proofs.Columnar.WellFormed
import SchemaBridge.Proofs.JsonSchema.Agreement

/-!
This module contains the Arrow schemas that differ only in the order of columns, at the top level and
in all structs, and the proof that they describe schemas which agree. Main definitions:
`Arrow.DataType.Rearranged`, `Arrow.Schema.Rearranged`. Main statement:
`Arrow.toJsonSchema_of_rearranged`.
-/

namespace SchemaBridge

namespace Arrow

/--
Fields that are the same except for their types, which are related.
-/
inductive SameField (R : DataType → DataType → Prop) : Field → Field → Prop where
  | intro {name : String} {type type' : DataType} {nullable : Bool} {attributes : FieldAttributes}
      (related : R type type')
      : SameField R ⟨name, type, nullable, attributes⟩ ⟨name, type', nullable, attributes⟩

/--
Union members with the same type identifier that are the same except for their types.
-/
inductive SameMember (R : DataType → DataType → Prop) : Int8 × Field → Int8 × Field → Prop where
  | intro {id : Int8} {field field' : Field} (same : SameField R field field')
      : SameMember R (id, field) (id, field')

/--
Types that differ in nothing but the order of the columns of structs. Items and union members stay
where they are.
-/
inductive DataType.Rearranged : DataType → DataType → Prop where
  | refl (type : DataType) : Rearranged type type
  | list {item item' : Field} (same : SameField Rearranged item item')
      : Rearranged (.list item) (.list item')
  | largeList {item item' : Field} (same : SameField Rearranged item item')
      : Rearranged (.largeList item) (.largeList item')
  | struct {fields ordered fields' : List Field}
      (same : List.Forall₂ (SameField Rearranged) fields ordered) (perm : ordered.Perm fields')
      : Rearranged (.struct fields) (.struct fields')
  | union {members members' : List (Int8 × Field)}
      (same : List.Forall₂ (SameMember Rearranged) members members')
      : Rearranged (.union members .dense) (.union members' .dense)

/--
Schemas with the same columns in some order, whose types are rearranged in turn.
-/
structure Schema.Rearranged (columns columns' : Schema) : Prop where
  fields : Matched (SameField DataType.Rearranged) columns.fields columns'.fields
  metadata : columns'.metadata = columns.metadata

theorem rearranged_struct_iff {fields fields' : List Field}
    : (DataType.struct fields).Rearranged (.struct fields') ↔
      Matched (SameField DataType.Rearranged) fields fields' := by
  constructor
  . intro h
    cases h with
    | refl => exact .of_self fun _ _ => .intro (.refl _)
    | struct same perm => exact ⟨_, same, perm⟩
  . rintro ⟨ordered, hordered, hperm⟩
    exact .struct hordered hperm

/--
What passes from the types in fields to the types that are made of the fields holds of all types
that are rearranged.
-/
theorem rearranged_induction {P : DataType → DataType → Prop} (refl : ∀ type, P type type)
    (list : ∀ item item', SameField P item item' → P (.list item) (.list item'))
    (largeList : ∀ item item', SameField P item item' → P (.largeList item) (.largeList item'))
    (struct : ∀ fields fields', Matched (SameField P) fields fields' →
      P (.struct fields) (.struct fields'))
    (union : ∀ members members', List.Forall₂ (SameMember P) members members' →
      P (.union members .dense) (.union members' .dense))
    {type type' : DataType} (h : type.Rearranged type')
    : P type type' := by
  refine @DataType.Rearranged.rec (fun type type' _ => P type type')
    (fun field field' _ => SameField P field field')
    (fun fields fields' _ => List.Forall₂ (SameField P) fields fields')
    (fun members members' _ => List.Forall₂ (SameMember P) members members')
    (fun entry entry' _ => SameMember P entry entry')
    refl ?_ ?_ ?_ ?_ ?_ .nil ?_ .nil ?_ ?_ type type' h
  . exact fun _ => list _ _
  . exact fun _ => largeList _ _
  . exact fun _ hperm hfields => struct _ _ ⟨_, hfields, hperm⟩
  . exact fun _ => union _ _
  . exact fun _ htype => .intro htype
  . exact fun _ _ hfield hfields => .cons hfield hfields
  . exact fun _ _ hentry hentries => .cons hentry hentries
  . exact fun _ hfield => .intro hfield

theorem sameMember_sortById {R : DataType → DataType → Prop}
    {entries entries' : List (Int8 × Field)} (h : List.Forall₂ (SameMember R) entries entries')
    : List.Forall₂ (SameMember R) (sortById entries) (sortById entries') := by
  apply forall₂_mergeSort h
  rintro _ _ _ _ ⟨-⟩ ⟨-⟩
  rfl

end Arrow

namespace JsonSchema

variable {s t : JsonSchema}

theorem bothOr_present {α : Type} {related : List α → List α → Bool} {xs ys : List α}
    (hlength : xs.length = ys.length) (h : related xs ys = true)
    : bothOr related (present xs) (present ys) = true := by
  unfold present
  cases xs with
  | nil =>
    obtain rfl := List.length_eq_zero_iff.mp hlength.symm
    rfl
  | cons _ _ =>
    cases ys with
    | nil => cases hlength
    | cons _ _ => exact h

theorem columns_agree {columns columns' : Arrow.Columns}
    (hnames : columns.properties.names.Nodup) (hrequired : columns.required.Nodup)
    (hproperties : Matched SameProperty columns.properties columns'.properties)
    (hperm : columns.required.Perm columns'.required)
    : columns.toJsonSchema.agrees columns'.toJsonSchema = true := by
  rw [toJsonSchema_columns, toJsonSchema_columns]
  apply object_agrees_iff.mpr
  refine ⟨_, _, rfl, ?_, ?_⟩
  . apply bothOr_present hproperties.length_eq
    exact (Members.agreeWith_iff_matched hnames).mpr hproperties
  . apply bothOr_present hperm.length_eq
    exact (sameNames_iff_perm hrequired).mpr hperm

theorem withNull_agrees (h : s.agrees t = true) : s.withNull.agrees t.withNull = true := by
  rcases eq_union_or_ne_union s with ⟨annotations, members, rfl⟩ | hunion
  . obtain ⟨others, hothers, hmembers⟩ := exists_members_of_agrees h
    obtain ⟨annotations', _⟩ := t
    obtain rfl : _ = Body.union others := hothers
    rw [agrees_eq, Bool.and_eq_true] at h
    rw [withNull, withNull, agrees_eq, Bool.and_eq_true, Body.map, Body.agreeWith,
      TwoOrMore.toList_map, listAgreesWith_map_iff, TwoOrMore.toList_push, TwoOrMore.toList_push]
    exact ⟨h.1, List.rel_append hmembers (.cons null_agrees_null .nil)⟩
  . rw [withNull_of_not_union hunion, withNull_of_not_union (ne_union_of_agrees h hunion)]
    exact union_agrees_iff.mpr ⟨_, rfl, .cons h (.cons null_agrees_null .nil)⟩

theorem folded_agrees (h : s.agrees t = true) (nullable : Bool)
    : (s.folded nullable).agrees (t.folded nullable) = true := by
  unfold folded
  rw [isNullable_eq_of_agrees h]
  split
  . exact h
  . exact withNull_agrees h

end JsonSchema

namespace Arrow

open JsonSchema (SameProperty columns_agree folded_agrees)

section Types

variable {type type' : DataType} {s : JsonSchema}

/--
What a type describes agrees with itself.
-/
theorem agrees_self_of_toJsonSchema (h : type.toJsonSchema = .ok s) : s.agrees s = true := by
  apply toJsonSchema_induction (P := fun _ s => s.agrees s = true) _ _ _ _ h
  . intro _ kind _ _ hscalar
    exact (JsonSchema.scalar_agrees_iff hscalar).mpr rfl
  . intro _ item base _ _ hbase
    exact JsonSchema.array_agrees_iff.mpr ⟨base, rfl, hbase⟩
  . intro fields properties hproperties hdistinct hnames
    apply columns_agree hdistinct
    . rw [← hnames] at hdistinct
      exact nodup_requiredColumns hdistinct
    . apply Matched.of_self
      intro property hproperty
      obtain ⟨field, -, base, -, hbase, rfl⟩ := exists_left_of_forall₂ hproperties hproperty
      exact ⟨rfl, folded_agrees hbase field.nullable⟩
    . exact .refl _
  . intro members list hlist
    apply JsonSchema.union_agrees_iff.mpr
    refine ⟨list, rfl, ?_⟩
    rw [List.forall₂_same]
    intro member hmember
    obtain ⟨entry, -, -, h⟩ := exists_left_of_forall₂ hlist hmember
    exact h

/--
If the first type describes a schema, the second one describes a schema that agrees with it.
-/
def DescribesAlike (type type' : DataType) : Prop :=
  ∀ s, type.toJsonSchema = .ok s → ∃ s', type'.toJsonSchema = .ok s' ∧ s.agrees s' = true

theorem describesAlike_list {item item' : Field} (h : SameField DescribesAlike item item')
    : DescribesAlike (.list item) (.list item') := by
  intro s hs
  obtain ⟨hitem⟩ := h
  obtain ⟨base, hbase, rfl⟩ := toJsonSchema_list.mp hs
  obtain ⟨base', hbase', hagrees⟩ := hitem base hbase
  exact ⟨_, toJsonSchema_list.mpr ⟨base', hbase', rfl⟩,
    JsonSchema.array_agrees_iff.mpr ⟨base', rfl, hagrees⟩⟩

theorem exists_column {field field' : Field} (h : SameField DescribesAlike field field')
    {property : String × JsonSchema} (hcolumn : IsColumn field property)
    : ∃ property', SameProperty property property' ∧ IsColumn field' property' := by
  obtain ⟨htype⟩ := h
  obtain ⟨base, hbase, rfl⟩ := hcolumn
  obtain ⟨base', hbase', hagrees⟩ := htype base hbase
  exact ⟨(_, base'.folded _), ⟨rfl, folded_agrees hagrees _⟩, base', hbase', rfl⟩

theorem requiredColumns_perm {R : DataType → DataType → Prop} {fields fields' : List Field}
    (h : Matched (SameField R) fields fields')
    : (requiredColumns fields).Perm (requiredColumns fields') := by
  have heq (fields : List Field) : requiredColumns fields =
      ((fields.map fun field => (field.name, field.nullable)).filter fun label => !label.2).map
        Prod.fst := by
    rw [List.filter_map, List.map_map]
    rfl
  rw [heq, heq]
  apply ((h.map_perm ?_).filter _).map
  rintro _ _ ⟨-⟩
  rfl

theorem describesAlike_struct {fields fields' : List Field}
    (h : Matched (SameField DescribesAlike) fields fields')
    : DescribesAlike (.struct fields) (.struct fields') := by
  intro s hs
  obtain ⟨properties, hcolumns, hdistinct, rfl⟩ := toJsonSchema_struct.mp hs
  have hviewed : Matched (fun property field' => ∃ property', SameProperty property property' ∧
      IsColumn field' property') properties fields' :=
    h.of_common hcolumns fun _ _ _ _ hfield hcolumn => exists_column hfield hcolumn
  obtain ⟨properties', hproperties, hcolumns'⟩ := hviewed.exists_right
  have hnames : (Members.names properties).Perm (Members.names properties') :=
    hproperties.map_perm fun _ _ hproperty => hproperty.1.symm
  refine ⟨_, toJsonSchema_struct.mpr ⟨properties', hcolumns', hnames.nodup hdistinct, rfl⟩, ?_⟩
  apply columns_agree hdistinct _ hproperties (requiredColumns_perm h)
  rw [← names_eq_of_isColumn hcolumns] at hdistinct
  exact nodup_requiredColumns hdistinct

theorem describesAlike_union {members members' : List (Int8 × Field)}
    (h : List.Forall₂ (SameMember DescribesAlike) members members')
    : DescribesAlike (.union members .dense) (.union members' .dense) := by
  intro s hs
  obtain ⟨list, hlist, rfl⟩ := toJsonSchema_union.mp hs
  have hsorted : List.Forall₂ (fun member entry' => ∃ member', member.agrees member' = true ∧
      entry'.2.dataType.toJsonSchema = .ok member') list.toList (sortById members') := by
    apply forall₂_of_common hlist (sameMember_sortById h)
    rintro _ - member _ hmember ⟨⟨htype⟩⟩
    obtain ⟨member', hmember', hagrees⟩ := htype member hmember
    exact ⟨member', hagrees, hmember'⟩
  obtain ⟨converted, hagree, hconverted⟩ := exists_forall₂_of_exists hsorted
  obtain ⟨list', rfl⟩ : ∃ list' : JsonSchema.TwoOrMore JsonSchema, converted = list'.toList := by
    obtain ⟨first, _, -, hrest, rfl⟩ := List.forall₂_cons_left_iff.mp hagree
    obtain ⟨second, others, -, -, rfl⟩ := List.forall₂_cons_left_iff.mp hrest
    exact ⟨⟨first, second, others⟩, rfl⟩
  exact ⟨_, toJsonSchema_union.mpr ⟨list', hconverted, rfl⟩,
    JsonSchema.union_agrees_iff.mpr ⟨list', rfl, hagree⟩⟩

theorem describesAlike_of_rearranged (h : type.Rearranged type') : DescribesAlike type type' := by
  apply rearranged_induction _ _ _ _ _ h
  . exact fun _ s hs => ⟨s, hs, agrees_self_of_toJsonSchema hs⟩
  . exact fun _ _ hitem => describesAlike_list hitem
  . -- A large list describes the same as the list of its items.
    exact fun _ _ hitem => describesAlike_list hitem
  . exact fun _ _ hfields => describesAlike_struct hfields
  . exact fun _ _ hmembers => describesAlike_union hmembers

end Types

section Schemas

theorem toJsonSchema_wrapped_of_rearranged {field field' : Field}
    {metadata metadata' : Members String} {t : JsonSchema}
    (h : SameField DataType.Rearranged field field') (hname : field.name = rootField)
    (ht : Schema.toJsonSchema ⟨[field], metadata⟩ = .ok t)
    : ∃ t', Schema.toJsonSchema ⟨[field'], metadata'⟩ = .ok t' ∧ t.agrees t' = true := by
  obtain ⟨base, hbase, rfl⟩ := (toJsonSchema_wrapped hname).mp ht
  obtain ⟨htype⟩ := h
  obtain ⟨base', hbase', hagrees⟩ := describesAlike_of_rearranged htype base hbase
  refine ⟨_, (toJsonSchema_wrapped ?_).mpr ⟨base', hbase', rfl⟩, folded_agrees hagrees _⟩
  exact hname

theorem toJsonSchema_struct_of_names {fields : List Field} {metadata : Members String}
    (h : fields.map FieldOf.name ≠ [rootField])
    : Schema.toJsonSchema ⟨fields, metadata⟩ = (DataType.struct fields).toJsonSchema := by
  apply toJsonSchema_columns
  rintro field rfl hname
  rw [List.map_singleton, hname] at h
  exact h rfl

/--
Schemas whose columns stand in another order, on whatever level, describe schemas that agree.
-/
theorem toJsonSchema_of_rearranged {columns columns' : Schema} {t : JsonSchema}
    (h : columns.Rearranged columns') (ht : columns.toJsonSchema = .ok t)
    : ∃ t', columns'.toJsonSchema = .ok t' ∧ t.agrees t' = true := by
  obtain ⟨fields, metadata⟩ := columns
  obtain ⟨fields', metadata'⟩ := columns'
  have hnames : (fields.map FieldOf.name).Perm (fields'.map FieldOf.name) := by
    apply h.fields.map_perm
    rintro _ _ ⟨-⟩
    rfl
  -- Only one column can be taken for a wrapped schema, and it has no other place to go.
  by_cases hroot : fields.map FieldOf.name = [rootField]
  . obtain ⟨field, rfl, hname⟩ := List.map_eq_singleton_iff.mp hroot
    obtain ⟨field', rfl, hsame⟩ := Matched.singleton_iff.mp h.fields
    exact toJsonSchema_wrapped_of_rearranged hsame hname ht
  . have hroot' : fields'.map FieldOf.name ≠ [rootField] := by
      intro heq
      rw [heq, List.perm_singleton] at hnames
      exact hroot hnames
    rw [toJsonSchema_struct_of_names hroot] at ht
    rw [toJsonSchema_struct_of_names hroot']
    exact describesAlike_of_rearranged (rearranged_struct_iff.mpr h.fields) t ht

end Schemas

end Arrow

end SchemaBridge
