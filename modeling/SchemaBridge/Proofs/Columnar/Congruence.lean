import SchemaBridge.Proofs.Columnar.Convertible
import SchemaBridge.Proofs.Columnar.Rearranged

/-!
This module contains the proof that schemas which agree are converted alike: both have columns or
none has, the columns differ in their order only, and they describe schemas that agree again. Main
definition: `ConvertsAlike`. Main statement: `toColumnar_of_agrees`.
-/

namespace SchemaBridge

namespace JsonSchema

open Arrow (DataType Field SameField SameMember rootField)

variable {s t : JsonSchema}

/-!
Schemas that agree are made of schemas that agree, and so they are convertible together.
-/

theorem parts_matched (hs : s.WellFormed) (h : s.agrees t = true)
    : Matched (fun c c' => c.agrees c' = true) s.body.parts t.body.parts := by
  obtain ⟨annotations, body⟩ := s
  cases body with
  | array items k =>
    obtain ⟨items', k', hbody, hitems⟩ := exists_items_of_agrees h
    rw [hbody]
    rcases items with _ | _ | item
    . rw [bothOr_none_iff.mp hitems]
      exact .of_forall₂ .nil
    . obtain ⟨slot, rfl, hslot⟩ := bothOr_some_iff.mp hitems
      cases slot with
      | bool b => exact .of_forall₂ .nil
      | schema item' => cases hslot
    . obtain ⟨slot, rfl, hslot⟩ := bothOr_some_iff.mp hitems
      cases slot with
      | bool b => cases hslot
      | schema item' => exact .of_forall₂ (.cons hslot .nil)
  | object properties required k =>
    cases properties with
    | none =>
      obtain ⟨required', k', hbody⟩ := exists_undeclared_of_agrees h
      rw [hbody]
      exact .of_forall₂ .nil
    | some properties =>
      have hnames : (Members.names properties).Nodup := hs.names.self.1 properties rfl
      obtain ⟨properties', required', k', hbody, hproperties, -⟩ :=
        exists_properties_of_agrees hnames hs.required.self h
      rw [hbody]
      exact hproperties.map fun _ _ hproperty => hproperty.2
  | union members =>
    obtain ⟨others, hbody, hmembers⟩ := exists_members_of_agrees h
    rw [hbody]
    exact .of_forall₂ hmembers
  | _ =>
    obtain ⟨annotations', body'⟩ := t
    rw [agrees_eq, Bool.and_eq_true] at h
    cases body' with
    | array items' k' => cases h.2
    | object properties' required' k' => cases h.2
    | union others => cases h.2
    | _ => exact .of_forall₂ .nil

/--
Whether a body is convertible depends on its type and on how many schemas it has for values.
-/
theorem Body.convertible_iff {σ : Type} {body : Body σ}
    : body.Convertible ↔ body.typeName ≠ "untyped" ∧
      (body.typeName = "array" → body.parts.length ≠ 0) ∧
      (body.typeName = "union" → body.parts.length ≤ unionLimit) := by
  cases body with
  | array items k =>
    rcases items with _ | _ | item <;>
      simp [Convertible, typeName, parts, slotSubschemas, BoolOr.subschemas]
  | _ => simp [Convertible, typeName, parts]

theorem convertible_iff_of_agrees (hs : s.WellFormed) (h : s.agrees t = true)
    : s.Convertible ↔ t.Convertible := by
  induction s using JsonSchema.induction generalizing t with
  | step annotations body ih =>
    have hparts := parts_matched hs h
    unfold Convertible Everywhere
    rw [Everywhere.iff_self_and_children, Everywhere.iff_self_and_children]
    apply and_congr
    . rw [Body.convertible_iff, Body.convertible_iff, typeName_eq_of_agrees h, hparts.length_eq]
    . apply hparts.forall_mem_iff
      intro c hc c' hagrees
      have hmem := Body.parts_subset_subschemas _ hc
      exact ih c hmem (hs.child hmem) hagrees

/-!
The types of schemas that agree differ in the order of columns only.
-/

/--
If both schemas have types, the types differ in the order of columns only.
-/
def ConvertsAlike (s t : JsonSchema) : Prop :=
  ∀ type type', s.toDataType = .ok type → t.toDataType = .ok type' → type.Rearranged type'

theorem convertsAlike_of_scalar {kind : Kind} (hkind : s.body.kind? = some kind)
    (hscalar : kind.isScalar = true) (h : s.agrees t = true)
    : ConvertsAlike s t := by
  intro type type' htype htype'
  have hkind' : t.body.kind? = some kind := by
    rw [Body.kind?_eq_ofName?, ← typeName_eq_of_agrees h, ← Body.kind?_eq_ofName?]
    exact hkind
  rw [toDataType_scalar hkind hscalar, ← toDataType_scalar hkind' hscalar, htype'] at htype
  obtain rfl := Except.ok.inj htype
  exact .refl _

theorem convertsAlike_array {annotations : Annotations} {items : Option (BoolOr JsonSchema)}
    {k : ArrayKeywords JsonSchema} (h : agrees ⟨annotations, .array items k⟩ t = true)
    (hparts : ∀ item ∈ (Body.array items k).parts, ∀ item', item.agrees item' = true →
      ConvertsAlike item item')
    : ConvertsAlike ⟨annotations, .array items k⟩ t := by
  intro type type' htype htype'
  obtain ⟨annotations', body'⟩ := t
  obtain ⟨items', k', hbody, hslots⟩ := exists_items_of_agrees h
  obtain rfl : body' = .array items' k' := hbody
  obtain ⟨item, itemType, rfl, hitem, rfl⟩ := toDataType_array.mp htype
  obtain ⟨item', itemType', rfl, hitem', rfl⟩ := toDataType_array.mp htype'
  have hagrees : item.agrees item' = true := hslots
  have halike := hparts item (Body.item_mem_parts item k) item' hagrees
  rw [isNullable_eq_of_agrees hagrees]
  exact .list (.intro (halike itemType itemType' hitem hitem'))

theorem matched_propertyFields {required required' : Option (List String)}
    {properties properties' : List (String × JsonSchema)} {fields fields' : List Field}
    (hproperties : Matched SameProperty properties properties')
    (hrequires : ∀ name, requires required name = requires required' name)
    (hfields : List.Forall₂ (IsPropertyField required) properties fields)
    (hfields' : List.Forall₂ (IsPropertyField required') properties' fields')
    (halike : ∀ property ∈ properties, ∀ value', property.2.agrees value' = true →
      ConvertsAlike property.2 value')
    : Matched (SameField DataType.Rearranged) fields fields' := by
  have hmatched : Matched (fun property field' => ∃ property', SameProperty property property' ∧
      IsPropertyField required' property' field') properties fields' :=
    hproperties.comp hfields' fun _ _ property' _ hproperty hfield' =>
      ⟨property', hproperty, hfield'⟩
  apply hmatched.of_common hfields
  rintro property hproperty _ _ ⟨property', ⟨hname, hagrees⟩, type', htype', rfl⟩ ⟨type, htype, rfl⟩
  have hoptional : optional required' property' = optional required property := by
    rw [optional, optional, hrequires, hname, isNullable_eq_of_agrees hagrees]
  rw [hname, hoptional]
  exact .intro (halike property hproperty property'.2 hagrees type type' htype htype')

theorem convertsAlike_object {annotations : Annotations}
    {properties : Option (List (String × JsonSchema))} {required : Option (List String)}
    {k : ObjectKeywords JsonSchema}
    (hs : WellFormed ⟨annotations, .object properties required k⟩)
    (h : agrees ⟨annotations, .object properties required k⟩ t = true)
    (hparts : ∀ value ∈ (Body.object properties required k).parts, ∀ value',
      value.agrees value' = true → ConvertsAlike value value')
    : ConvertsAlike ⟨annotations, .object properties required k⟩ t := by
  intro type type' htype htype'
  obtain ⟨annotations', body'⟩ := t
  cases properties with
  | none =>
    obtain ⟨required', k', hbody⟩ := exists_undeclared_of_agrees h
    obtain rfl : body' = .object none required' k' := hbody
    obtain rfl := toDataType_object_none.mp htype
    obtain rfl := toDataType_object_none.mp htype'
    exact .refl _
  | some properties =>
    have hnames : (Members.names properties).Nodup := hs.names.self.1 properties rfl
    obtain ⟨properties', required', k', hbody, hproperties, hrequires⟩ :=
      exists_properties_of_agrees hnames hs.required.self h
    obtain rfl : body' = .object (some properties') required' k' := hbody
    obtain ⟨fields, hfields, rfl⟩ := toDataType_object_some.mp htype
    obtain ⟨fields', hfields', rfl⟩ := toDataType_object_some.mp htype'
    apply Arrow.rearranged_struct_iff.mpr
    apply matched_propertyFields hproperties hrequires hfields hfields'
    intro property hproperty
    exact hparts property.2 (Body.property_mem_parts hproperty required k)

theorem get_agrees {members others : TwoOrMore JsonSchema}
    (h : List.Forall₂ (fun s t => s.agrees t = true) members.toList others.toList)
    (side : NullableSide)
    : (members.get side).agrees (others.get side) = true := by
  obtain ⟨hfirst, hrest⟩ := List.forall₂_cons.mp h
  cases side with
  | first => exact hfirst
  | second => exact (List.forall₂_cons.mp hrest).1

theorem sameMember_memberFields {members others : List JsonSchema} {ordinal : Nat}
    {fields fields' : List (Int8 × Field)}
    (hmembers : List.Forall₂ (fun s t => s.agrees t = true) members others)
    (hfields : List.Forall₂ IsMemberField (members.zipIdx ordinal) fields)
    (hfields' : List.Forall₂ IsMemberField (others.zipIdx ordinal) fields')
    (halike : ∀ member ∈ members, ∀ other, member.agrees other = true →
      ConvertsAlike member other)
    : List.Forall₂ (SameMember DataType.Rearranged) fields fields' := by
  induction hmembers generalizing ordinal fields fields' with
  | nil =>
    obtain rfl := List.forall₂_nil_left_iff.mp hfields
    obtain rfl := List.forall₂_nil_left_iff.mp hfields'
    exact .nil
  | @cons member other _ _ hagrees _ ih =>
    obtain ⟨hhead, htail⟩ := List.forall_mem_cons.mp halike
    rw [List.zipIdx_cons, List.forall₂_cons_left_iff] at hfields hfields'
    obtain ⟨_, rest, ⟨type, htype, rfl⟩, hrest, rfl⟩ := hfields
    obtain ⟨_, rest', ⟨type', htype', rfl⟩, hrest', rfl⟩ := hfields'
    have hname : member.typeName = other.typeName := typeName_eq_of_agrees hagrees
    rw [hname, isNullable_eq_of_agrees hagrees]
    apply List.Forall₂.cons
    . exact .intro (.intro (hhead other hagrees type type' htype htype'))
    . exact ih hrest hrest' htail

theorem convertsAlike_union {annotations : Annotations} {members : TwoOrMore JsonSchema}
    (h : agrees ⟨annotations, .union members⟩ t = true)
    (hparts : ∀ member ∈ members.toList, ∀ other, member.agrees other = true →
      ConvertsAlike member other)
    : ConvertsAlike ⟨annotations, .union members⟩ t := by
  intro type type' htype htype'
  obtain ⟨annotations', body'⟩ := t
  obtain ⟨others, hbody, hmembers⟩ := exists_members_of_agrees h
  obtain rfl : body' = .union others := hbody
  have hsides : others.nullableSide? = members.nullableSide? :=
    (TwoOrMore.nullableSide?_congr (map_isNull_eq_of_agree hmembers)).symm
  cases hside : members.nullableSide? with
  | some side =>
    -- The type is the one of the member that is not null, and both unions have it in one place.
    rw [toDataType_union_of_side hside] at htype
    rw [toDataType_union_of_side (hsides.trans hside)] at htype'
    exact hparts _ (members.get_mem side) _ (get_agrees hmembers side) type type' htype htype'
  | none =>
    obtain ⟨-, fields, hfields, rfl⟩ := (toDataType_union hside).mp htype
    obtain ⟨-, fields', hfields', rfl⟩ := (toDataType_union (hsides.trans hside)).mp htype'
    exact .union (sameMember_memberFields hmembers hfields hfields' hparts)

theorem convertsAlike_of_agrees (hs : s.WellFormed) (h : s.agrees t = true)
    : ConvertsAlike s t := by
  induction s using JsonSchema.induction generalizing t with
  | step annotations body ih =>
    have hparts (c : JsonSchema) (hc : c ∈ body.parts) (c' : JsonSchema)
        (hagrees : c.agrees c' = true)
        : ConvertsAlike c c' := by
      have hmem := Body.parts_subset_subschemas _ hc
      exact ih c hmem (hs.child hmem) hagrees
    cases body with
    | untyped =>
      intro _ _ htype
      exact (toDataType_untyped.mp htype).elim
    | array items k => exact convertsAlike_array h hparts
    | object properties required k => exact convertsAlike_object hs h hparts
    | union members => exact convertsAlike_union h hparts
    | _ => exact convertsAlike_of_scalar rfl rfl h

/-!
Schemas that agree are wrapped alike.
-/

theorem looksWrapped_iff {properties : List (String × JsonSchema)}
    : looksWrapped properties = true ↔ (Members.names properties).Perm [rootField] := by
  rw [List.perm_singleton]
  match properties with
  | [] => simp [looksWrapped, Members.names]
  | [_] => simp [looksWrapped, Members.names]
  | _ :: _ :: _ => simp [looksWrapped, Members.names]

theorem unwrapped_eq_of_agrees (hs : s.WellFormed) (h : s.agrees t = true)
    : s.body.unwrapped = t.body.unwrapped := by
  obtain ⟨annotations, body⟩ := s
  cases body with
  | object properties required k =>
    cases properties with
    | none =>
      obtain ⟨required', k', hbody⟩ := exists_undeclared_of_agrees h
      rw [hbody]
      rfl
    | some properties =>
      have hnames : (Members.names properties).Nodup := hs.names.self.1 properties rfl
      obtain ⟨properties', required', k', hbody, hproperties, -⟩ :=
        exists_properties_of_agrees hnames hs.required.self h
      have hperm : (Members.names properties).Perm (Members.names properties') :=
        hproperties.map_perm fun _ _ hproperty => hproperty.1.symm
      rw [hbody, Body.unwrapped, Body.unwrapped]
      apply congrArg
      rw [Bool.eq_iff_iff, looksWrapped_iff, looksWrapped_iff]
      exact hperm.congr_left _
  | _ =>
    obtain ⟨annotations', body'⟩ := t
    rw [agrees_eq, Bool.and_eq_true] at h
    cases body' with
    | object properties' required' k' => cases h.2
    | _ => rfl

theorem rearranged_of_toColumnar {columns columns' : Arrow.Schema} (hs : s.WellFormed)
    (h : s.agrees t = true) (hcolumns : s.toColumnar = .ok columns)
    (hcolumns' : t.toColumnar = .ok columns')
    : columns.Rearranged columns' := by
  have hunwrapped := unwrapped_eq_of_agrees hs h
  cases hbody : s.body.unwrapped with
  | false =>
    obtain ⟨type, htype, rfl⟩ := (toColumnar_wrapped hbody).mp hcolumns
    obtain ⟨type', htype', rfl⟩ :=
      (toColumnar_wrapped (hunwrapped.symm.trans hbody)).mp hcolumns'
    refine ⟨.of_forall₂ (.cons ?_ .nil), rfl⟩
    rw [isNullable_eq_of_agrees h]
    exact .intro (convertsAlike_of_agrees hs h type type' htype htype')
  | true =>
    obtain ⟨fields, htype, rfl⟩ := (toColumnar_unwrapped hbody).mp hcolumns
    obtain ⟨fields', htype', rfl⟩ :=
      (toColumnar_unwrapped (hunwrapped.symm.trans hbody)).mp hcolumns'
    have hrearranged := convertsAlike_of_agrees hs h _ _ htype htype'
    exact ⟨Arrow.rearranged_struct_iff.mp hrearranged, rfl⟩

/--
Of two schemas that agree, both have columns or none has. The columns are the same up to their order
at the top level and in all structs, and what they describe agrees again.
-/
theorem toColumnar_of_agrees (hs : s.WellFormed) (h : s.agrees t = true)
    : ((∃ columns, s.toColumnar = .ok columns) ↔ ∃ columns, t.toColumnar = .ok columns) ∧
      ∀ columns columns', s.toColumnar = .ok columns → t.toColumnar = .ok columns' →
        columns.Rearranged columns' ∧
          ∃ s' t', columns.toJsonSchema = .ok s' ∧ columns'.toJsonSchema = .ok t' ∧
            s'.agrees t' = true := by
  rw [exists_toColumnar_iff, exists_toColumnar_iff]
  refine ⟨convertible_iff_of_agrees hs h, ?_⟩
  intro columns columns' hcolumns hcolumns'
  have hrearranged := rearranged_of_toColumnar hs h hcolumns hcolumns'
  have hs' := toJsonSchema_of_toColumnar hs.names hcolumns
  obtain ⟨t', ht', hagrees⟩ := Arrow.toJsonSchema_of_rearranged hrearranged hs'
  exact ⟨hrearranged, s.settled, t', hs', ht', hagrees⟩

/--
A delivery: where it comes from, what it holds, and a note if there is one.
-/
def deliverySchema : JsonSchema where
  annotations := { title := some "delivery" }
  body := .object
    (some [
      ("origin", plain (.object
        (some [("city", string), ("street", ⟨{}, .string { minLength := some 1 }⟩)])
        (some ["city", "street"]) {})),
      ("content", array (plain (.union {
        first := string
        second := plain (.object (some [("code", integer), ("weight", number)]) (some ["code"]) {})
        others := [] }))),
      ("note", plain (.union ⟨null, string, []⟩))])
    (some ["origin", "content"])
    {}

/--
The same delivery, of which everything is listed in another order.
-/
def relistedSchema : JsonSchema where
  annotations := { title := some "delivery" }
  body := .object
    (some [
      ("note", plain (.union ⟨null, string, []⟩)),
      ("origin", plain (.object
        (some [("street", ⟨{}, .string { minLength := some 1 }⟩), ("city", string)])
        (some ["street", "city"]) {})),
      ("content", array (plain (.union {
        first := string
        second := plain (.object (some [("weight", number), ("code", integer)]) (some ["code"]) {})
        others := [] })))])
    (some ["content", "origin"])
    {}

theorem toColumnar_of_agrees_delivery
    : deliverySchema.WellFormed ∧ deliverySchema.agrees relistedSchema = true ∧
      ∃ columns columns', deliverySchema.toColumnar = .ok columns ∧
        relistedSchema.toColumnar = .ok columns' ∧ columns.Rearranged columns' ∧
        columns.fields.map Arrow.FieldOf.name = ["origin", "content", "note"] ∧
        columns'.fields.map Arrow.FieldOf.name = ["note", "origin", "content"] ∧
        ∃ s' t', columns.toJsonSchema = .ok s' ∧ columns'.toJsonSchema = .ok t' ∧
          s'.agrees t' = true := by
  have hs : deliverySchema.WellFormed := ⟨by decide, by decide⟩
  have h : deliverySchema.agrees relistedSchema = true := by decide
  obtain ⟨columns, hcolumns⟩ : ∃ columns, deliverySchema.toColumnar = .ok columns := ⟨_, rfl⟩
  obtain ⟨hiff, hall⟩ := toColumnar_of_agrees hs h
  obtain ⟨columns', hcolumns'⟩ := hiff.mp ⟨columns, hcolumns⟩
  obtain ⟨hrearranged, hdescribed⟩ := hall columns columns' hcolumns hcolumns'
  refine ⟨hs, h, columns, columns', hcolumns, hcolumns', hrearranged, ?_, ?_, hdescribed⟩
  . cases hcolumns
    rfl
  . cases hcolumns'
    rfl

end JsonSchema

end SchemaBridge
